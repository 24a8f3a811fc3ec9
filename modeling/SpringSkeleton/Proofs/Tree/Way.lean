import SpringSkeleton.Proofs.Tree.Confined
import SpringSkeleton.Proofs.Tree.Inside
import SpringSkeleton.Proofs.Tree.Revision

namespace SpringSkeleton

namespace Location
variable {place other : Location} {front back names : List String}

-- The places that some names come by, one after the other.
def way (place : Location) : List String → List Location
  | [] => []
  | name :: rest => (place ++ [name]) :: way (place ++ [name]) rest

theorem way_append (place : Location) (front back : List String) :
    place.way (front ++ back) = place.way front ++ (place ++ front).way back := by
  induction front generalizing place with
  | nil => simp [way]
  | cons name rest ih => simp [way, ih]

theorem mem_way : other ∈ place.way names ↔
    ∃ front, front ≠ [] ∧ front <+: names ∧ other = place ++ front := by
  induction names generalizing place with
  | nil => simp [way, List.prefix_nil]
  | cons name rest ih =>
    rw [way, List.mem_cons, ih]
    constructor
    · rintro (rfl | ⟨front, _, initial, rfl⟩)
      · exact ⟨[name], by simp, by simp, rfl⟩
      · exact ⟨name :: front, by simp, List.cons_prefix_cons.mpr ⟨rfl, initial⟩, by simp⟩
    · rintro ⟨front, some_, initial, rfl⟩
      cases front with
      | nil => exact absurd rfl some_
      | cons first more =>
        obtain ⟨rfl, further⟩ := List.cons_prefix_cons.mp initial
        cases more with
        | nil => exact .inl rfl
        | cons second others => exact .inr ⟨second :: others, by simp, further, by simp⟩

theorem length_way (place : Location) (names : List String) : (place.way names).length = names.length := by
  induction names generalizing place with
  | nil => rfl
  | cons name rest ih => simp [way, ih]

theorem way_initial {places : List Location} (initial : places <+: place.way names) :
    ∃ front, front <+: names ∧ places = place.way front := by
  induction names generalizing place places with
  | nil => exact ⟨[], List.prefix_rfl, List.prefix_nil.mp initial⟩
  | cons name rest ih =>
    cases places with
    | nil => exact ⟨[], List.nil_prefix, rfl⟩
    | cons first more =>
      obtain ⟨rfl, further⟩ := List.cons_prefix_cons.mp initial
      obtain ⟨front, within, rfl⟩ := ih further
      exact ⟨name :: front, List.cons_prefix_cons.mpr ⟨rfl, within⟩, rfl⟩

end Location

namespace Tree
variable {tree : Tree} {place : Location} {names : List String}

theorem Leads.way (leads : tree.Leads place names) (down : ".." ∉ names) {other : Location}
    (member : other ∈ place.way names) : tree.node? other = some .directory ∧
      (other.getLast?.getD "").utf8ByteSize ≤ longestName := by
  obtain ⟨front, some_, initial, rfl⟩ := Location.mem_way.mp member
  obtain ⟨before, last, rfl⟩ : ∃ before last, front = before ++ [last] :=
    ⟨_, _, (List.dropLast_concat_getLast some_).symm⟩
  have below : ".." ∉ before ++ [last] := fun up => down (initial.subset up)
  have last_down : last ≠ ".." := fun up => below (by simp [up])
  have before_down : ".." ∉ before := fun up => below (List.mem_append_left _ up)
  obtain ⟨_, short, stands⟩ := (leads_concat last_down).mp (leads.initial initial)
  rw [Location.descend_names _ before_down, List.append_assoc] at stands
  exact ⟨stands, by simpa [← List.append_assoc] using short⟩

-- Where a walk down by some names ends if it does not lead all the way.
theorem stuck_cases (linkFree : tree.LinkFree) (down : ".." ∉ names) (lost : ¬ tree.Leads place names) :
    ∃ front name back problem, names = front ++ name :: back ∧ tree.Leads place front ∧
      tree.pass place names = .error problem ∧
      (longestName < name.utf8ByteSize ∧ problem = .nameTooLong ∨
        name.utf8ByteSize ≤ longestName ∧
          (∃ content, tree.node? (place ++ front ++ [name]) = some (.file content)) ∧
            problem = .notDirectory ∨
        tree.node? (place ++ front ++ [name]) = none ∧ problem = .missing) := by
  induction names generalizing place with
  | nil => exact absurd trivial lost
  | cons name rest ih =>
    have first : name ≠ ".." := fun up => down (by simp [up])
    have others : ".." ∉ rest := fun up => down (List.mem_cons_of_mem _ up)
    by_cases long : longestName < name.utf8ByteSize
    · exact ⟨[], name, rest, .nameTooLong, rfl, trivial, by simp [pass, first, long], .inl ⟨long, rfl⟩⟩
    · have short := Nat.not_lt.mp long
      cases stands : tree.node? (place ++ [name]) with
      | none =>
        exact ⟨[], name, rest, .missing, rfl, trivial, by simp [pass, first, long, stands],
          .inr (.inr ⟨by simpa using stands, rfl⟩)⟩
      | some node =>
        cases node with
        | link target => exact absurd stands (linkFree _ target)
        | file content =>
          exact ⟨[], name, rest, .notDirectory, rfl, trivial, by simp [pass, first, long, stands],
            .inr (.inl ⟨short, ⟨content, by simpa using stands⟩, rfl⟩)⟩
        | directory =>
          have enters : name ≠ ".." → name.utf8ByteSize ≤ longestName ∧
              tree.node? (place ++ [name]) = some .directory := fun _ => ⟨short, stands⟩
          have climbed : place.climb name = place ++ [name] := Location.climb_name place first
          have further : ¬ tree.Leads (place ++ [name]) rest :=
            fun leads => lost ⟨enters, by rwa [climbed]⟩
          obtain ⟨front, next, back, problem, order, leads, stuck, which⟩ := ih others further
          refine ⟨name :: front, next, back, problem, by rw [order]; rfl, ⟨enters, by rwa [climbed]⟩, ?_, ?_⟩
          · rwa [pass_cons enters, climbed]
          · simpa using which

end Tree

namespace Disk
open SpringSkeleton.Tree (Edits)
variable {disk : Disk} {base directory path : Path} {goal place : Location}
variable {front names : List String} {name : String}

-- What hinders making a directory, on the way to another one or as the last.
def obstacle? (disk : Disk) (goal place : Location) : Option FileProblem :=
  if longestName < (place.getLast?.getD "").utf8ByteSize then some .nameTooLong
  else match disk.tree.node? place with
    | some (.file _) => some (if place = goal then .alreadyExists else .notDirectory)
    | _ => none

def directoryEdits (places : List Location) : Edits :=
  Tree.editsOf (fun place => [(place, some .directory)]) places

theorem mem_directoryEdits {places : List Location} {left : Option Node} :
    (place, left) ∈ directoryEdits places ↔ place ∈ places ∧ left = some .directory := by
  rw [directoryEdits, Tree.mem_editsOf]
  simp

-- A place farther down is no place of the way.
theorem untouched_below {after : Disk} (revises : Revises (directoryEdits (place.way front)) disk after)
    (farther : front.length < names.length) :
    after.tree.node? (place ++ names) = disk.tree.node? (place ++ names) := by
  rcases revises.cases (place ++ names) with same | ⟨left, member, _⟩
  · exact same
  · obtain ⟨shorter, _, initial, whole⟩ := Location.mem_way.mp (mem_directoryEdits.mp member).1
    have length := initial.length_le
    rw [← List.append_cancel_left whole] at length
    exact absurd length (Nat.not_le.mpr farther)

-- Only for a file it matters whether the way ends there.
theorem obstacle?_of_no_file (open_ : ∀ content, disk.tree.node? place ≠ some (.file content))
    (first second : Location) : disk.obstacle? first place = disk.obstacle? second place := by
  unfold obstacle?
  cases stands : disk.tree.node? place with
  | none => rfl
  | some node =>
    cases node with
    | file content => exact absurd stands (open_ content)
    | directory => rfl
    | link target => rfl

theorem obstacle?_of_leads (goal : Location) (leads : disk.tree.Leads place names) (down : ".." ∉ names)
    {other : Location} (member : other ∈ place.way names) : disk.obstacle? goal other = none := by
  obtain ⟨stands, short⟩ := leads.way down member
  rw [obstacle?, if_neg (Nat.not_lt.mpr short), stands]

-- The places of the way that are directories already are made again for nothing.
theorem revises_standing (leads : disk.tree.Leads place names) (down : ".." ∉ names) :
    Revises (directoryEdits (place.way names)) disk disk := by
  refine revises_idle ?_ ?_
  · rintro ⟨other, left⟩ member
    obtain ⟨front, some_, _, rfl⟩ := Location.mem_way.mp (mem_directoryEdits.mp member).1
    simp [some_]
  · rintro ⟨other, left⟩ member
    obtain ⟨inside, rfl⟩ := mem_directoryEdits.mp member
    exact (leads.way down inside).1

-- In a directory that stands, the next one is made unless something hinders it.
theorem attempt_inside (linkFree : disk.tree.LinkFree)
    (leads : disk.tree.Leads (disk.start directory) directory.steps) (isName : Path.IsName name)
    (admissible : (directory.join ⟨name⟩).Admissible) :
    let place := disk.placeOf directory ++ [name]
    disk.makeDirectory (directory.join ⟨name⟩) ≠ .error .missing ∧
      (disk.attempt (directory.join ⟨name⟩)).1 = outcomeOf (disk.obstacle? place place) ∧
      Revises (directoryEdits (untilHindered (disk.obstacle? place) [place]).1) disk
        (disk.attempt (directory.join ⟨name⟩)).2 := by
  intro place
  have last : place.getLast?.getD "" = name := by simp [place]
  have somewhere : place ≠ [] := by simp [place]
  have made := makeDirectory_inside linkFree leads isName
  have there := isDirectory_inside linkFree leads isName
  by_cases long : longestName < name.utf8ByteSize
  · have refused : directory.refusal? name = some .nameTooLong := by
      simp [Path.refusal?, Path.fault?_eq_none_iff.mpr admissible, long]
    have absent : disk.isDirectory (directory.join ⟨name⟩) = false := by
      rw [← Bool.not_eq_true, there, refused]
      simp
    have hindered : disk.obstacle? place place = some .nameTooLong := by
      rw [obstacle?, last, if_pos long]
    rw [refused] at made
    simp only at made
    rw [attempt, made, absent, untilHindered, hindered]
    exact ⟨by simp, rfl, .refl⟩
  · have allowed := Path.refusal?_eq_none_iff.mpr ⟨admissible, Nat.not_lt.mp long⟩
    rw [allowed] at made there
    have obstacle : disk.obstacle? place place = match disk.tree.node? place with
        | some (.file _) => some .alreadyExists
        | _ => none := by
      rw [obstacle?, last, if_neg long]
      simp
    simp only [true_and] at made there
    cases stands : disk.tree.node? place with
    | none =>
      rw [show disk.tree.node? (disk.placeOf directory ++ [name]) = none from stands] at made
      rw [stands] at obstacle
      rw [attempt, made, untilHindered, obstacle]
      exact ⟨by simp, rfl, revises_put disk place somewhere .directory⟩
    | some node =>
      rw [show disk.tree.node? (disk.placeOf directory ++ [name]) = some node from stands] at made there
      rw [stands] at obstacle
      cases node with
      | link target => exact absurd stands (linkFree _ target)
      | directory =>
        rw [attempt, made, there.mpr rfl, untilHindered, obstacle]
        refine ⟨by simp, rfl, revises_idle ?_ ?_⟩
        · simpa [untilHindered, directoryEdits, Tree.editsOf_singleton] using somewhere
        · simpa [untilHindered, directoryEdits, Tree.editsOf_singleton] using stands
      | file content =>
        have absent : disk.isDirectory (directory.join ⟨name⟩) = false := by
          rw [← Bool.not_eq_true, there]
          simp
        rw [attempt, made, absent, untilHindered, obstacle]
        exact ⟨by simp, rfl, .refl⟩

-- Nothing stands on the way below a place where nothing stands, and directories before it.
theorem no_file_on_way (closed : disk.tree.Closed) {before back : List String}
    (leads : disk.tree.Leads place before) (down : ".." ∉ before)
    (missing : disk.tree.node? (place ++ before ++ [name]) = none) {other : Location}
    (member : other ∈ place.way (before ++ name :: back)) (content : Content) :
    disk.tree.node? other ≠ some (.file content) := by
  intro file
  rw [Location.way_append] at member
  rcases List.mem_append.mp member with early | late
  · rw [(leads.way down early).1] at file
    cases file
  · rw [Location.way] at late
    rcases List.mem_cons.mp late with rfl | below
    · rw [missing] at file
      cases file
    · obtain ⟨more, some_, _, rfl⟩ := Location.mem_way.mp below
      rw [closed.above some_ (by rw [file]; simp)] at missing
      cases missing

-- The directories of a way that stand in the end, and what hinders the next one.
def wayUntilHindered (disk : Disk) (base : Path) (names : List String) :
    List Location × Option FileProblem :=
  untilHindered (disk.obstacle? (disk.placeOf base ++ names)) ((disk.placeOf base).way names)

structure MakesWay (disk : Disk) (base : Path) (names : List String)
    (run : Except FileProblem Unit × Disk) : Prop where
  result : run.1 = outcomeOf (disk.wayUntilHindered base names).2
  revises : Revises (directoryEdits (disk.wayUntilHindered base names).1) disk run.2

theorem way_concat (place : Location) (front : List String) (name : String) :
    place.way (front ++ [name]) = place.way front ++ [place ++ (front ++ [name])] := by
  rw [Location.way_append]
  simp [Location.way]

section Along

variable (linkFree : disk.tree.LinkFree) (each : ∀ other ∈ front ++ [name], Path.IsName other)
  (admissible : (base.along (front ++ [name])).Admissible)

include each

theorem along_holder (base : Path) : (∀ other ∈ front, Path.IsName other) ∧ ".." ∉ front ∧
    (base.along front).steps = base.steps ++ front ∧
    (base.along front).isAbsolute = base.isAbsolute := by
  have inner : ∀ other ∈ front, Path.IsName other :=
    fun other member => each other (List.mem_append_left _ member)
  exact ⟨inner, fun up => (inner _ up).down rfl, Path.along_parts base inner⟩

include admissible

-- With the whole front standing, in this disk or a later one, the last directory decides.
theorem attempt_along {now : Disk} (free : now.tree.LinkFree)
    (leads : now.tree.Leads (now.start (base.along front)) (base.along front).steps)
    (same : now.tree.node? (disk.placeOf base ++ (front ++ [name])) =
      disk.tree.node? (disk.placeOf base ++ (front ++ [name])))
    (revises : Revises (directoryEdits ((disk.placeOf base).way front)) disk now)
    (clear : (untilHindered (disk.obstacle? (disk.placeOf base ++ (front ++ [name])))
      ((disk.placeOf base).way front)).2 = none) :
    now.makeDirectory (base.along (front ++ [name])) ≠ .error .missing ∧
      MakesWay disk base (front ++ [name]) (now.attempt (base.along (front ++ [name]))) := by
  obtain ⟨_, down, steps, absolute⟩ := along_holder each base
  have place : now.placeOf (base.along front) ++ [name] = disk.placeOf base ++ (front ++ [name]) := by
    rw [placeOf_congr revises.workingDirectory, placeOf_append absolute steps down, List.append_assoc]
  obtain ⟨known, result, added⟩ :=
    attempt_inside free leads (each name (by simp)) (by rwa [← Path.along_concat])
  rw [← Path.along_concat] at known result added
  rw [place] at result added
  have obstacle : now.obstacle? (disk.placeOf base ++ (front ++ [name]))
      (disk.placeOf base ++ (front ++ [name])) = disk.obstacle? (disk.placeOf base ++ (front ++ [name]))
        (disk.placeOf base ++ (front ++ [name])) := by
    rw [obstacle?, obstacle?, same]
  rw [untilHindered_congr fun item member => by rw [List.mem_singleton.mp member, obstacle]] at added
  have whole := untilHindered_concat clear (disk.placeOf base ++ (front ++ [name]))
  refine ⟨known, ?_, ?_⟩
  · rw [result, obstacle, wayUntilHindered, way_concat, whole]
  · rw [wayUntilHindered, way_concat, whole, directoryEdits, Tree.editsOf_append]
    exact revises.trans added

-- The path is not found for what stops the walk by the front.
theorem find_along (leads : disk.tree.Leads (disk.start base) base.steps) {problem : FileProblem}
    (stuck : disk.tree.pass (disk.placeOf base) front = .error problem) :
    disk.makeDirectory (base.along (front ++ [name])) = .error problem ∧
      disk.isDirectory (base.along (front ++ [name])) = false := by
  obtain ⟨whole, rooted⟩ := Path.along_parts base each
  have plain := Path.ending_along base each
  have order : (base.along (front ++ [name])).steps = (base.steps ++ front) ++ [name] := by
    rw [whole, List.append_assoc]
  have unfound : ∀ follow, disk.find follow (base.along (front ++ [name])) = .error problem := by
    intro follow
    refine find_stuck admissible (by simp [plain]) order ?_
    rw [start_eq rooted disk, Tree.pass_append leads]
    exact stuck
  exact ⟨by rw [makeDirectory, findToMake_plain plain, unfound], by rw [isDirectory, stat, unfound]⟩

-- What hinders the walk by the front hinders the way at the same place.
theorem makeChain_stuck (leads : disk.tree.Leads (disk.start base) base.steps)
    {before back : List String} {next : String} {problem : FileProblem} (outer : List Path)
    (order : front = before ++ next :: back) (reached : disk.tree.Leads (disk.placeOf base) before)
    (stuck : disk.tree.pass (disk.placeOf base) front = .error problem) (known : problem ≠ .missing)
    (which : longestName < next.utf8ByteSize ∧ problem = .nameTooLong ∨
      next.utf8ByteSize ≤ longestName ∧
        (∃ content, disk.tree.node? (disk.placeOf base ++ before ++ [next]) = some (.file content)) ∧
          problem = .notDirectory) :
    MakesWay disk base (front ++ [name]) (disk.makeChain (base.along (front ++ [name]) :: outer)) := by
  obtain ⟨tried, absent⟩ := find_along each admissible leads stuck
  obtain ⟨_, down, _⟩ := along_holder each base
  have before_down : ".." ∉ before := fun up => down (by simp [order, up])
  have hindered : disk.obstacle? (disk.placeOf base ++ (front ++ [name]))
      (disk.placeOf base ++ before ++ [next]) = some problem := by
    have ending : (disk.placeOf base ++ before ++ [next]).getLast?.getD "" = next := by simp
    have apart : disk.placeOf base ++ before ++ [next] ≠ disk.placeOf base ++ (front ++ [name]) := by
      intro same
      have length := congrArg List.length same
      simp [order] at length
    rcases which with ⟨long, rfl⟩ | ⟨short, ⟨content, file⟩, rfl⟩
    · rw [obstacle?, ending, if_pos long]
    · rw [obstacle?, ending, if_neg (Nat.not_lt.mpr short), file]
      simp only [apart, if_false]
  have whole : disk.wayUntilHindered base (front ++ [name]) =
      ((disk.placeOf base).way before, some problem) := by
    rw [wayUntilHindered, way_concat]
    rw [show (disk.placeOf base).way front = (disk.placeOf base).way before ++
        (disk.placeOf base ++ before ++ [next]) :: (disk.placeOf base ++ before ++ [next]).way back by
      rw [order, Location.way_append, Location.way], List.append_assoc, List.cons_append]
    exact untilHindered_stuck (fun place member => obstacle?_of_leads _ reached before_down member)
      hindered
  rw [makeChain_attempt admissible.present (by simpa [tried] using known), attempt, tried, absent]
  exact ⟨by rw [whole]; rfl, by rw [whole]; exact revises_standing reached before_down⟩

include linkFree

-- A front with nothing where it is missing is made first, and then the last directory.
theorem makeChain_further (leads : disk.tree.Leads (disk.start base) base.steps) {bound : Nat}
    (missing : disk.tree.pass (disk.placeOf base) front = .error .missing)
    (open_ : ∀ place ∈ (disk.placeOf base).way front, ∀ content,
      disk.tree.node? place ≠ some (.file content))
    (some_ : front ≠ [])
    (made : MakesWay disk base front (disk.makeChain (ancestors (bound + 1) (base.along front)))) :
    MakesWay disk base (front ++ [name])
      (disk.makeChain (ancestors (bound + 2) (base.along (front ++ [name])))) := by
  obtain ⟨tried, _⟩ := find_along each admissible leads missing
  have above : (base.along (front ++ [name])).parent? = some (base.along front) :=
    Path.parent?_along base some_ each
  have same : disk.wayUntilHindered base front =
      untilHindered (disk.obstacle? (disk.placeOf base ++ (front ++ [name])))
        ((disk.placeOf base).way front) :=
    untilHindered_congr fun place member => obstacle?_of_no_file (open_ place member) _ _
  have begin : ∀ outer ∈ ancestors (bound + 1) (base.along front), Begins outer (base.along front) :=
    fun outer member => ancestors_begin member
  have grown := makeChain_enlarges linkFree begin
  have walked := makeChain_leads linkFree begin
  rw [show ancestors (bound + 2) (base.along (front ++ [name])) =
      base.along (front ++ [name]) :: ancestors (bound + 1) (base.along front) by rw [ancestors, above],
    makeChain_missing admissible.present tried]
  rw [show base.along front :: _ = ancestors (bound + 1) (base.along front) from rfl] at walked
  cases run : disk.makeChain (ancestors (bound + 1) (base.along front)) with
  | mk result now =>
    rw [run] at made grown walked
    obtain ⟨result_eq, revises⟩ := made
    rw [same] at result_eq revises
    cases stop : (untilHindered (disk.obstacle? (disk.placeOf base ++ (front ++ [name])))
        ((disk.placeOf base).way front)).2 with
    | some problem =>
      have whole : disk.wayUntilHindered base (front ++ [name]) = untilHindered
          (disk.obstacle? (disk.placeOf base ++ (front ++ [name]))) ((disk.placeOf base).way front) := by
        rw [wayUntilHindered, way_concat, untilHindered_append, stop]
      rw [stop] at result_eq
      cases result_eq
      exact ⟨by rw [whole, stop]; rfl, by rw [whole]; exact revises⟩
    | none =>
      rw [stop] at result_eq
      cases result_eq
      rw [untilHindered_all stop] at revises
      have untouched : now.tree.node? (disk.placeOf base ++ (front ++ [name])) =
          disk.tree.node? (disk.placeOf base ++ (front ++ [name])) :=
        untouched_below revises (by simp)
      exact (attempt_along each admissible (grown.grows.linkFree linkFree) (walked rfl) untouched revises
        stop).2

end Along

-- What hinders the places of the way, in their order, hinders the chain that makes them.
theorem makeChain_way (linkFree : disk.tree.LinkFree) (closed : disk.tree.Closed)
    (leads : disk.tree.Leads (disk.start base) base.steps) (some_ : names ≠ [])
    (each : ∀ name ∈ names, Path.IsName name) (admissible : (base.along names).Admissible) {bound : Nat}
    (enough : names.length ≤ bound) :
    MakesWay disk base names (disk.makeChain (ancestors bound (base.along names))) := by
  induction names using List.reverseRecOn generalizing bound with
  | nil => exact absurd rfl some_
  | append_singleton front name ih =>
    obtain ⟨inner, down, steps, absolute⟩ := along_holder each base
    obtain ⟨bound, rfl⟩ : ∃ smaller, bound = smaller + 1 := ⟨bound - 1, by simp at enough; omega⟩
    by_cases reach : disk.tree.Leads (disk.placeOf base) front
    · have walked : disk.tree.Leads (disk.start (base.along front)) (base.along front).steps := by
        rw [start_eq absolute disk, steps, Tree.leads_append]
        exact ⟨leads, reach⟩
      have clear : (untilHindered (disk.obstacle? (disk.placeOf base ++ (front ++ [name])))
          ((disk.placeOf base).way front)).2 = none := by
        rw [untilHindered_free fun place member => obstacle?_of_leads _ reach down member]
      obtain ⟨known, makes⟩ :=
        attempt_along each admissible linkFree walked rfl (revises_standing reach down) clear
      rw [ancestors, makeChain_attempt admissible.present known]
      exact makes
    · obtain ⟨before, next, back, problem, order, reached, stuck, which⟩ :=
        Tree.stuck_cases linkFree down reach
      have before_down : ".." ∉ before := fun up => down (by simp [order, up])
      have some_front : front ≠ [] := by simp [order]
      rcases which with ⟨long, rfl⟩ | ⟨short, file, rfl⟩ | ⟨missing, rfl⟩
      · exact makeChain_stuck each admissible leads _ order reached stuck (by simp)
          (.inl ⟨long, rfl⟩)
      · exact makeChain_stuck each admissible leads _ order reached stuck (by simp)
          (.inr ⟨short, file, rfl⟩)
      · obtain ⟨bound, rfl⟩ : ∃ smaller, bound = smaller + 1 :=
          ⟨bound - 1, by simp [order] at enough; omega⟩
        have open_ : ∀ place ∈ (disk.placeOf base).way front, ∀ content,
            disk.tree.node? place ≠ some (.file content) := fun place member =>
          no_file_on_way closed reached before_down missing (order ▸ member)
        exact makeChain_further linkFree each admissible leads stuck open_ some_front
          (ih some_front inner (Path.admissible_along some_front each admissible)
            (by simp at enough; omega))

-- The directories that stand in the end are those of a first part of the way, where no file stood.
theorem wayUntilHindered_front (disk : Disk) (base : Path) (names : List String) : ∃ front, front <+: names ∧
    (disk.wayUntilHindered base names).1 = (disk.placeOf base).way front ∧
    ((disk.wayUntilHindered base names).2 = none → front = names) ∧
    ∀ place ∈ (disk.placeOf base).way front, ∀ content, disk.tree.node? place ≠ some (.file content) := by
  obtain ⟨front, initial, order⟩ := Location.way_initial (untilHindered_initial
    (disk.obstacle? (disk.placeOf base ++ names)) ((disk.placeOf base).way names))
  refine ⟨front, initial, order, fun done => ?_, fun place member content file => ?_⟩
  · have lengths := congrArg List.length (order.symm.trans (untilHindered_all done))
    rw [Location.length_way, Location.length_way] at lengths
    exact initial.eq_of_length lengths
  · rw [← order] at member
    have passed := untilHindered_passed member
    unfold obstacle? at passed
    split at passed
    · cases passed
    · simp [file] at passed

theorem makeDirectories_way (linkFree : disk.tree.LinkFree) (closed : disk.tree.Closed)
    (leads : disk.tree.Leads (disk.start base) base.steps) (some_ : names ≠ [])
    (each : ∀ name ∈ names, Path.IsName name) (admissible : (base.along names).Admissible) :
    MakesWay disk base names (disk.makeDirectories (base.along names)) :=
  makeChain_way linkFree closed leads some_ each admissible
    (Nat.le_succ_of_le (Path.length_along each))

-- A path that is refused for its text is refused in any disk.
theorem makeDirectories_refused {problem : FileProblem} (present : path.text ≠ "")
    (refused : path.fault? = some problem) (disk : Disk) :
    disk.makeDirectories path = (.error problem, disk) := by
  have unfound : ∀ follow route, disk.findOn follow path route = .error problem := by
    intro follow route
    rw [findOn_eq, refused]
  have tried : disk.makeDirectory path = .error problem := by rw [makeDirectory, findToMake, unfound]
  have absent : disk.isDirectory path = false := by rw [isDirectory, stat, find, unfound]
  have known : problem ≠ .missing := by
    rintro rfl
    unfold Path.fault? at refused
    simp only [present, if_false] at refused
    split at refused
    · cases refused
    · split at refused <;> cases refused
  obtain ⟨outer, order⟩ := ancestors_head path path.text.length
  rw [makeDirectories, order, makeChain_attempt present (by simpa [tried] using known), attempt, tried,
    absent]
  rfl

end Disk
end SpringSkeleton
