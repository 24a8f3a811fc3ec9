import SpringSkeleton.Proofs.Path.Steps

namespace SpringSkeleton

namespace Location

def climb (place : Location) (step : String) : Location :=
  if step = ".." then place.dropLast else place ++ [step]

-- The place that some steps describe, whatever stands on the way.
def descend (place : Location) (steps : List String) : Location := steps.foldl climb place

theorem climb_name (place : Location) {name : String} (down : name ≠ "..") :
    place.climb name = place ++ [name] := if_neg down

theorem descend_append (place : Location) (front back : List String) :
    place.descend (front ++ back) = (place.descend front).descend back := List.foldl_append

theorem descend_concat (place : Location) (front : List String) {name : String} (down : name ≠ "..") :
    place.descend (front ++ [name]) = place.descend front ++ [name] := by
  rw [descend_append]
  exact climb_name _ down

theorem descend_names (place : Location) {names : List String} (down : ".." ∉ names) :
    place.descend names = place ++ names := by
  induction names generalizing place with
  | nil => simp [descend]
  | cons name rest ih =>
    have first : name ≠ ".." := fun same => down (by simp [same])
    have others : ".." ∉ rest := fun member => down (List.mem_cons_of_mem _ member)
    calc place.descend (name :: rest) = (place.climb name).descend rest := rfl
      _ = place ++ [name] ++ rest := by rw [climb_name place first, ih _ others]
      _ = place ++ name :: rest := by simp

end Location

def Node.isLink : Node → Bool
  | .link _ => true
  | _ => false

namespace Tree
variable {tree before after : Tree} {place : Location} {steps front back : List String}

def LinkFree (tree : Tree) : Prop := ∀ place target, tree.node? place ≠ some (.link target)

theorem linkFree_empty : empty.LinkFree := by
  intro place target
  cases place <;> simp [node?, empty]

-- What stands at a place other than the root is listed there.
theorem mem_entries {node : Node} (below : place ≠ []) (stands : tree.node? place = some node) :
    (place, node) ∈ tree.entries := by
  cases place with
  | nil => exact absurd rfl below
  | cons name rest =>
    obtain ⟨front, back, parted, _⟩ := List.lookup_eq_some_iff.mp stands
    simp [parted]

theorem linkFree_of_entries (each : ∀ entry ∈ tree.entries, entry.2.isLink = false) :
    tree.LinkFree := by
  intro place target stands
  by_cases root : place = []
  · rw [root] at stands
    cases stands
  · have plain := each _ (mem_entries root stands)
    cases plain

-- Each step down has a name that is not too long and enters a directory.
def Leads (tree : Tree) : Location → List String → Prop
  | _, [] => True
  | place, step :: rest =>
    (step ≠ ".." → step.utf8ByteSize ≤ longestName ∧ tree.node? (place ++ [step]) = some .directory) ∧
      Leads tree (place.climb step) rest

theorem leads_append : tree.Leads place (front ++ back) ↔
    tree.Leads place front ∧ tree.Leads (place.descend front) back := by
  induction front generalizing place with
  | nil => simp [Leads, Location.descend]
  | cons step rest ih =>
    simp only [List.cons_append, Leads, ih, and_assoc]
    rfl

theorem leads_concat {name : String} (down : name ≠ "..") : tree.Leads place (front ++ [name]) ↔
    tree.Leads place front ∧ name.utf8ByteSize ≤ longestName ∧
      tree.node? (place.descend front ++ [name]) = some .directory := by
  simp [leads_append, Leads, down]

theorem Leads.initial (leads : tree.Leads place steps) (initial : front <+: steps) :
    tree.Leads place front := by
  obtain ⟨back, rfl⟩ := initial
  exact (leads_append.mp leads).1

theorem Leads.mono (kept : ∀ place, before.node? place = some .directory →
    after.node? place = some .directory) (leads : before.Leads place steps) :
    after.Leads place steps := by
  induction steps generalizing place with
  | nil => trivial
  | cons step rest ih =>
    refine ⟨fun down => ?_, ih leads.2⟩
    obtain ⟨short, stands⟩ := leads.1 down
    exact ⟨short, kept _ stands⟩

theorem pass_of_leads (leads : tree.Leads place steps) :
    tree.pass place steps = .ok (.reached (place.descend steps)) := by
  induction steps generalizing place with
  | nil => rfl
  | cons step rest ih =>
    have further := ih leads.2
    unfold pass
    by_cases up : step = ".."
    · simpa [Location.descend, Location.climb, up] using further
    · obtain ⟨short, stands⟩ := leads.1 up
      have within : ¬ step.utf8ByteSize > longestName := Nat.not_lt.mpr short
      simpa [Location.descend, Location.climb, up, within, stands] using further

theorem leads_of_pass (linkFree : tree.LinkFree) {stop : Stop}
    (passed : tree.pass place steps = .ok stop) :
    tree.Leads place steps ∧ stop = .reached (place.descend steps) := by
  induction steps generalizing place with
  | nil =>
    cases passed
    exact ⟨trivial, rfl⟩
  | cons step rest ih =>
    unfold pass at passed
    by_cases up : step = ".."
    · simp only [up, if_true] at passed
      obtain ⟨leads, reached⟩ := ih passed
      have above : place.climb step = place.dropLast := if_pos up
      refine ⟨⟨fun down => absurd up down, ?_⟩, ?_⟩
      · rwa [above]
      · rw [reached, ← above]
        rfl
    · simp only [up, if_false] at passed
      have below : place.climb step = place ++ [step] := Location.climb_name place up
      split at passed
      · cases passed
      · rename_i short
        have short : step.utf8ByteSize ≤ longestName := Nat.not_lt.mp short
        cases stands : tree.node? (place ++ [step]) with
        | none => simp [stands] at passed
        | some node =>
          cases node with
          | directory =>
            rw [stands] at passed
            obtain ⟨leads, reached⟩ := ih passed
            refine ⟨⟨fun _ => ⟨short, stands⟩, ?_⟩, ?_⟩
            · rwa [below]
            · rw [reached, ← below]
              rfl
          | file content => simp [stands] at passed
          | link target => exact absurd stands (linkFree _ target)

-- The ways in which a walk along a whole path ends or goes on, each with what it came by.
inductive Walks (tree : Tree) (follow : Bool) (place : Location) (route : Route) : Halt → Prop where
  | dots {directory : Location} (last : (if route.ending = .dots then none else route.steps.getLast?) = none)
      (passed : tree.pass (if route.fromRoot then [] else place) route.steps = .ok (.reached directory)) :
      Walks tree follow place route (.arrived ⟨directory, some .directory, .dots⟩)
  | dotsLink {goal : Location} {left : List String}
      (last : (if route.ending = .dots then none else route.steps.getLast?) = none)
      (passed : tree.pass (if route.fromRoot then [] else place) route.steps = .ok (.detour goal left)) :
      Walks tree follow place route (.detour goal ⟨false, left, .dots⟩)
  | innerLink {step : String} {goal : Location} {left : List String}
      (last : (if route.ending = .dots then none else route.steps.getLast?) = some step)
      (passed : tree.pass (if route.fromRoot then [] else place) route.steps.dropLast =
        .ok (.detour goal left)) :
      Walks tree follow place route (.detour goal ⟨false, left ++ [step], route.ending⟩)
  | lastLink {step target : String} {directory : Location}
      (last : (if route.ending = .dots then none else route.steps.getLast?) = some step)
      (passed : tree.pass (if route.fromRoot then [] else place) route.steps.dropLast =
        .ok (.reached directory))
      (short : ¬step.utf8ByteSize > longestName)
      (stands : tree.node? (directory ++ [step]) = some (.link target))
      (follows : (follow || route.ending ≠ .plain) = true) :
      Walks tree follow place route (.detour directory ((Route.ofText target).before route.ending))
  | name {step : String} {directory : Location}
      (last : (if route.ending = .dots then none else route.steps.getLast?) = some step)
      (passed : tree.pass (if route.fromRoot then [] else place) route.steps.dropLast =
        .ok (.reached directory))
      (short : ¬step.utf8ByteSize > longestName)
      (stays : ∀ target, tree.node? (directory ++ [step]) = some (.link target) →
        ¬(follow || route.ending ≠ .plain) = true) :
      Walks tree follow place route
        (.arrived ⟨directory ++ [step], tree.node? (directory ++ [step]), route.ending⟩)

section Walk
variable {follow : Bool} {links : Nat} {route : Route} {halt : Halt} {found : Spot}

theorem spot_error {problem : FileProblem} (stuck : tree.walk follow place route = .error problem) :
    tree.spot follow links place route = .error problem := by
  unfold spot
  simp only [stuck]

theorem spot_arrived (walked : tree.walk follow place route = .ok (.arrived found)) :
    tree.spot follow links place route = .ok found := by
  unfold spot
  simp only [walked]

-- A path that ends in dots leads to a directory: all its steps are walked.
theorem walk_dots (linkFree : tree.LinkFree) (dots : route.ending = .dots) :
    tree.walk follow place route = .ok halt ↔
      tree.Leads (if route.fromRoot then [] else place) route.steps ∧
        halt = .arrived ⟨(if route.fromRoot then [] else place : Location).descend route.steps,
          some .directory, .dots⟩ := by
  unfold walk
  simp only [dots, if_true]
  constructor
  · intro walked
    cases passed : tree.pass (if route.fromRoot then [] else place) route.steps with
    | error problem => simp [passed] at walked
    | ok stop =>
      obtain ⟨leads, rfl⟩ := leads_of_pass linkFree passed
      simp only [passed, Except.ok.injEq] at walked
      exact ⟨leads, walked.symm⟩
  · rintro ⟨leads, rfl⟩
    rw [pass_of_leads leads]

-- Any other path leads to whatever stands under its last name in the directory before it.
theorem walk_name (linkFree : tree.LinkFree) (open_ : route.ending ≠ .dots) {name : String}
    (order : route.steps = front ++ [name]) (down : name ≠ "..") :
    tree.walk follow place route = .ok halt ↔
      tree.Leads (if route.fromRoot then [] else place) front ∧ name.utf8ByteSize ≤ longestName ∧
        halt = .arrived ⟨(if route.fromRoot then [] else place : Location).descend route.steps,
          tree.node? ((if route.fromRoot then [] else place : Location).descend route.steps),
          route.ending⟩ := by
  have ending : (if route.ending = .dots then none else route.steps.getLast?) = some name := by
    simp [open_, order]
  have goal : (if route.fromRoot then [] else place : Location).descend route.steps =
      (if route.fromRoot then [] else place : Location).descend front ++ [name] := by
    rw [order, Location.descend_concat _ _ down]
  have holder : route.steps.dropLast = front := by simp [order]
  unfold walk
  simp only [ending, holder, goal]
  constructor
  · intro walked
    cases passed : tree.pass (if route.fromRoot then [] else place) front with
    | error problem => simp [passed] at walked
    | ok stop =>
      obtain ⟨leads, rfl⟩ := leads_of_pass linkFree passed
      simp only [passed] at walked
      split at walked
      · cases walked
      · rename_i short
        refine ⟨leads, Nat.not_lt.mp short, ?_⟩
        split at walked
        · rename_i target stands
          exact absurd stands (linkFree _ target)
        · exact (Except.ok.inj walked).symm
  · rintro ⟨leads, short, rfl⟩
    rw [pass_of_leads leads]
    have within : ¬ name.utf8ByteSize > longestName := Nat.not_lt.mpr short
    simp only [within, if_false]
    split
    · rename_i target stands
      exact absurd stands (linkFree _ target)
    · rfl

theorem walks_of_walk (walked : tree.walk follow place route = .ok halt) :
    Walks tree follow place route halt := by
  unfold walk at walked
  simp only at walked
  split at walked
  · rename_i last
    split at walked
    · cases walked
    · rename_i passed
      cases walked
      exact .dots last passed
    · rename_i passed
      cases walked
      exact .dotsLink last passed
  · rename_i step last
    split at walked
    · cases walked
    · rename_i passed
      cases walked
      exact .innerLink last passed
    · rename_i directory passed
      split at walked
      · cases walked
      · rename_i short
        split at walked
        · rename_i target stands
          split at walked
          · rename_i follows
            cases walked
            exact .lastLink last passed short stands follows
          · rename_i stays
            cases walked
            rw [← stands]
            exact .name last passed short fun _ _ => stays
        · rename_i other
          cases walked
          exact .name last passed short fun target stands => absurd stands (other target)

theorem Walks.walk (walks : Walks tree follow place route halt) :
    tree.walk follow place route = .ok halt := by
  unfold Tree.walk
  cases walks with
  | dots last passed => simp only [last, passed]
  | dotsLink last passed => simp only [last, passed]
  | innerLink last passed => simp only [last, passed]
  | lastLink last passed short stands follows =>
    simp only [last, passed, short, if_false, stands, follows, if_true]
  | name last passed short stays =>
    simp only [last, passed, short, if_false]
    split
    · rename_i target stands
      rw [if_neg (stays target stands), stands]
    · rfl

-- Without links, a walk ends where its own path does.
theorem arrives (linkFree : tree.LinkFree) (walked : tree.walk follow place route = .ok halt) :
    ∃ found, halt = .arrived found := by
  cases walks_of_walk walked with
  | dots | name => exact ⟨_, rfl⟩
  | dotsLink _ passed | innerLink _ passed => cases (leads_of_pass linkFree passed).2
  | lastLink _ _ _ stands => exact absurd stands (linkFree _ _)

theorem spot_eq_ok_iff (linkFree : tree.LinkFree) : tree.spot follow links place route = .ok found ↔
    tree.walk follow place route = .ok (.arrived found) := by
  refine ⟨fun spotted => ?_, spot_arrived⟩
  cases walked : tree.walk follow place route with
  | error problem =>
    rw [spot_error walked] at spotted
    cases spotted
  | ok halt =>
    obtain ⟨other, rfl⟩ := arrives linkFree walked
    rw [spot_arrived walked] at spotted
    cases spotted
    rfl

theorem spot_dots (linkFree : tree.LinkFree) (dots : route.ending = .dots) :
    tree.spot follow links place route = .ok found ↔
      tree.Leads (if route.fromRoot then [] else place) route.steps ∧
        found = ⟨(if route.fromRoot then [] else place : Location).descend route.steps,
          some .directory, .dots⟩ := by
  rw [spot_eq_ok_iff linkFree, walk_dots linkFree dots, Halt.arrived.injEq]

theorem spot_name (linkFree : tree.LinkFree) (open_ : route.ending ≠ .dots) {name : String}
    (order : route.steps = front ++ [name]) (down : name ≠ "..") :
    tree.spot follow links place route = .ok found ↔
      tree.Leads (if route.fromRoot then [] else place) front ∧ name.utf8ByteSize ≤ longestName ∧
        found = ⟨(if route.fromRoot then [] else place : Location).descend route.steps,
          tree.node? ((if route.fromRoot then [] else place : Location).descend route.steps),
          route.ending⟩ := by
  rw [spot_eq_ok_iff linkFree, walk_name linkFree open_ order down, Halt.arrived.injEq]

end Walk

end Tree
end SpringSkeleton
