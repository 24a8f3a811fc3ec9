import SpringSkeleton.Proofs.Path.Join
import SpringSkeleton.Proofs.Tree.Growth

namespace SpringSkeleton

namespace Tree
variable {tree : Tree} {place : Location} {front back : List String}

theorem pass_cons {step : String} (enters : step ≠ ".." → step.utf8ByteSize ≤ longestName ∧
    tree.node? (place ++ [step]) = some .directory) (rest : List String) :
    tree.pass place (step :: rest) = tree.pass (place.climb step) rest := by
  rw [pass]
  by_cases up : step = ".."
  · rw [if_pos up, Location.climb, if_pos up]
  · obtain ⟨short, stands⟩ := enters up
    rw [if_neg up, if_neg (Nat.not_lt.mpr short), stands, Location.climb, if_neg up]

theorem pass_append (leads : tree.Leads place front) :
    tree.pass place (front ++ back) = tree.pass (place.descend front) back := by
  induction front generalizing place with
  | nil => rfl
  | cons step rest ih =>
    rw [List.cons_append, pass_cons leads.1, ih leads.2]
    rfl

theorem spot_stuck {follow : Bool} {links : Nat} {route : Route} {name : String} {problem : FileProblem}
    (open_ : route.ending ≠ .dots) (order : route.steps = front ++ [name])
    (stuck : tree.pass (if route.fromRoot then [] else place) front = .error problem) :
    tree.spot follow links place route = .error problem := by
  have ending : (if route.ending = .dots then none else route.steps.getLast?) = some name := by
    simp [open_, order]
  have holder : route.steps.dropLast = front := by simp [order]
  refine spot_error ?_
  unfold walk
  simp only [ending, holder, stuck]

theorem spot_long {follow : Bool} {links : Nat} {route : Route}
    {name : String} (open_ : route.ending ≠ .dots) (order : route.steps = front ++ [name])
    (leads : tree.Leads (if route.fromRoot then [] else place) front)
    (long : longestName < name.utf8ByteSize) :
    tree.spot follow links place route = .error .nameTooLong := by
  have ending : (if route.ending = .dots then none else route.steps.getLast?) = some name := by
    simp [open_, order]
  have holder : route.steps.dropLast = front := by simp [order]
  refine spot_error ?_
  unfold walk
  simp only [ending, holder, pass_of_leads leads]
  exact if_pos long

end Tree

-- What a path is refused for by its text, before anything is walked.
def Path.fault? (path : Path) : Option FileProblem :=
  if path.text.toList.contains '\x00' then some .nulInPath
  else if path.text = "" then some .missing
  else if path.text.utf8ByteSize > longestPath then some .nameTooLong
  else none

theorem Path.fault?_eq_none_iff {path : Path} : path.fault? = none ↔ path.Admissible := by
  unfold fault?
  constructor
  · intro none
    split at none
    · cases none
    · rename_i clean
      split at none
      · cases none
      · rename_i present
        split at none
        · cases none
        · rename_i short
          exact ⟨by simpa using clean, present, Nat.not_lt.mp short⟩
  · rintro ⟨clean, present, short⟩
    simp [clean, present, Nat.not_lt.mpr short]

-- What one more name after a directory is refused for, whatever stands there.
def Path.refusal? (directory : Path) (name : String) : Option FileProblem :=
  (directory.join ⟨name⟩).fault?.or (if longestName < name.utf8ByteSize then some .nameTooLong else none)

theorem Path.refusal?_eq_none_iff {directory : Path} {name : String} : directory.refusal? name = none ↔
    (directory.join ⟨name⟩).Admissible ∧ name.utf8ByteSize ≤ longestName := by
  rw [refusal?, Option.or_eq_none_iff, fault?_eq_none_iff]
  simp

namespace Disk
variable {disk : Disk} {path directory : Path} {name : String}

theorem findOn_eq (disk : Disk) (follow : Bool) (path : Path) (route : Route) :
    disk.findOn follow path route = match path.fault? with
      | some problem => .error problem
      | none => disk.tree.spot follow mostLinks disk.workingDirectory route := by
  unfold findOn Path.fault?
  split
  · rfl
  · split
    · rfl
    · split <;> rfl

-- What hinders writing a file under a name in a directory.
def hindrance? (disk : Disk) (directory : Path) (name : String) : Option FileProblem :=
  (directory.refusal? name).or
    (if disk.tree.node? (disk.placeOf directory ++ [name]) = some .directory then some .isDirectory
      else none)

-- A directory on the way is not entered.
theorem find_stuck {follow : Bool} {front : List String} {problem : FileProblem}
    (admissible : path.Admissible) (open_ : (Route.ofText path.text).ending ≠ .dots)
    (order : path.steps = front ++ [name])
    (stuck : disk.tree.pass (disk.start path) front = .error problem) :
    disk.find follow path = .error problem := by
  have steps : (Route.ofText path.text).steps = front ++ [name] := by rw [path.ofText_steps, order]
  rw [find, findOn_eq, Path.fault?_eq_none_iff.mpr admissible]
  exact Tree.spot_stuck open_ steps stuck

section Standing

variable (linkFree : disk.tree.LinkFree)
  (leads : disk.tree.Leads (disk.start directory) directory.steps)

theorem placeOf_join (disk : Disk) (directory : Path) (isName : Path.IsName name) :
    disk.placeOf (directory.join ⟨name⟩) = disk.placeOf directory ++ [name] := by
  refine placeOf_append (Path.isAbsolute_join directory isName.relative) ?_ ?_ disk
  · rw [Path.steps_join directory isName.relative, isName.steps]
  · simpa using isName.down.symm

include linkFree leads

theorem find_inside (isName : Path.IsName name) (follow : Bool) :
    disk.find follow (directory.join ⟨name⟩) = match directory.refusal? name with
      | some problem => .error problem
      | none => .ok ⟨disk.placeOf directory ++ [name],
          disk.tree.node? (disk.placeOf directory ++ [name]), .plain⟩ := by
  have plain := Path.ending_join_name isName directory
  have open_ : (Route.ofText (directory.join ⟨name⟩).text).ending ≠ .dots := by simp [plain]
  have order : (directory.join ⟨name⟩).steps = directory.steps ++ [name] := by
    rw [Path.steps_join directory isName.relative, isName.steps]
  have start : disk.start (directory.join ⟨name⟩) = disk.start directory :=
    start_eq (Path.isAbsolute_join directory isName.relative) disk
  cases fault : (directory.join ⟨name⟩).fault? with
  | some problem => simp [find, findOn_eq, Path.refusal?, fault]
  | none =>
    have admissible := Path.fault?_eq_none_iff.mp fault
    by_cases long : longestName < name.utf8ByteSize
    · have steps : (Route.ofText (directory.join ⟨name⟩).text).steps = directory.steps ++ [name] := by
        rw [Path.ofText_steps, order]
      have walked : disk.tree.Leads (if (Route.ofText (directory.join ⟨name⟩).text).fromRoot then []
          else disk.workingDirectory) directory.steps := by
        rwa [← start] at leads
      simp only [find, findOn_eq, Path.refusal?, fault, long, if_true, Option.none_or]
      exact Tree.spot_long open_ steps walked long
    · have short := Nat.not_lt.mp long
      have walked : disk.tree.Leads (disk.start (directory.join ⟨name⟩)) directory.steps := by
        rwa [start]
      rw [Path.refusal?_eq_none_iff.mpr ⟨admissible, short⟩]
      refine (find_name linkFree open_ order isName.down).mpr ⟨admissible, walked, short, ?_⟩
      rw [placeOf_join disk directory isName, plain]

omit linkFree in
theorem reaches_inside (isName : Path.IsName name) (allowed : directory.refusal? name = none) :
    disk.Reaches (directory.join ⟨name⟩) := by
  have order : (directory.join ⟨name⟩).steps = directory.steps ++ [name] := by
    rw [Path.steps_join directory isName.relative, isName.steps]
  obtain ⟨admissible, short⟩ := Path.refusal?_eq_none_iff.mp allowed
  refine (reaches_iff order).mpr ⟨admissible, Path.ending_join_name isName directory, ?_, short⟩
  rwa [start_eq (Path.isAbsolute_join directory isName.relative)]

theorem isDirectory_inside (isName : Path.IsName name) :
    disk.isDirectory (directory.join ⟨name⟩) = true ↔ directory.refusal? name = none ∧
      disk.tree.node? (disk.placeOf directory ++ [name]) = some .directory := by
  have found := find_inside linkFree leads isName true
  unfold isDirectory stat
  rw [found]
  cases refused : directory.refusal? name with
  | some problem => simp
  | none =>
    simp only [true_and]
    cases stands : disk.tree.node? (disk.placeOf directory ++ [name]) with
    | none => simp
    | some node => cases node <;> simp

theorem writeFile_inside (isName : Path.IsName name) (content : Content) :
    disk.writeFile (directory.join ⟨name⟩) content = match disk.hindrance? directory name with
      | some problem => .error problem
      | none => .ok (disk.withTree
          (disk.tree.put (disk.placeOf directory ++ [name]) (.file content))) := by
  have found := find_inside linkFree leads isName true
  unfold writeFile
  rw [findToWrite_plain (Path.ending_join_name isName directory), found]
  cases refused : directory.refusal? name with
  | some problem => simp [hindrance?, refused]
  | none =>
    cases stands : disk.tree.node? (disk.placeOf directory ++ [name]) with
    | none => simp [hindrance?, refused, stands]
    | some node => cases node <;> simp [hindrance?, refused, stands]

theorem makeDirectory_inside (isName : Path.IsName name) :
    disk.makeDirectory (directory.join ⟨name⟩) = match directory.refusal? name with
      | some problem => .error problem
      | none => match disk.tree.node? (disk.placeOf directory ++ [name]) with
        | some _ => .error .alreadyExists
        | none => .ok (disk.withTree
            (disk.tree.put (disk.placeOf directory ++ [name]) .directory)) := by
  unfold makeDirectory
  rw [findToMake_plain (Path.ending_join_name isName directory), find_inside linkFree leads isName false]
  cases directory.refusal? name with
  | some problem => rfl
  | none => cases disk.tree.node? (disk.placeOf directory ++ [name]) <;> rfl

theorem makeDirectory_standing (admissible : directory.Admissible) :
    disk.makeDirectory directory = .error .alreadyExists := by
  unfold makeDirectory
  by_cases dots : (Route.ofText directory.text).ending = .dots
  · rw [(findToMake_dots linkFree dots).mpr ⟨admissible, leads, rfl⟩]
  · obtain ⟨front, name, order, isName⟩ := Path.steps_of_ending dots
    rw [order, Tree.leads_concat isName.down, ← placeOf_concat order isName.down] at leads
    obtain ⟨before, short, stands⟩ := leads
    rw [(findToMake_name linkFree dots order isName.down).mpr ⟨admissible, before, short, rfl⟩, stands]

-- Nothing is made, and nothing is looked for further out.
theorem makeChain_standing (admissible : directory.text = "" ∨ directory.Admissible)
    (outer : List Path) : disk.makeChain (directory :: outer) = (.ok (), disk) := by
  by_cases none : directory.text = ""
  · rw [makeChain, if_pos none]
  · have admissible := admissible.resolve_left none
    have stands := makeDirectory_standing linkFree leads admissible
    have there : disk.isDirectory directory = true := by
      simp [isDirectory, stat_of_leads linkFree admissible leads]
    rw [makeChain_attempt none (by simp [stands]), attempt, stands, there]
    rfl

theorem makeDirectories_standing (admissible : directory.Admissible) :
    disk.makeDirectories directory = (.ok (), disk) := by
  obtain ⟨outer, order⟩ := ancestors_head directory directory.text.length
  unfold makeDirectories
  rw [order, makeChain_standing linkFree leads (.inr admissible)]

end Standing

end Disk
end SpringSkeleton
