import SpringSkeleton.Proofs.Path.Components
import SpringSkeleton.Proofs.Path.Join
import SpringSkeleton.Proofs.Tree.Closed
import SpringSkeleton.Proofs.Tree.Overlay

namespace SpringSkeleton

namespace Path
variable {directory path child : Path} {names : List String}

-- The path goes on from the directory by some names.
structure Below (directory path : Path) (names : List String) : Prop where
  isAbsolute : path.isAbsolute = directory.isAbsolute
  steps : path.steps = directory.steps ++ names
  down : ".." ∉ names
  text : directory.text.toList <+: path.text.toList

theorem join_initial (base : Path) (relative : child.isAbsolute = false) :
    base.text.toList <+: (base.join child).text.toList := by
  by_cases none : base.text = ""
  · rw [none]
    exact List.nil_prefix
  · obtain ⟨front, last, whole, base_text, ending⟩ := join_text base relative none
    rw [whole, base_text]
    refine (List.prefix_append_right_inj front).mpr ?_
    rcases ending with rfl | rfl
    · exact List.nil_prefix
    · exact ⟨child.text.toList, rfl⟩

theorem Below.refl (directory : Path) : Below directory directory [] :=
  ⟨rfl, (List.append_nil _).symm, List.not_mem_nil, List.prefix_rfl⟩

theorem Below.join (below : Below directory path names) (downward : child.Downward) :
    Below directory (path.join child) (names ++ child.steps) := by
  refine ⟨?_, ?_, ?_, below.text.trans (join_initial path downward.relative)⟩
  · rw [isAbsolute_join path downward.relative, below.isAbsolute]
  · rw [steps_join path downward.relative, below.steps, List.append_assoc]
  · intro up
    rcases List.mem_append.mp up with before | after
    · exact below.down before
    · exact downward.steps after

theorem below_along (base : Path) (each : ∀ name ∈ names, IsName name) :
    Below base (base.along names) names := by
  induction names using List.reverseRecOn with
  | nil => exact .refl base
  | append_singleton front name ih =>
    have isName := each name (by simp)
    have further := (ih fun other inside => each other (List.mem_append_left _ inside)).join isName.downward
    rwa [isName.steps, ← along_concat] at further

theorem Below.size (below : Below directory path names) :
    directory.text.utf8ByteSize ≤ path.text.utf8ByteSize := by
  obtain ⟨more, whole⟩ := below.text
  have text : path.text = directory.text ++ String.ofList more := by
    rw [← String.toList_inj, String.toList_append, String.toList_ofList, whole]
  rw [text, String.utf8ByteSize_append]
  exact Nat.le_add_right _ _

theorem Below.admissible (below : Below directory path names) (present : directory.text ≠ "")
    (admissible : path.Admissible) : directory.Admissible :=
  ⟨fun nul => admissible.clean (below.text.subset nul), present, below.size.trans admissible.short⟩

-- If a path is not refused, neither is one that it goes on from.
theorem admissible_along {base : Path} {front back : List String} (some_ : front ≠ [])
    (each : ∀ name ∈ front ++ back, IsName name) (admissible : (base.along (front ++ back)).Admissible) :
    (base.along front).Admissible := by
  have inner : ∀ name ∈ front, IsName name := fun name member => each name (List.mem_append_left _ member)
  have present : (base.along front).text ≠ "" := by
    refine text_of_steps ?_
    rw [(along_parts base inner).1]
    simp [some_]
  rw [along_append] at admissible
  exact (below_along _ fun name member => each name (List.mem_append_right _ member)).admissible present
    admissible

end Path

-- The step is about the directory or something below it, a file strictly below.
def Step.Inside (directory : Path) : Step → Prop
  | .directory path => ∃ names, Path.Below directory path names
  | .file path _ => ∃ names, names ≠ [] ∧ Path.Below directory path names

-- The step makes the directory, or a file in it.
def Step.Goes (directory : Path) : Step → Prop
  | .directory path => path = directory
  | .file path _ => ∃ name, Path.IsName name ∧ path = directory.join ⟨name⟩

theorem Step.Goes.inside {directory path : Path} {names : List String} {step : Step}
    (goes : step.Goes path) (below : Path.Below directory path names) : step.Inside directory := by
  cases step with
  | directory other =>
    cases goes
    exact ⟨names, below⟩
  | file other content =>
    obtain ⟨name, isName, rfl⟩ := goes
    have further := below.join isName.downward
    rw [isName.steps] at further
    exact ⟨names ++ [name], by simp, further⟩

namespace Disk
variable {before middle after disk : Disk} {directory path : Path} {names : List String}

def Under (disk : Disk) (directory : Path) (place : Location) : Prop :=
  ∃ names, names ≠ [] ∧ place = disk.placeOf directory ++ names

structure Confined (directory : Path) (before after : Disk) : Prop where
  workingDirectory : after.workingDirectory = before.workingDirectory
  touched : ∀ place, after.tree.node? place = before.tree.node? place ∨
    (before.tree.node? place = none ∧ after.tree.node? place = some .directory ∧
      (before.OnWay directory place ∨ before.Under directory place)) ∨
    (before.Under directory place ∧ (∃ content, after.tree.node? place = some (.file content)) ∧
      before.tree.node? place ≠ some .directory ∧ directory.Admissible ∧
      after.tree.Leads (after.start directory) directory.steps)

theorem Confined.refl : Confined directory disk disk := ⟨rfl, fun _ => .inl rfl⟩

theorem Confined.keeps (confined : Confined directory before after) {place : Location}
    (stands : before.tree.node? place = some .directory) :
    after.tree.node? place = some .directory := by
  rcases confined.touched place with same | ⟨none, _⟩ | ⟨_, _, file, _⟩
  · rw [same, stands]
  · rw [stands] at none
    cases none
  · exact absurd stands file

theorem Confined.linkFree (confined : Confined directory before after)
    (linkFree : before.tree.LinkFree) : after.tree.LinkFree := by
  intro place target stands
  rcases confined.touched place with same | ⟨_, made, _⟩ | ⟨_, ⟨content, written⟩, _⟩
  · exact linkFree place target (same ▸ stands)
  · rw [made] at stands
    cases stands
  · rw [written] at stands
    cases stands

theorem Under.congr (same : after.workingDirectory = before.workingDirectory) {place : Location}
    (under : after.Under directory place) : before.Under directory place := by
  obtain ⟨names, some, rfl⟩ := under
  exact ⟨names, some, by rw [placeOf_congr same]⟩

theorem Confined.trans (first : Confined directory before middle)
    (second : Confined directory middle after) : Confined directory before after := by
  have wd := first.workingDirectory
  have leads : middle.tree.Leads (middle.start directory) directory.steps →
      after.tree.Leads (after.start directory) directory.steps := by
    intro leads
    rw [start_congr second.workingDirectory]
    exact leads.mono fun _ stands => second.keeps stands
  refine ⟨second.workingDirectory.trans wd, fun place => ?_⟩
  rcases second.touched place with same | ⟨none, made, new⟩ | ⟨under, ⟨content, written⟩, file, rest⟩
  · rcases first.touched place with unmoved | ⟨none, made, new⟩ | ⟨under, ⟨content, written⟩, file, short, lead⟩
    · exact .inl (same.trans unmoved)
    · exact .inr (.inl ⟨none, same.trans made, new⟩)
    · exact .inr (.inr ⟨under, ⟨content, same.trans written⟩, file, short, leads lead⟩)
  · have place_new : before.OnWay directory place ∨ before.Under directory place :=
      new.imp (OnWay.congr wd) (Under.congr wd)
    rcases first.touched place with unmoved | ⟨_, made, _⟩ | ⟨_, ⟨content, written⟩, _⟩
    · exact .inr (.inl ⟨unmoved ▸ none, made, place_new⟩)
    · rw [made] at none
      cases none
    · rw [written] at none
      cases none
  · refine .inr (.inr ⟨under.congr wd, ⟨content, written⟩, fun stood => ?_, rest⟩)
    exact file (first.keeps stood)

-- Making directories for a path below the directory.
theorem enlarges_confined {fresh : Location → Prop} (enlarges : Enlarges fresh before after)
    (new : ∀ place, fresh place → before.OnWay directory place ∨ before.Under directory place) :
    Confined directory before after := by
  refine ⟨enlarges.workingDirectory, fun place => ?_⟩
  rcases enlarges.grows place with same | ⟨none, made, here⟩
  · exact .inl same
  · exact .inr (.inl ⟨none, made, new place here⟩)

theorem onWay_confined {initial : List String} (absolute : path.isAbsolute = directory.isAbsolute)
    (steps : path.steps = directory.steps ++ initial) (down : ".." ∉ initial) {place : Location}
    (onWay : disk.OnWay path place) : disk.OnWay directory place ∨ disk.Under directory place := by
  rcases onWay_below absolute steps down onWay with outside | ⟨names, some, _, inside⟩
  · exact .inl outside
  · exact .inr ⟨names, some, inside⟩

theorem writeFile_confined (linkFree : disk.tree.LinkFree) (present : directory.text ≠ "")
    (below : Path.Below directory path names) (some : names ≠ []) {content : Content}
    (written : disk.writeFile path content = .ok after) : Confined directory disk after := by
  obtain ⟨reaches, unused, rfl⟩ := writeFile_ok linkFree written
  have place : disk.placeOf path = disk.placeOf directory ++ names :=
    placeOf_append below.isAbsolute below.steps below.down disk
  have somewhere : disk.placeOf path ≠ [] := reaches.placeOf_ne_nil
  have leads := reaches.leads
  rw [start_eq below.isAbsolute, below.steps, List.dropLast_append_of_ne_nil some] at leads
  refine ⟨rfl, fun other => ?_⟩
  rw [withTree_tree, Tree.node?_put _ somewhere]
  by_cases here : other = disk.placeOf path
  · refine .inr (.inr ⟨⟨names, some, here.trans place⟩, ⟨content, if_pos here⟩, here ▸ unused,
      below.admissible present reaches.admissible, ?_⟩)
    exact (leads.initial (List.prefix_append _ _)).mono fun _ stands =>
      Tree.put_keeps somewhere unused _ stands
  · exact .inl (if_neg here)

theorem perform_confined (linkFree : disk.tree.LinkFree) (present : directory.text ≠ "") {step : Step}
    (inside : step.Inside directory) : Confined directory disk (disk.perform step).2 := by
  cases step with
  | directory path =>
    obtain ⟨names, below⟩ := inside
    exact enlarges_confined (makeDirectoriesFor_enlarges linkFree path) fun _ onWay =>
      onWay_confined below.isAbsolute below.steps below.down onWay
  | file path content =>
    obtain ⟨names, some, below⟩ := inside
    have grown : Confined directory disk (disk.makeParentFor path).2 := by
      refine enlarges_confined (makeParentFor_enlarges linkFree path) ?_
      rintro place ⟨parent, isParent, onWay⟩
      have steps : parent.steps = directory.steps ++ names.dropLast := by
        rw [isParent.steps, below.steps, List.dropLast_append_of_ne_nil some]
      have down : ".." ∉ names.dropLast := fun up => below.down (List.dropLast_subset _ up)
      exact onWay_confined (isParent.isAbsolute.trans below.isAbsolute) steps down onWay
    obtain ⟨_, reached, made, same⟩ | ⟨_, reached, made, _, same⟩ | ⟨reached, last, made, written, same⟩ :=
      perform_file_cases disk path content
    · rw [made] at grown
      rw [same]
      exact grown
    · rw [made] at grown
      rw [same]
      exact grown
    · rw [made] at grown
      rw [same]
      exact grown.trans (writeFile_confined (grown.linkFree linkFree) present below some written)

-- Wherever the run stops, what it did up to there is confined.
theorem performAll_confined (linkFree : disk.tree.LinkFree) (present : directory.text ≠ "")
    {steps : List Step} (inside : ∀ step ∈ steps, step.Inside directory) :
    Confined directory disk (disk.performAll steps).2 := by
  refine performAll_keeps (Confined directory disk) .refl fun now confined step member => ?_
  exact confined.trans (perform_confined (confined.linkFree linkFree) present (inside step member))

-- The path leads to a directory that stands, by way of one that is missing: it climbs out of that
-- again, so nothing is found until the missing one is made.
structure Detours (disk : Disk) (directory : Path) : Prop where
  stands : disk.tree.node? (disk.placeOf directory) = some .directory
  unseen : disk.pathExists directory = false
  climbs : ∃ front, front ++ [".."] <+: directory.steps ∧
    disk.tree.node? ((disk.start directory).descend front) = none

-- There is no other way to come to a directory that stands and was not found before the run.
theorem Confined.detours (closed : disk.tree.Closed) (linkFree : disk.tree.LinkFree)
    (confined : Confined directory disk after) (admissible : directory.Admissible)
    (unseen : disk.pathExists directory = false)
    (leads : after.tree.Leads (after.start directory) directory.steps)
    (stands : disk.tree.node? (disk.placeOf directory) = some .directory) :
    disk.Detours directory := by
  have lost : ¬ disk.tree.Leads (disk.start directory) directory.steps := by
    intro leads
    rw [pathExists, stat_of_leads linkFree admissible leads] at unseen
    cases unseen
  rw [start_congr confined.workingDirectory] at leads
  have made : ∀ place, after.tree.node? place = some .directory →
      disk.tree.node? place = some .directory ∨ disk.tree.node? place = none := by
    intro place standing
    rcases confined.touched place with same | ⟨none, _⟩ | ⟨_, ⟨content, written⟩, _⟩
    · exact .inl (same ▸ standing)
    · exact .inr none
    · rw [written] at standing
      cases standing
  obtain ⟨front, name, back, order, down, free⟩ := leads.missing made lost
  rw [← Location.descend_concat _ _ down] at free
  have arrives : disk.tree.node? (((disk.start directory).descend (front ++ [name])).descend back) ≠
      none := by
    rw [← Location.descend_append, ← List.append_cons, ← order, ← placeOf, stands]
    simp
  obtain ⟨inner, initial, missing⟩ := closed.climbs free arrives
  refine ⟨stands, unseen, front ++ [name] ++ inner, ?_, by rwa [Location.descend_append]⟩
  rw [order, show front ++ name :: back = front ++ [name] ++ back from List.append_cons ..,
    List.append_assoc]
  exact (List.prefix_append_right_inj _).mpr initial

-- What a confined run that starts below a directory not found has done at a place.
theorem Confined.outcome (closed : disk.tree.Closed) (linkFree : disk.tree.LinkFree)
    (confined : Confined directory disk after) (unseen : disk.pathExists directory = false)
    (place : Location) : after.tree.node? place = disk.tree.node? place ∨
      (disk.tree.node? place = none ∧ after.tree.node? place = some .directory ∧
        disk.OnWay directory place) ∨
      (disk.placeOf directory <+: place ∧ after.tree.node? place ≠ none ∧
        (disk.tree.node? place = none ∨
          disk.Detours directory ∧ disk.tree.node? place ≠ some .directory ∧
            ∃ content, after.tree.node? place = some (.file content))) := by
  rcases confined.touched place with still | ⟨none, made, onWay | under⟩ | ⟨under, written, file, admissible, leads⟩
  · exact .inl still
  · exact .inr (.inl ⟨none, made, onWay⟩)
  · obtain ⟨names, _, rfl⟩ := under
    exact .inr (.inr ⟨List.prefix_append _ _, by rw [made]; simp, .inl none⟩)
  · obtain ⟨names, some, rfl⟩ := under
    obtain ⟨content, holds⟩ := written
    refine .inr (.inr ⟨List.prefix_append _ _, by rw [holds]; simp, ?_⟩)
    by_cases free : disk.tree.node? (disk.placeOf directory ++ names) = none
    · exact .inl free
    · have stands := closed.above some free
      exact .inr ⟨confined.detours closed linkFree admissible unseen leads stands, file, content, holds⟩

end Disk
end SpringSkeleton
