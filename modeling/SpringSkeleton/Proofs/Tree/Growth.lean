import SpringSkeleton.Proofs.Path.Parent
import SpringSkeleton.Proofs.Tree.Reach
import SpringSkeleton.Tree.Writing

namespace SpringSkeleton

namespace Tree
variable {fresh : Location → Prop} {before middle after : Tree}

-- Only directories are new, at places of one kind where nothing stood.
def Grows (fresh : Location → Prop) (before after : Tree) : Prop :=
  ∀ place, after.node? place = before.node? place ∨
    before.node? place = none ∧ after.node? place = some .directory ∧ fresh place

theorem Grows.refl : Grows fresh before before := fun _ => .inl rfl

theorem Grows.trans (first : Grows fresh before middle) (second : Grows fresh middle after) :
    Grows fresh before after := by
  intro place
  rcases second place with same | ⟨none, made, new⟩
  · rw [same]
    exact first place
  · rcases first place with same | ⟨_, standing, _⟩
    · exact .inr ⟨same ▸ none, made, new⟩
    · rw [standing] at none
      cases none

theorem Grows.weaken {wider : Location → Prop} (grows : Grows fresh before after)
    (all : ∀ place, fresh place → wider place) : Grows wider before after := by
  intro place
  rcases grows place with same | ⟨none, made, new⟩
  · exact .inl same
  · exact .inr ⟨none, made, all place new⟩

theorem Grows.keeps (grows : Grows fresh before after) {place : Location} {node : Node}
    (stands : before.node? place = some node) : after.node? place = some node := by
  rcases grows place with same | ⟨none, _, _⟩
  · rw [same, stands]
  · rw [stands] at none
    cases none

theorem Grows.same (grows : Grows fresh before after) {place : Location} (old : ¬fresh place) :
    after.node? place = before.node? place :=
  (grows place).resolve_right fun ⟨_, _, new⟩ => old new

theorem Grows.linkFree (grows : Grows fresh before after) (linkFree : before.LinkFree) :
    after.LinkFree := by
  intro place target stands
  rcases grows place with same | ⟨_, made, _⟩
  · exact linkFree place target (same ▸ stands)
  · rw [made] at stands
    cases stands

end Tree

namespace Disk
variable {fresh : Location → Prop} {before middle after disk : Disk} {path outer : Path}

-- One disk comes from another by making directories alone.
structure Enlarges (fresh : Location → Prop) (before after : Disk) : Prop where
  workingDirectory : after.workingDirectory = before.workingDirectory
  grows : before.tree.Grows fresh after.tree

theorem Enlarges.refl : Enlarges fresh before before := ⟨rfl, .refl⟩

theorem Enlarges.trans (first : Enlarges fresh before middle) (second : Enlarges fresh middle after) :
    Enlarges fresh before after :=
  ⟨second.workingDirectory.trans first.workingDirectory, first.grows.trans second.grows⟩

-- The places that a path comes by on steps down, with the last one.
def OnWay (disk : Disk) (path : Path) (place : Location) : Prop :=
  ∃ front name, front ++ [name] <+: path.steps ∧ name ≠ ".." ∧
    place = (disk.start path).descend front ++ [name]

theorem OnWay.congr (same : after.workingDirectory = before.workingDirectory) {place : Location}
    (onWay : after.OnWay path place) : before.OnWay path place := by
  obtain ⟨front, name, initial, down, place_eq⟩ := onWay
  exact ⟨front, name, initial, down, by rw [place_eq, start_congr same]⟩

-- New directories for a path that goes down from a base are on the way to the base or below it.
theorem onWay_below {base : Path} (absolute : outer.isAbsolute = base.isAbsolute) {front : List String}
    (steps : outer.steps = base.steps ++ front) (down : ".." ∉ front) {place : Location}
    (onWay : disk.OnWay outer place) :
    disk.OnWay base place ∨ ∃ names, names ≠ [] ∧ names <+: front ∧ place = disk.placeOf base ++ names := by
  obtain ⟨before, name, initial, step, rfl⟩ := onWay
  have same : disk.start outer = disk.start base := start_eq absolute disk
  rw [steps] at initial
  rcases List.prefix_or_prefix_of_prefix initial (List.prefix_append base.steps front) with
    within | beyond
  · exact .inl ⟨before, name, within, step, by rw [same]⟩
  · obtain ⟨names, whole⟩ := beyond
    cases names using List.reverseRecOn with
    | nil =>
      have within : before ++ [name] <+: base.steps := by
        rw [List.append_nil] at whole
        exact whole ▸ List.prefix_rfl
      exact .inl ⟨before, name, within, step, by rw [same]⟩
    | append_singleton names last _ =>
      rw [← whole] at initial
      have further : names ++ [last] <+: front := (List.prefix_append_right_inj _).mp initial
      have below : ".." ∉ names ++ [last] := fun up => down (further.subset up)
      refine .inr ⟨names ++ [last], by simp, further, ?_⟩
      rw [← Location.descend_concat _ _ step, ← whole, same, Location.descend_append,
        Location.descend_names _ below]
      rfl

-- One path begins another: it comes by fewer places.
structure Begins (outer path : Path) : Prop where
  isAbsolute : outer.isAbsolute = path.isAbsolute
  steps : outer.steps <+: path.steps

theorem Begins.start (begins : Begins outer path) (disk : Disk) : disk.start outer = disk.start path :=
  start_eq begins.isAbsolute disk

theorem Begins.onWay (begins : Begins outer path) {place : Location} (onWay : disk.OnWay outer place) :
    disk.OnWay path place := by
  obtain ⟨front, name, initial, down, place_eq⟩ := onWay
  exact ⟨front, name, initial.trans begins.steps, down, by rw [place_eq, begins.start]⟩

theorem parent_begins (isParent : outer.IsParent path) : Begins outer path :=
  ⟨isParent.isAbsolute, by rw [isParent.steps]; exact List.dropLast_prefix path.steps⟩

theorem ancestors_begin {bound : Nat} (member : outer ∈ ancestors bound path) : Begins outer path := by
  induction bound generalizing path with
  | zero => cases member
  | succ bound ih =>
    unfold ancestors at member
    rcases List.mem_cons.mp member with rfl | above
    · exact ⟨rfl, List.prefix_rfl⟩
    · cases up : path.parent? with
      | none => simp [up] at above
      | some parent =>
        have further : Begins outer parent := ih (by simpa [up] using above)
        have nearer := parent_begins (Path.parent?_isParent up)
        exact ⟨further.isAbsolute.trans nearer.isAbsolute, further.steps.trans nearer.steps⟩

theorem makeDirectory_enlarges (linkFree : disk.tree.LinkFree)
    (made : disk.makeDirectory path = .ok after) :
    Enlarges (disk.OnWay path) disk after ∧ after.tree.Leads (after.start path) path.steps := by
  obtain ⟨front, name, order, isName, _, leads, short, free, rfl⟩ := makeDirectory_ok linkFree made
  have place : disk.placeOf path = (disk.start path).descend front ++ [name] :=
    placeOf_concat order isName.down
  have somewhere : disk.placeOf path ≠ [] := by simp [place]
  have grows : disk.tree.Grows (disk.OnWay path) (disk.tree.put (disk.placeOf path) .directory) := by
    intro other
    rw [Tree.node?_put _ somewhere]
    split
    · rename_i here
      exact .inr ⟨here ▸ free, rfl, front, name, order ▸ List.prefix_rfl, isName.down, here.trans place⟩
    · exact .inl rfl
  refine ⟨⟨rfl, grows⟩, ?_⟩
  rw [order, Tree.leads_concat isName.down]
  refine ⟨leads.mono fun _ stands => grows.keeps stands, short, ?_⟩
  rw [withTree_tree, Tree.node?_put _ somewhere]
  simp [start, place]

section Attempts

-- One directory is made, or it is there already.
def attempt (disk : Disk) (path : Path) : Except FileProblem Unit × Disk :=
  match disk.makeDirectory path with
  | .ok made => (.ok (), made)
  | .error problem => if disk.isDirectory path then (.ok (), disk) else (.error problem, disk)

theorem attempt_cases (disk : Disk) (path : Path) :
    (∃ made, disk.makeDirectory path = .ok made ∧ disk.attempt path = (.ok (), made)) ∨
      (disk.isDirectory path = true ∧ disk.attempt path = (.ok (), disk)) ∨
      ∃ problem, disk.attempt path = (.error problem, disk) := by
  unfold attempt
  cases disk.makeDirectory path with
  | ok made => exact .inl ⟨made, rfl, rfl⟩
  | error problem =>
    by_cases there : disk.isDirectory path = true
    · exact .inr (.inl ⟨there, if_pos there⟩)
    · exact .inr (.inr ⟨problem, if_neg there⟩)

theorem attempt_enlarges (linkFree : disk.tree.LinkFree) (path : Path) :
    Enlarges (disk.OnWay path) disk (disk.attempt path).2 := by
  obtain ⟨made, done, same⟩ | ⟨_, same⟩ | ⟨_, same⟩ := attempt_cases disk path
  · rw [same]
    exact (makeDirectory_enlarges linkFree done).1
  · rw [same]
    exact .refl
  · rw [same]
    exact .refl

theorem attempt_leads (linkFree : disk.tree.LinkFree) (done : (disk.attempt path).1 = .ok ()) :
    (disk.attempt path).2.tree.Leads ((disk.attempt path).2.start path) path.steps := by
  obtain ⟨made, first, same⟩ | ⟨there, same⟩ | ⟨problem, same⟩ := attempt_cases disk path
  · rw [same]
    exact (makeDirectory_enlarges linkFree first).2
  · rw [same]
    exact isDirectory_leads linkFree there
  · rw [same] at done
    cases done

theorem makeChain_attempt (present : path.text ≠ "")
    (known : disk.makeDirectory path ≠ .error .missing) (outer : List Path) :
    disk.makeChain (path :: outer) = disk.attempt path := by
  unfold makeChain attempt
  rw [if_neg present]
  cases made : disk.makeDirectory path with
  | ok after => rfl
  | error problem => cases problem <;> first | rfl | exact absurd made known

theorem makeChain_missing (present : path.text ≠ "") (missing : disk.makeDirectory path = .error .missing)
    (outer : List Path) : disk.makeChain (path :: outer) =
      match disk.makeChain outer with
      | (.error problem, reached) => (.error problem, reached)
      | (.ok (), reached) => reached.attempt path := by
  rw [makeChain, if_neg present, missing]
  rfl

-- A directory is attempted at once or after those further out.
theorem makeChain_cases (disk : Disk) (path : Path) (outer : List Path) :
    (path.text = "" ∧ disk.makeChain (path :: outer) = (.ok (), disk)) ∨
      disk.makeChain (path :: outer) = disk.attempt path ∨
      (∃ problem reached, disk.makeChain outer = (.error problem, reached) ∧
        disk.makeChain (path :: outer) = (.error problem, reached)) ∨
      ∃ reached, disk.makeChain outer = (.ok (), reached) ∧
        disk.makeChain (path :: outer) = reached.attempt path := by
  by_cases empty : path.text = ""
  · exact .inl ⟨empty, by rw [makeChain, if_pos empty]⟩
  · by_cases missing : disk.makeDirectory path = .error .missing
    · rw [makeChain_missing empty missing]
      cases chained : disk.makeChain outer with
      | mk result reached =>
        cases result with
        | error problem => exact .inr (.inr (.inl ⟨problem, reached, rfl, rfl⟩))
        | ok done => exact .inr (.inr (.inr ⟨reached, rfl, rfl⟩))
    · exact .inr (.inl (makeChain_attempt empty missing outer))

-- What every attempt keeps is kept along the chain, whether it is followed to its end or not.
theorem makeChain_keeps (invariant : Disk → Prop) {chain : List Path} (holds : invariant disk)
    (step : ∀ now, invariant now → ∀ path ∈ chain, invariant (now.attempt path).2) :
    invariant (disk.makeChain chain).2 := by
  induction chain with
  | nil => exact holds
  | cons nearest outer ih =>
    have further := ih fun now kept path member => step now kept path (List.mem_cons_of_mem _ member)
    obtain ⟨_, same⟩ | same | ⟨_, reached, chained, same⟩ | ⟨reached, chained, same⟩ :=
      makeChain_cases disk nearest outer
    · rwa [same]
    · rw [same]
      exact step disk holds nearest List.mem_cons_self
    · rwa [same, ← chained]
    · rw [chained] at further
      rw [same]
      exact step reached further nearest List.mem_cons_self

end Attempts

-- Made from the outermost missing directory inwards, each on the way of the same path.
theorem makeChain_enlarges (linkFree : disk.tree.LinkFree) {chain : List Path}
    (begin : ∀ outer ∈ chain, Begins outer path) :
    Enlarges (disk.OnWay path) disk (disk.makeChain chain).2 := by
  refine makeChain_keeps (Enlarges (disk.OnWay path) disk) .refl fun now grown outer member => ?_
  have next := attempt_enlarges (grown.grows.linkFree linkFree) outer
  have onWay : ∀ place, now.OnWay outer place → disk.OnWay path place :=
    fun place way => (begin outer member).onWay (way.congr grown.workingDirectory)
  exact grown.trans ⟨next.workingDirectory, next.grows.weaken onWay⟩

theorem makeChain_leads (linkFree : disk.tree.LinkFree) {nearest : Path} {chain : List Path}
    (begin : ∀ outer ∈ nearest :: chain, Begins outer nearest)
    (done : (disk.makeChain (nearest :: chain)).1 = .ok ()) :
    (disk.makeChain (nearest :: chain)).2.tree.Leads
      ((disk.makeChain (nearest :: chain)).2.start nearest) nearest.steps := by
  have further : Enlarges (disk.OnWay nearest) disk (disk.makeChain chain).2 :=
    makeChain_enlarges linkFree fun other member => begin other (List.mem_cons_of_mem _ member)
  obtain ⟨empty, same⟩ | same | ⟨_, reached, _, same⟩ | ⟨reached, chained, same⟩ :=
    makeChain_cases disk nearest chain
  · have none : nearest.steps = [] := by
      rw [show nearest = ⟨""⟩ from congrArg Path.mk empty]
      exact Path.steps_empty
    simp [none, Tree.Leads]
  · rw [same] at done ⊢
    exact attempt_leads linkFree done
  · rw [same] at done
    cases done
  · rw [same] at done ⊢
    rw [chained] at further
    exact attempt_leads (further.grows.linkFree linkFree) done

theorem ancestors_head (path : Path) (bound : Nat) :
    ∃ outer, ancestors (bound + 1) path = path :: outer := ⟨_, rfl⟩

theorem makeDirectories_enlarges (linkFree : disk.tree.LinkFree) (path : Path) :
    Enlarges (disk.OnWay path) disk (disk.makeDirectories path).2 := by
  unfold makeDirectories
  exact makeChain_enlarges linkFree fun _ member => ancestors_begin member

theorem makeDirectories_leads (linkFree : disk.tree.LinkFree)
    (done : (disk.makeDirectories path).1 = .ok ()) :
    (disk.makeDirectories path).2.tree.Leads ((disk.makeDirectories path).2.start path) path.steps := by
  obtain ⟨outer, order⟩ := ancestors_head path path.text.length
  have begin : ∀ other ∈ path :: outer, Begins other path :=
    fun other member => ancestors_begin (order ▸ member)
  unfold makeDirectories at done ⊢
  rw [order] at done ⊢
  exact makeChain_leads linkFree begin done

theorem makeDirectoriesFor_disk (disk : Disk) (path : Path) :
    (disk.makeDirectoriesFor path).2 = (disk.makeDirectories path).2 := by
  unfold makeDirectoriesFor
  split <;> rename_i made <;> rw [made]

theorem makeDirectoriesFor_keeps (invariant : Disk → Prop) (holds : invariant disk) (path : Path)
    (step : ∀ now, invariant now → ∀ outer, Begins outer path → invariant (now.attempt outer).2) :
    invariant (disk.makeDirectoriesFor path).2 := by
  rw [makeDirectoriesFor_disk, makeDirectories]
  refine makeChain_keeps invariant holds fun now kept outer member => ?_
  exact step now kept outer (ancestors_begin member)

theorem makeDirectoriesFor_enlarges (linkFree : disk.tree.LinkFree) (path : Path) :
    Enlarges (disk.OnWay path) disk (disk.makeDirectoriesFor path).2 := by
  rw [makeDirectoriesFor_disk]
  exact makeDirectories_enlarges linkFree path

theorem makeDirectoriesFor_leads (linkFree : disk.tree.LinkFree)
    (done : disk.makeDirectoriesFor path = (.ok (), after)) :
    after.tree.Leads (after.start path) path.steps := by
  unfold makeDirectoriesFor at done
  split at done
  · rename_i made
    cases done
    have succeeded : (disk.makeDirectories path).1 = .ok () := by rw [made]
    have leads := makeDirectories_leads linkFree succeeded
    rwa [made] at leads
  · cases done

-- The directories for a file: those on the way to it, without the place of the file.
theorem makeParentFor_enlarges (linkFree : disk.tree.LinkFree) (path : Path) :
    Enlarges (fun place => ∃ parent : Path, parent.IsParent path ∧ disk.OnWay parent place)
      disk (disk.makeParentFor path).2 := by
  unfold makeParentFor
  cases up : path.parent? with
  | none => exact .refl
  | some parent =>
    have isParent := Path.parent?_isParent up
    have grown := makeDirectoriesFor_enlarges linkFree parent
    exact ⟨grown.workingDirectory, grown.grows.weaken fun _ onWay => ⟨parent, isParent, onWay⟩⟩

-- What goes wrong is told with the path of the directory.
theorem makeDirectoriesFor_error {problem : Problem}
    (failed : disk.makeDirectoriesFor path = (.error problem, after)) :
    ∃ cause, problem = .file path cause := by
  unfold makeDirectoriesFor at failed
  split at failed
  · cases failed
  · rename_i cause _ _
    cases failed
    exact ⟨cause, rfl⟩

theorem makeParentFor_error {problem : Problem}
    (failed : disk.makeParentFor path = (.error problem, after)) :
    ∃ parent cause, path.parent? = some parent ∧ problem = .file parent cause := by
  unfold makeParentFor at failed
  split at failed
  · cases failed
  · rename_i parent up
    obtain ⟨cause, told⟩ := makeDirectoriesFor_error failed
    exact ⟨parent, cause, up, told⟩

-- A file is not written if its directory cannot be made, or if the file itself is refused.
theorem perform_file_cases (disk : Disk) (path : Path) (content : String) :
    (∃ problem reached, disk.makeParentFor path = (.error problem, reached) ∧
      disk.perform (.file path content) = (.error problem, reached)) ∨
    (∃ cause reached, disk.makeParentFor path = (.ok (), reached) ∧
      reached.writeFile path (.text content) = .error cause ∧
      disk.perform (.file path content) = (.error (.file path cause), reached)) ∨
    ∃ reached last, disk.makeParentFor path = (.ok (), reached) ∧
      reached.writeFile path (.text content) = .ok last ∧
      disk.perform (.file path content) = (.ok (), last) := by
  cases made : disk.makeParentFor path with
  | mk result reached =>
    cases result with
    | error problem => exact .inl ⟨problem, reached, rfl, by simp only [perform, made]⟩
    | ok done =>
      cases written : reached.writeFile path (.text content) with
      | error cause =>
        exact .inr (.inl ⟨cause, reached, rfl, written, by simp only [perform, made, written]⟩)
      | ok last => exact .inr (.inr ⟨reached, last, rfl, written, by simp only [perform, made, written]⟩)

theorem perform_file_ok {content : String} (performed : disk.perform (.file path content) = (.ok (), after)) :
    ∃ made, disk.makeParentFor path = (.ok (), made) ∧ made.writeFile path (.text content) = .ok after := by
  obtain ⟨_, _, _, same⟩ | ⟨_, _, _, _, same⟩ | ⟨made, last, parents, written, same⟩ :=
    perform_file_cases disk path content
  · cases same.symm.trans performed
  · cases same.symm.trans performed
  · cases same.symm.trans performed
    exact ⟨made, parents, written⟩

-- What every step keeps is kept by a run, whether it is stopped or not.
theorem performAll_keeps (invariant : Disk → Prop) {steps : List Step} (holds : invariant disk)
    (each : ∀ now, invariant now → ∀ step ∈ steps, invariant (now.perform step).2) :
    invariant (disk.performAll steps).2 := by
  induction steps generalizing disk with
  | nil => exact holds
  | cons step rest ih =>
    have first := each disk holds step List.mem_cons_self
    have others : ∀ now, invariant now → ∀ other ∈ rest, invariant (now.perform other).2 :=
      fun now kept other member => each now kept other (List.mem_cons_of_mem _ member)
    rw [performAll]
    cases run : disk.perform step with
    | mk result reached =>
      rw [run] at first
      cases result with
      | error problem => exact first
      | ok done => exact ih first others

end Disk
end SpringSkeleton
