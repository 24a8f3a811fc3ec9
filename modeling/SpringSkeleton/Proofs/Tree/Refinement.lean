import SpringSkeleton.Proofs.Tree.Agreement
import SpringSkeleton.Proofs.Tree.Direct

namespace SpringSkeleton

-- The path goes down by names that are neither long nor kept for staged files.
def Artifact.Ordinary (artifact : Artifact) : Prop :=
  ∃ names : List String, artifact.path.components = names.map .name ∧
    ∀ name ∈ names, Text.endsWith ".scaffold-tmp" name = false ∧ name.utf8ByteSize ≤ 200

theorem Tree.LinkFree.put {tree : Tree} (linkFree : tree.LinkFree) {place : Location}
    (somewhere : place ≠ []) (content : Content) : (tree.put place (.file content)).LinkFree := by
  intro other target stands
  rw [Tree.node?_put _ somewhere] at stands
  split at stands
  · cases stands
  · exact linkFree other target stands

theorem Tree.LinkFree.drop {tree : Tree} (linkFree : tree.LinkFree) {place : Location}
    (somewhere : place ≠ []) : (tree.drop place).LinkFree := by
  intro other target stands
  rw [Tree.node?_drop _ somewhere] at stands
  split at stands
  · cases stands
  · exact linkFree other target stands

namespace Disk

-- Where an ordinary artifact comes to stand below a base.
structure Lands (base : Path) (artifact : Artifact) (front : List String) (last : String) : Prop
    extends IsTarget base artifact.path front last where
  components : artifact.path.components = (front ++ [last]).map .name
  visible : ∀ name ∈ front ++ [last], Text.endsWith ".scaffold-tmp" name = false
  small : last.utf8ByteSize ≤ 200

-- Each artifact has a path short enough to wait under, and no step of the base leads through its place.
structure Stageable (disk : Disk) (base : Path) (artifacts : List Artifact) : Prop where
  lands : ∀ artifact ∈ artifacts, ∃ front last, Lands base artifact front last
  short : ∀ artifact ∈ artifacts,
    (stagingPath (base.join artifact.path)).text.utf8ByteSize ≤ longestPath
  aside : ∀ artifact ∈ artifacts, ¬ disk.OnWay base (disk.stagingPlace base artifact)

-- The same artifacts, written to one disk and waiting on the other: their texts stand at the targets
-- here and at the hidden places there, and everything else is the same.
structure Mirrors (disk : Disk) (base : Path) (artifacts waiting : List Artifact)
    (direct staged : Disk) : Prop where
  among : ∀ artifact ∈ waiting, artifact ∈ artifacts
  workingDirectory : direct.workingDirectory = disk.workingDirectory
  stagedDirectory : staged.workingDirectory = disk.workingDirectory
  linkFree : direct.tree.LinkFree
  stagedFree : staged.tree.LinkFree
  root : staged.tree.entries.lookup [] = direct.tree.entries.lookup []
  unused : ∀ artifact ∈ artifacts, direct.tree.node? (disk.stagingPlace base artifact) = none
  held : ∀ artifact ∈ waiting, ∃ content,
    direct.tree.node? (disk.targetPlace base artifact) = some (.file content) ∧
      staged.tree.node? (disk.stagingPlace base artifact) = some (.file content)
  open_ : ∀ artifact ∈ waiting,
    staged.tree.node? (disk.targetPlace base artifact) ≠ some .directory
  reaches : ∀ artifact ∈ waiting, direct.Reaches (base.join artifact.path) ∧
    staged.Reaches (stagingPath (base.join artifact.path))
  others : ∀ place, (∀ artifact ∈ waiting, place ≠ disk.targetPlace base artifact ∧
      place ≠ disk.stagingPlace base artifact) →
    staged.tree.node? place = direct.tree.node? place

variable {disk direct staged now after reached : Disk} {base parent : Path} {place : Location}
variable {front back : List String} {last ending : String} {written : List Path}
variable {a b artifact : Artifact} {artifacts waiting rest : List Artifact}

section Places

theorem lands_of_ordinary (ordinary : artifact.Ordinary)
    (reaches : disk.Reaches (base.join artifact.path)) : ∃ front last, Lands base artifact front last := by
  obtain ⟨names, components, each⟩ := ordinary
  have somewhere : names ≠ [] := by
    rintro rfl
    exact Path.ending_join_nothing base components reaches.plain
  obtain ⟨downward, steps⟩ := Path.downward_of_components somewhere components
  obtain ⟨front, last, target⟩ := target_parts base downward (steps ▸ somewhere)
  obtain rfl : names = front ++ [last] := steps ▸ target.order
  exact ⟨front, last, target, components, fun name member => (each name member).1,
    (each last (by simp)).2⟩

theorem Lands.parts_eq_iff (lands : Lands base a front last) (second : Lands base b back ending) :
    front ++ [last] = back ++ [ending] ↔ a.path.components = b.path.components := by
  rw [lands.components, second.components]
  have injective : Function.Injective Path.Component.name := fun _ _ equal => by injection equal
  exact (List.map_injective_iff.mpr injective).eq_iff.symm

theorem Lands.somewhere (lands : Lands base a front last) (disk : Disk) :
    disk.targetPlace base a ≠ [] ∧ disk.stagingPlace base a ≠ [] := by
  rw [targetPlace, stagingPlace, lands.place, lands.stagingPlace]
  simp

theorem Lands.target_eq_iff (lands : Lands base a front last) (second : Lands base b back ending)
    (disk : Disk) : disk.targetPlace base a = disk.targetPlace base b ↔
      a.path.components = b.path.components := by
  rw [targetPlace, targetPlace, lands.place_eq_iff second.toIsTarget, lands.parts_eq_iff second]

theorem Stageable.target_eq_iff (stageable : disk.Stageable base artifacts) (member : a ∈ artifacts)
    (other : b ∈ artifacts) : disk.targetPlace base a = disk.targetPlace base b ↔
      a.path.components = b.path.components := by
  obtain ⟨front, last, lands⟩ := stageable.lands a member
  obtain ⟨back, ending, second⟩ := stageable.lands b other
  exact lands.target_eq_iff second disk

theorem Stageable.staging_eq_iff (stageable : disk.Stageable base artifacts) (member : a ∈ artifacts)
    (other : b ∈ artifacts) : disk.stagingPlace base a = disk.stagingPlace base b ↔
      a.path.components = b.path.components := by
  obtain ⟨front, last, lands⟩ := stageable.lands a member
  obtain ⟨back, ending, second⟩ := stageable.lands b other
  rw [stagingPlace, stagingPlace, lands.stagingPlace_eq_iff second.toIsTarget, lands.parts_eq_iff second]

theorem Stageable.hidden (stageable : disk.Stageable base artifacts) (member : a ∈ artifacts)
    (other : b ∈ artifacts) : disk.targetPlace base a ≠ disk.stagingPlace base b := by
  obtain ⟨front, last, lands⟩ := stageable.lands a member
  obtain ⟨back, ending, second⟩ := stageable.lands b other
  exact lands.hidden second.toIsTarget (lands.visible last (by simp)) disk

theorem Stageable.somewhere (stageable : disk.Stageable base artifacts) (member : a ∈ artifacts) :
    disk.targetPlace base a ≠ [] ∧ disk.stagingPlace base a ≠ [] := by
  obtain ⟨front, last, lands⟩ := stageable.lands a member
  exact lands.somewhere disk

-- No directory that an artifact needs is a place where one waits.
theorem Stageable.off_way (stageable : disk.Stageable base artifacts) (member : a ∈ artifacts)
    (other : b ∈ artifacts) (isParent : parent.IsParent (base.join a.path)) :
    ¬ disk.OnWay parent (disk.stagingPlace base b) := by
  intro onWay
  obtain ⟨front, last, lands⟩ := stageable.lands a member
  obtain ⟨back, ending, second⟩ := stageable.lands b other
  have steps : parent.steps = base.steps ++ front := by
    rw [isParent.steps, lands.steps, ← List.append_assoc, List.dropLast_concat]
  have absolute : parent.isAbsolute = base.isAbsolute := isParent.isAbsolute.trans lands.isAbsolute
  have down : ".." ∉ front := fun up => lands.down (List.mem_append_left _ up)
  rcases onWay_below absolute steps down onWay with outside | ⟨names, _, initial, inside⟩
  · exact stageable.aside b other outside
  · rw [stagingPlace, second.stagingPlace] at inside
    have among : stagingName ending ∈ names := by
      rw [← List.append_cancel_left inside]
      simp
    have visible := lands.visible _ (List.mem_append_left _ (initial.subset among))
    rw [stagingName_hidden] at visible
    cases visible

-- Whoever can name the target can name the hidden place beside it.
theorem Stageable.allows (stageable : disk.Stageable base artifacts) (member : a ∈ artifacts)
    (lands : Lands base a front last) (reaches : direct.Reaches (base.join a.path))
    (beside : stagingPath (base.join a.path) = parent.join ⟨stagingName last⟩) :
    parent.refusal? (stagingName last) = none := by
  rw [Path.refusal?_eq_none_iff, ← beside]
  refine ⟨⟨fun nul => reaches.admissible.clean (lands.nul_iff.mp nul), ?_, stageable.short a member⟩, ?_⟩
  · apply Path.text_of_steps
    simp [lands.stagingSteps]
  · have small := lands.small
    rw [stagingName_size, longestName]
    omega

end Places

section Staging

variable (stageable : disk.Stageable base artifacts)
  (mirrors : Mirrors disk base artifacts waiting direct staged)

theorem mirrors_begin (linkFree : disk.tree.LinkFree)
    (unused : ∀ artifact ∈ artifacts, disk.tree.node? (disk.stagingPlace base artifact) = none) :
    Mirrors disk base artifacts [] disk disk :=
  ⟨List.forall_mem_nil _, rfl, rfl, linkFree, linkFree, rfl, unused, List.forall_mem_nil _,
    List.forall_mem_nil _, List.forall_mem_nil _, fun _ _ => rfl⟩

include stageable mirrors

-- Neither way is a file in the way of the other.
theorem Mirrors.target_open (member : a ∈ artifacts)
    (open_ : direct.tree.node? (disk.targetPlace base a) ≠ some .directory) :
    staged.tree.node? (disk.targetPlace base a) ≠ some .directory := by
  by_cases taken : ∃ b ∈ waiting, disk.targetPlace base a = disk.targetPlace base b
  · obtain ⟨b, inside, same⟩ := taken
    rw [same]
    exact mirrors.open_ b inside
  · rw [mirrors.others]
    · exact open_
    · intro b inside
      refine ⟨fun same => taken ⟨b, inside, same⟩, ?_⟩
      exact stageable.hidden member (mirrors.among b inside)

theorem Mirrors.staging_open (member : a ∈ artifacts) :
    staged.tree.node? (disk.stagingPlace base a) ≠ some .directory := by
  by_cases taken : ∃ b ∈ waiting, disk.stagingPlace base a = disk.stagingPlace base b
  · obtain ⟨b, inside, same⟩ := taken
    obtain ⟨content, _, stands⟩ := mirrors.held b inside
    rw [same, stands]
    simp
  · rw [mirrors.others, mirrors.unused a member]
    · simp
    · intro b inside
      refine ⟨(stageable.hidden (mirrors.among b inside) member).symm, ?_⟩
      exact fun same => taken ⟨b, inside, same⟩

theorem Mirrors.off_hidden (member : a ∈ artifacts) (isParent : parent.IsParent (base.join a.path)) :
    ∀ b ∈ artifacts, ¬ direct.OnWay parent (disk.stagingPlace base b) := fun _ inside onWay =>
  stageable.off_way member inside isParent (onWay.congr mirrors.workingDirectory)

-- A file that has been written stays one, so it is on the way of no directory that can be made.
omit stageable in
theorem Mirrors.off_targets (made : direct.makeDirectoriesFor parent = (.ok (), after)) :
    ∀ b ∈ waiting, ¬ direct.OnWay parent (disk.targetPlace base b) := by
  intro b inside onWay
  have grown := makeDirectoriesFor_enlarges mirrors.linkFree parent
  rw [made] at grown
  obtain ⟨content, stands, _⟩ := mirrors.held b inside
  have file := grown.grows.keeps stands
  have directory := stands_onWay (makeDirectoriesFor_leads mirrors.linkFree made)
    (onWay.congr grown.workingDirectory.symm)
  rw [file] at directory
  cases directory

omit stageable in
theorem Mirrors.sameOnWay
    (offHidden : ∀ b ∈ artifacts, ¬ direct.OnWay parent (disk.stagingPlace base b))
    (offTargets : ∀ b ∈ waiting, ¬ direct.OnWay parent (disk.targetPlace base b)) :
    SameOnWay parent direct staged := by
  refine ⟨mirrors.stagedDirectory.trans mirrors.workingDirectory.symm, mirrors.linkFree,
    mirrors.stagedFree, fun place onWay => mirrors.others place fun b inside => ⟨?_, ?_⟩⟩
  · rintro rfl
    exact offTargets b inside onWay
  · rintro rfl
    exact offHidden b (mirrors.among b inside) onWay

-- Both disks get the directories of a path that comes by nothing that is written or waits.
omit stageable in
theorem Mirrors.grow
    (offHidden : ∀ b ∈ artifacts, ¬ direct.OnWay parent (disk.stagingPlace base b))
    (offTargets : ∀ b ∈ waiting, ¬ direct.OnWay parent (disk.targetPlace base b))
    (grown : Enlarges (direct.OnWay parent) direct after)
    (alsoGrown : Enlarges (staged.OnWay parent) staged reached) (left : SameOnWay parent after reached)
    (root : reached.tree.entries.lookup [] = after.tree.entries.lookup []) :
    Mirrors disk base artifacts waiting after reached := by
  have oneDirectory : direct.workingDirectory = staged.workingDirectory :=
    mirrors.workingDirectory.trans mirrors.stagedDirectory.symm
  have onlyHere : ∀ place, staged.OnWay parent place → direct.OnWay parent place :=
    fun _ onWay => onWay.congr oneDirectory.symm
  refine ⟨mirrors.among, grown.workingDirectory.trans mirrors.workingDirectory,
    alsoGrown.workingDirectory.trans mirrors.stagedDirectory, left.linkFree, left.otherFree, root,
    ?_, ?_, ?_, ?_, ?_⟩
  · intro b inside
    rw [grown.grows.same (offHidden b inside)]
    exact mirrors.unused b inside
  · intro b inside
    obtain ⟨content, here, there⟩ := mirrors.held b inside
    exact ⟨content, grown.grows.keeps here, alsoGrown.grows.keeps there⟩
  · intro b inside
    rw [alsoGrown.grows.same fun onWay => offTargets b inside (onlyHere _ onWay)]
    exact mirrors.open_ b inside
  · intro b inside
    obtain ⟨here, there⟩ := mirrors.reaches b inside
    exact ⟨here.mono grown.workingDirectory fun _ stands => grown.grows.keeps stands,
      there.mono alsoGrown.workingDirectory fun _ stands => alsoGrown.grows.keeps stands⟩
  · intro place elsewhere
    by_cases onWay : direct.OnWay parent place
    · exact left.same place (onWay.congr grown.workingDirectory.symm)
    · rw [alsoGrown.grows.same (mt (onlyHere place) onWay), grown.grows.same onWay]
      exact mirrors.others place elsewhere

-- The directories for one more artifact are made on both disks, since they are on the way of none that
-- waits: on the one disk a file stands there, on the other one nobody goes through a hidden place.
theorem Mirrors.enlarge (member : a ∈ artifacts) (isParent : parent.IsParent (base.join a.path))
    (made : direct.makeDirectoriesFor parent = (.ok (), after)) :
    ∃ also, staged.makeDirectoriesFor parent = (.ok (), also) ∧
      Mirrors disk base artifacts waiting after also := by
  have offHidden := mirrors.off_hidden stageable member isParent
  have offTargets := mirrors.off_targets made
  obtain ⟨result, left⟩ := (mirrors.sameOnWay offHidden offTargets).makeDirectoriesFor
  have grown := makeDirectoriesFor_enlarges mirrors.linkFree parent
  have alsoGrown := makeDirectoriesFor_enlarges mirrors.stagedFree parent
  have root : (staged.makeDirectoriesFor parent).2.tree.entries.lookup [] =
      (direct.makeDirectoriesFor parent).2.tree.entries.lookup [] :=
    (makeDirectoriesFor_root staged parent).trans
      (mirrors.root.trans (makeDirectoriesFor_root direct parent).symm)
  rw [made] at result left grown root
  exact ⟨(staged.makeDirectoriesFor parent).2, Prod.ext result rfl,
    mirrors.grow offHidden offTargets grown alsoGrown left root⟩

-- The text of one more artifact stands at its target here and at its hidden place there.
theorem Mirrors.put (member : a ∈ artifacts)
    (open_ : direct.tree.node? (disk.targetPlace base a) ≠ some .directory)
    (reaches : direct.Reaches (base.join a.path))
    (hiddenReaches : staged.Reaches (stagingPath (base.join a.path))) :
    Mirrors disk base artifacts (waiting ++ [a])
      (direct.withTree (direct.tree.put (disk.targetPlace base a) (.file (.text a.content))))
      (staged.withTree (staged.tree.put (disk.stagingPlace base a) (.file (.text a.content)))) := by
  obtain ⟨somewhere, hiddenSomewhere⟩ := stageable.somewhere member
  have hiddenOpen := mirrors.staging_open stageable member
  have each : ∀ b ∈ waiting ++ [a], b ∈ artifacts := by
    intro b inside
    rcases List.mem_append.mp inside with earlier | here
    · exact mirrors.among b earlier
    · exact List.mem_singleton.mp here ▸ member
  refine ⟨each, mirrors.workingDirectory, mirrors.stagedDirectory, mirrors.linkFree.put somewhere _,
    mirrors.stagedFree.put hiddenSomewhere _, ?_, ?_, ?_, ?_, ?_, ?_⟩
  · rw [withTree_tree, withTree_tree, Tree.lookup_root_put, Tree.lookup_root_put]
    exact mirrors.root
  · intro b inside
    rw [withTree_tree, Tree.node?_put _ somewhere, if_neg (stageable.hidden member inside).symm]
    exact mirrors.unused b inside
  · intro b inside
    have other := each b inside
    simp only [withTree_tree, Tree.node?_put _ somewhere, Tree.node?_put _ hiddenSomewhere,
      stageable.target_eq_iff other member, stageable.staging_eq_iff other member]
    by_cases same : b.path.components = a.path.components
    · exact ⟨.text a.content, by simp [same]⟩
    · rcases List.mem_append.mp inside with earlier | here
      · simpa [same] using mirrors.held b earlier
      · exact absurd (by rw [List.mem_singleton.mp here]) same
  · intro b inside
    rw [withTree_tree, Tree.node?_put _ hiddenSomewhere, if_neg (stageable.hidden (each b inside) member)]
    rcases List.mem_append.mp inside with earlier | here
    · exact mirrors.open_ b earlier
    · exact List.mem_singleton.mp here ▸ mirrors.target_open stageable member open_
  · intro b inside
    rcases List.mem_append.mp inside with earlier | here
    · obtain ⟨first, second⟩ := mirrors.reaches b earlier
      exact ⟨first.mono rfl fun _ stands => Tree.put_keeps somewhere open_ _ stands,
        second.mono rfl fun _ stands => Tree.put_keeps hiddenSomewhere hiddenOpen _ stands⟩
    · obtain rfl : b = a := List.mem_singleton.mp here
      exact ⟨reaches.mono rfl fun _ stands => Tree.put_keeps somewhere open_ _ stands,
        hiddenReaches.mono rfl fun _ stands => Tree.put_keeps hiddenSomewhere hiddenOpen _ stands⟩
  · intro place elsewhere
    obtain ⟨off, offHidden⟩ := elsewhere a (by simp)
    rw [withTree_tree, withTree_tree, Tree.node?_put _ somewhere, Tree.node?_put _ hiddenSomewhere,
      if_neg off, if_neg offHidden]
    exact mirrors.others place fun b inside => elsewhere b (List.mem_append_left _ inside)

-- One more artifact is written, here to its target and there under its hidden name.
theorem Mirrors.write (member : a ∈ artifacts) (lands : Lands base a front last)
    (beside : stagingPath (base.join a.path) = parent.join ⟨stagingName last⟩)
    (leads : staged.tree.Leads (staged.start parent) parent.steps)
    (written : direct.writeFile (base.join a.path) (.text a.content) = .ok after) :
    staged.isDirectory (base.join a.path) = false ∧
      ∃ also, staged.writeFile (stagingPath (base.join a.path)) (.text a.content) = .ok also ∧
        Mirrors disk base artifacts (waiting ++ [a]) after also := by
  obtain ⟨reaches, open_, rfl⟩ := writeFile_ok mirrors.linkFree written
  have targetHere : direct.placeOf (base.join a.path) = disk.targetPlace base a :=
    placeOf_congr mirrors.workingDirectory _
  have targetThere : staged.placeOf (base.join a.path) = disk.targetPlace base a :=
    placeOf_congr mirrors.stagedDirectory _
  have hiddenThere : staged.placeOf (stagingPath (base.join a.path)) = disk.stagingPlace base a :=
    placeOf_congr mirrors.stagedDirectory _
  rw [targetHere] at open_ ⊢
  have isName := isName_stagingName lands.isName
  have order : (base.join a.path).steps = (base.steps ++ front) ++ [last] := by
    rw [lands.steps, List.append_assoc]
  have allowed := stageable.allows member lands reaches beside
  have hiddenReaches : staged.Reaches (stagingPath (base.join a.path)) :=
    beside ▸ reaches_inside leads isName allowed
  have hiddenPlace : staged.placeOf parent ++ [stagingName last] = disk.stagingPlace base a := by
    rw [← placeOf_join staged parent isName, ← beside, hiddenThere]
  have unhindered : staged.hindrance? parent (stagingName last) = none := by
    rw [hindrance?, allowed, hiddenPlace, if_neg (mirrors.staging_open stageable member)]
    rfl
  have hiddenWritten : staged.writeFile (stagingPath (base.join a.path)) (.text a.content) =
      .ok (staged.withTree (staged.tree.put (disk.stagingPlace base a) (.file (.text a.content)))) := by
    rw [beside, writeFile_inside mirrors.stagedFree leads isName, unhindered, hiddenPlace]
  refine ⟨Bool.eq_false_iff.mpr fun found => ?_, _, hiddenWritten,
    mirrors.put stageable member open_ reaches hiddenReaches⟩
  have all := isDirectory_leads mirrors.stagedFree found
  rw [order, Tree.leads_concat lands.isName.down, ← placeOf_concat order lands.isName.down,
    targetThere] at all
  exact mirrors.target_open stageable member open_ all.2.2

theorem Mirrors.stage (member : a ∈ artifacts)
    (performed : direct.perform (.file (base.join a.path) a.content) = (.ok (), after)) :
    ∃ also, staged.stage (base.join a.path) a.content = (.ok (), also) ∧
      Mirrors disk base artifacts (waiting ++ [a]) after also := by
  obtain ⟨front, last, lands⟩ := stageable.lands a member
  obtain ⟨parent, up, isParent, beside⟩ := Path.withFileName_parts lands.fileName (stagingName last)
  rw [← stagingPath_eq lands.fileName] at beside
  obtain ⟨made, parents, written⟩ := perform_file_ok performed
  have making : direct.makeDirectoriesFor parent = (.ok (), made) := by
    rwa [makeParentFor, up] at parents
  obtain ⟨reached, alsoMaking, further⟩ := mirrors.enlarge stageable member isParent making
  have leads := makeDirectoriesFor_leads mirrors.stagedFree alsoMaking
  obtain ⟨free, also, alsoWritten, wrote⟩ :=
    further.write stageable member lands beside leads written
  refine ⟨also, ?_, wrote⟩
  unfold Disk.stage
  simp [makeParentFor, up, alsoMaking, free, alsoWritten]

-- Over the artifacts in order, each step of the one run has its step in the other.
theorem Mirrors.stageAll (each : ∀ b ∈ rest, b ∈ artifacts)
    (performed : direct.performAll (fileSteps base rest) = (.ok (), after)) (behind : List Path) :
    ∃ also, staged.stageAll base behind rest = (.ok (), also) ∧
      Mirrors disk base artifacts (waiting ++ rest) after also := by
  induction rest generalizing direct staged waiting behind with
  | nil =>
    cases performed
    exact ⟨staged, rfl, by rwa [List.append_nil]⟩
  | cons a rest ih =>
    have split : fileSteps base (a :: rest) =
        .file (base.join a.path) a.content :: fileSteps base rest := rfl
    rw [split, performAll] at performed
    cases first : direct.perform (.file (base.join a.path) a.content) with
    | mk result made =>
      rw [first] at performed
      cases result with
      | error problem => cases performed
      | ok done =>
        obtain ⟨reached, staging, further⟩ := mirrors.stage stageable (each a List.mem_cons_self) first
        obtain ⟨also, others, last⟩ := ih further (fun b inside => each b (List.mem_cons_of_mem _ inside))
          performed (behind ++ [base.join a.path])
        refine ⟨also, ?_, by rwa [List.append_cons]⟩
        simp only [Disk.stageAll, staging]
        exact others

end Staging

section Moving

variable (stageable : disk.Stageable base artifacts)
include stageable

omit stageable in
theorem Mirrors.further (mirrors : Mirrors disk base artifacts (a :: rest) direct staged) :
    ∀ b ∈ rest, b ∈ artifacts :=
  fun b inside => mirrors.among b (List.mem_cons_of_mem _ inside)

-- Nothing is in the way of the first one that waits.
theorem Mirrors.renames (mirrors : Mirrors disk base artifacts (a :: rest) direct staged)
    {content : Content} (there : staged.tree.node? (disk.stagingPlace base a) = some (.file content)) :
    staged.renameFile (stagingPath (base.join a.path)) (base.join a.path) = .ok (staged.withTree
      ((staged.tree.drop (disk.stagingPlace base a)).put (disk.targetPlace base a) (.file content))) := by
  have member : a ∈ artifacts := mirrors.among a List.mem_cons_self
  obtain ⟨front, last, lands⟩ := stageable.lands a member
  obtain ⟨reaches, hiddenReaches⟩ := mirrors.reaches a List.mem_cons_self
  exact renameFile_staged mirrors.stagedFree mirrors.stagedDirectory lands.toIsTarget
    ⟨reaches.admissible.short, reaches.plain⟩ hiddenReaches there (mirrors.open_ a List.mem_cons_self)
    (stageable.hidden member member)

-- What stands at the places of the others is not touched when the first one moves.
theorem Mirrors.arrive (mirrors : Mirrors disk base artifacts (a :: rest) direct staged)
    (once : a.path.components ∉ rest.map fun artifact => artifact.path.components) {content : Content}
    (here : direct.tree.node? (disk.targetPlace base a) = some (.file content))
    (there : staged.tree.node? (disk.stagingPlace base a) = some (.file content)) :
    Mirrors disk base artifacts rest direct (staged.withTree
      ((staged.tree.drop (disk.stagingPlace base a)).put (disk.targetPlace base a) (.file content))) := by
  have member : a ∈ artifacts := mirrors.among a List.mem_cons_self
  have each := mirrors.further
  have differs : ∀ b ∈ rest, b.path.components ≠ a.path.components :=
    fun b inside same => once (same ▸ List.mem_map_of_mem inside)
  obtain ⟨somewhere, hiddenSomewhere⟩ := stageable.somewhere member
  have node := Tree.node?_move staged.tree hiddenSomewhere somewhere (.file content)
  have file : staged.tree.node? (disk.stagingPlace base a) ≠ some .directory := by simp [there]
  refine ⟨each, mirrors.workingDirectory, mirrors.stagedDirectory, mirrors.linkFree,
    (mirrors.stagedFree.drop hiddenSomewhere).put somewhere _, ?_, mirrors.unused, ?_, ?_, ?_, ?_⟩
  · rw [withTree_tree, Tree.lookup_root_put, Tree.lookup_drop, if_neg (Ne.symm hiddenSomewhere)]
    exact mirrors.root
  · intro b inside
    have off : disk.stagingPlace base b ≠ disk.stagingPlace base a := fun same =>
      differs b inside ((stageable.staging_eq_iff (each b inside) member).mp same)
    rw [withTree_tree, node, if_neg (stageable.hidden member (each b inside)).symm, if_neg off]
    exact mirrors.held b (List.mem_cons_of_mem _ inside)
  · intro b inside
    have off : disk.targetPlace base b ≠ disk.targetPlace base a := fun same =>
      differs b inside ((stageable.target_eq_iff (each b inside) member).mp same)
    rw [withTree_tree, node, if_neg off, if_neg (stageable.hidden (each b inside) member)]
    exact mirrors.open_ b (List.mem_cons_of_mem _ inside)
  · intro b inside
    obtain ⟨first, second⟩ := mirrors.reaches b (List.mem_cons_of_mem _ inside)
    exact ⟨first, second.mono rfl fun _ stands =>
      Tree.move_keeps hiddenSomewhere somewhere file (mirrors.open_ a List.mem_cons_self) _ stands⟩
  · intro place elsewhere
    rw [withTree_tree, node]
    by_cases arrived : place = disk.targetPlace base a
    · rw [if_pos arrived, arrived, here]
    · by_cases left : place = disk.stagingPlace base a
      · rw [if_neg arrived, if_pos left, left, mirrors.unused a member]
      · rw [if_neg arrived, if_neg left]
        exact mirrors.others place (List.forall_mem_cons.mpr ⟨⟨arrived, left⟩, elsewhere⟩)

-- The first one that waits moves to its target, unless its path comes again.
theorem Mirrors.rename (mirrors : Mirrors disk base artifacts (a :: rest) direct staged)
    (once : a.path.components ∉ rest.map fun artifact => artifact.path.components) :
    ∃ also, staged.renameFile (stagingPath (base.join a.path)) (base.join a.path) = .ok also ∧
      Mirrors disk base artifacts rest direct also := by
  obtain ⟨content, here, there⟩ := mirrors.held a List.mem_cons_self
  exact ⟨_, mirrors.renames stageable there, mirrors.arrive stageable once here there⟩

omit stageable in
theorem Mirrors.same (mirrors : Mirrors disk base artifacts [] direct staged) : staged = direct := by
  refine ext_tree (mirrors.stagedDirectory.trans mirrors.workingDirectory.symm) fun place => ?_
  by_cases root : place = []
  · rw [root]
    exact mirrors.root
  · rw [← Tree.node?_eq_lookup _ root, ← Tree.node?_eq_lookup _ root]
    exact mirrors.others place (List.forall_mem_nil _)

-- When all have moved, nothing is left by which the disks differ.
theorem Mirrors.moveAll (mirrors : Mirrors disk base artifacts waiting direct staged)
    (once : (waiting.map fun artifact => artifact.path.components).Nodup) :
    staged.moveAll (targets base waiting) = (.ok (), direct) := by
  induction waiting generalizing staged with
  | nil =>
    rw [← mirrors.same]
    rfl
  | cons a rest ih =>
    obtain ⟨alone, others⟩ := List.nodup_cons.mp once
    obtain ⟨also, renamed, further⟩ := mirrors.rename stageable alone
    have split : targets base (a :: rest) = base.join a.path :: targets base rest := rfl
    rw [split, Disk.moveAll, renamed]
    exact ih further others

end Moving

end Disk
end SpringSkeleton
