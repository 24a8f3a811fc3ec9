import SpringSkeleton.Proofs.Tree.Overlay
import SpringSkeleton.Proofs.Tree.Target

namespace SpringSkeleton

-- No entry has a name that is kept for staged files.
def Tree.Visible (tree : Tree) : Prop :=
  ∀ place name, tree.node? (place ++ [name]) ≠ none → Text.endsWith ".scaffold-tmp" name = false

-- Neither path is the other one or leads through it.
def Artifact.Apart (a b : Artifact) : Prop :=
  ¬ a.path.components <+: b.path.components ∧ ¬ b.path.components <+: a.path.components

instance (a b : Artifact) : Decidable (a.Apart b) := inferInstanceAs (Decidable (_ ∧ _))

theorem Artifact.Apart.symm {a b : Artifact} (apart : a.Apart b) : b.Apart a := ⟨apart.2, apart.1⟩

-- Artifacts that can stand below one directory together, none under a name that staging files have.
structure Artifact.Separate (artifacts : List Artifact) : Prop where
  downward : ∀ artifact ∈ artifacts, ∃ names, names ≠ [] ∧ artifact.path.components = names.map .name
  apart : artifacts.Pairwise Artifact.Apart
  visible : ∀ artifact ∈ artifacts, ∀ name, .name name ∈ artifact.path.components →
    Text.endsWith ".scaffold-tmp" name = false

namespace Disk

def targetPlace (disk : Disk) (base : Path) (artifact : Artifact) : Location :=
  disk.placeOf (base.join artifact.path)

def stagingPlace (disk : Disk) (base : Path) (artifact : Artifact) : Location :=
  disk.placeOf (stagingPath (base.join artifact.path))

def targetFiles (disk : Disk) (base : Path) (artifacts : List Artifact) : Tree.Files :=
  artifacts.map fun artifact => (disk.targetPlace base artifact, .text artifact.content)

def stagingFiles (disk : Disk) (base : Path) (artifacts : List Artifact) : Tree.Files :=
  artifacts.map fun artifact => (disk.stagingPlace base artifact, .text artifact.content)

-- Where directories may be missing that the artifacts need.
def NewFor (disk : Disk) (base : Path) (artifacts : List Artifact) (place : Location) : Prop :=
  ∃ artifact ∈ artifacts, ∃ parent : Path,
    parent.IsParent (base.join artifact.path) ∧ disk.OnWay parent place

-- A staging place counts as free only when nothing stands there, even if no path leads there yet.
structure Ready (disk : Disk) (base : Path) (artifacts : List Artifact) : Prop where
  linkFree : disk.tree.LinkFree
  separate : Artifact.Separate artifacts
  free : ∀ artifact ∈ artifacts, disk.tree.node? (disk.stagingPlace base artifact) = none

-- What is true of the disk between two steps: some artifacts stand at their targets, others wait.
structure Progress (fresh : Location → Prop) (disk now : Disk) (base : Path)
    (moved staged : List Artifact) : Prop where
  workingDirectory : now.workingDirectory = disk.workingDirectory
  overlays : Tree.Overlays fresh (disk.targetFiles base moved ++ disk.stagingFiles base staged)
    disk.tree now.tree
  replaced : ∀ artifact ∈ moved, disk.tree.node? (disk.targetPlace base artifact) ≠ some .directory
  reaches : ∀ artifact ∈ staged, now.Reaches (stagingPath (base.join artifact.path))
  open_ : ∀ artifact ∈ staged, (base.join artifact.path).NamesFile →
    now.tree.node? (disk.targetPlace base artifact) ≠ some .directory

variable {fresh : Location → Prop} {disk now after : Disk} {base : Path}
variable {a b artifact : Artifact} {artifacts moved staged rest : List Artifact}

theorem Ready.sublist (ready : disk.Ready base artifacts) (some_ : rest.Sublist artifacts) :
    disk.Ready base rest := by
  have member : ∀ artifact ∈ rest, artifact ∈ artifacts := fun _ inside => some_.subset inside
  exact ⟨ready.linkFree,
    ⟨fun artifact inside => ready.separate.downward artifact (member artifact inside),
      ready.separate.apart.sublist some_,
      fun artifact inside => ready.separate.visible artifact (member artifact inside)⟩,
    fun artifact inside => ready.free artifact (member artifact inside)⟩

theorem Ready.parts (ready : disk.Ready base artifacts) (member : artifact ∈ artifacts) :
    ∃ front last, IsTarget base artifact.path front last ∧
      artifact.path.components = (front ++ [last]).map .name ∧
      Text.endsWith ".scaffold-tmp" last = false := by
  obtain ⟨names, somewhere, components⟩ := ready.separate.downward artifact member
  obtain ⟨downward, steps⟩ := Path.downward_of_components somewhere components
  obtain ⟨front, last, target⟩ := target_parts base downward (steps ▸ somewhere)
  have order : names = front ++ [last] := steps ▸ target.order
  have inside : .name last ∈ artifact.path.components := by
    rw [components, order]
    simp
  exact ⟨front, last, target, order ▸ components, ready.separate.visible artifact member last inside⟩

theorem Ready.around (ready : disk.Ready base (moved ++ a :: staged)) (member : b ∈ moved ++ staged) :
    a.Apart b := by
  have around := (List.pairwise_middle Artifact.Apart.symm).mp ready.separate.apart
  exact (List.pairwise_cons.mp around).1 b member

theorem Ready.targets_differ (ready : disk.Ready base artifacts) (member : a ∈ artifacts)
    (other : b ∈ artifacts) (apart : a.Apart b) : disk.targetPlace base a ≠ disk.targetPlace base b := by
  obtain ⟨front, last, target, components, _⟩ := ready.parts member
  obtain ⟨back, ending, second, others, _⟩ := ready.parts other
  intro same
  have paths : a.path.components = b.path.components := by
    rw [components, others, (target.place_eq_iff second disk).mp same]
  exact apart.1 (paths ▸ List.prefix_rfl)

theorem Ready.stagings_differ (ready : disk.Ready base artifacts) (member : a ∈ artifacts)
    (other : b ∈ artifacts) (apart : a.Apart b) :
    disk.stagingPlace base a ≠ disk.stagingPlace base b := by
  obtain ⟨front, last, target, components, _⟩ := ready.parts member
  obtain ⟨back, ending, second, others, _⟩ := ready.parts other
  intro same
  have paths : a.path.components = b.path.components := by
    rw [components, others, (target.stagingPlace_eq_iff second disk).mp same]
  exact apart.1 (paths ▸ List.prefix_rfl)

theorem Ready.hidden (ready : disk.Ready base artifacts) (member : a ∈ artifacts)
    (other : b ∈ artifacts) : disk.targetPlace base a ≠ disk.stagingPlace base b := by
  obtain ⟨front, last, target, _, visible⟩ := ready.parts member
  obtain ⟨back, ending, second, _⟩ := ready.parts other
  exact target.hidden second visible disk

theorem Ready.somewhere (ready : disk.Ready base artifacts) (member : a ∈ artifacts) :
    disk.targetPlace base a ≠ [] ∧ disk.stagingPlace base a ≠ [] := by
  obtain ⟨front, last, target, _⟩ := ready.parts member
  rw [targetPlace, stagingPlace, target.place, target.stagingPlace]
  simp

-- The places of an artifact are not among those that others hold.
theorem Ready.target_missed (ready : disk.Ready base artifacts) (member : a ∈ artifacts)
    (targets : ∀ b ∈ moved, b ∈ artifacts ∧ a.Apart b) (hidden : ∀ b ∈ staged, b ∈ artifacts) :
    Tree.Misses (disk.targetFiles base moved ++ disk.stagingFiles base staged)
      (disk.targetPlace base a) := by
  intro content listed
  rcases List.mem_append.mp listed with target | waiting
  · obtain ⟨b, inside, same⟩ := List.mem_map.mp target
    obtain ⟨other, apart⟩ := targets b inside
    exact ready.targets_differ member other apart (Prod.mk.inj same).1.symm
  · obtain ⟨b, inside, same⟩ := List.mem_map.mp waiting
    exact ready.hidden member (hidden b inside) (Prod.mk.inj same).1.symm

theorem Ready.staging_missed (ready : disk.Ready base artifacts) (member : a ∈ artifacts)
    (targets : ∀ b ∈ moved, b ∈ artifacts) (hidden : ∀ b ∈ staged, b ∈ artifacts ∧ a.Apart b) :
    Tree.Misses (disk.targetFiles base moved ++ disk.stagingFiles base staged)
      (disk.stagingPlace base a) := by
  intro content listed
  rcases List.mem_append.mp listed with target | waiting
  · obtain ⟨b, inside, same⟩ := List.mem_map.mp target
    exact ready.hidden (targets b inside) member (Prod.mk.inj same).1
  · obtain ⟨b, inside, same⟩ := List.mem_map.mp waiting
    obtain ⟨other, apart⟩ := hidden b inside
    exact ready.stagings_differ member other apart (Prod.mk.inj same).1.symm

theorem Progress.linkFree (ready : disk.Ready base artifacts)
    (progress : Progress fresh disk now base moved staged) : now.tree.LinkFree :=
  progress.overlays.linkFree ready.linkFree

-- Nothing new on the way of a path that leads into directories already.
theorem stands_onWay {path : Path} (leads : disk.tree.Leads (disk.start path) path.steps)
    {place : Location} (onWay : disk.OnWay path place) : disk.tree.node? place = some .directory := by
  obtain ⟨front, name, initial, down, rfl⟩ := onWay
  exact ((Tree.leads_concat down).mp (leads.initial initial)).2.2

-- A target that could be written does not become a directory when others get their directories:
-- what leads to its staged file stands, and no other target leads through it.
theorem Progress.grow (ready : disk.Ready base (staged ++ [a]))
    (progress : Progress fresh disk now base [] staged)
    (new : ∀ place, disk.NewFor base [a] place → fresh place)
    (grown : Enlarges (fun place => ∃ parent : Path,
      parent.IsParent (base.join a.path) ∧ now.OnWay parent place) now after) :
    Progress fresh disk after base [] staged := by
  have grows : now.tree.Grows fresh after.tree := by
    refine grown.grows.weaken fun place ⟨parent, isParent, onWay⟩ => ?_
    exact new place ⟨a, List.mem_singleton.mpr rfl, parent, isParent,
      onWay.congr progress.workingDirectory⟩
  refine ⟨grown.workingDirectory.trans progress.workingDirectory, progress.overlays.grow grows,
    progress.replaced, ?_, ?_⟩
  · intro b member
    exact (progress.reaches b member).mono grown.workingDirectory fun _ stands => grows.keeps stands
  · intro b member names made
    have other : b ∈ staged ++ [a] := List.mem_append_left _ member
    obtain ⟨front, last, target, components, _⟩ := ready.parts other
    obtain ⟨back, ending, second, others, _⟩ := ready.parts (List.mem_append_right _ List.mem_cons_self)
    have apart : a.Apart b := ready.around (by simpa using member)
    rcases grown.grows (disk.targetPlace base b) with same | ⟨none, _, parent, isParent, onWay⟩
    · exact progress.open_ b member names (same ▸ made)
    · have steps : parent.steps = base.steps ++ back := by
        rw [isParent.steps, second.steps, ← List.append_assoc, List.dropLast_concat]
      have absolute : parent.isAbsolute = base.isAbsolute :=
        isParent.isAbsolute.trans second.isAbsolute
      have below : ".." ∉ back := fun up => second.down (List.mem_append_left _ up)
      rcases onWay_below absolute steps below onWay with outside | ⟨inner, _, initial, place⟩
      · have order : (stagingPath (base.join b.path)).steps =
            (base.steps ++ front) ++ [stagingName last] := by
          rw [target.stagingSteps, List.append_assoc]
        have leads := ((reaches_iff order).mp (progress.reaches b member)).2.2.1
        rw [target.stagingStart] at leads
        have stands := stands_onWay (leads.initial (List.prefix_append _ _)) outside
        rw [none] at stands
        cases stands
      · rw [targetPlace, target.place, placeOf_congr progress.workingDirectory] at place
        have inside : front ++ [last] <+: back ++ [ending] :=
          (List.append_cancel_left place) ▸ initial.trans (List.prefix_append _ _)
        apply apart.2
        rw [components, others]
        exact inside.map _

-- The next artifact is written under its hidden name.
theorem Progress.stage (ready : disk.Ready base (staged ++ [a]))
    (progress : Progress fresh disk now base [] staged)
    (reaches : now.Reaches (stagingPath (base.join a.path)))
    (unused : now.tree.node? (now.placeOf (stagingPath (base.join a.path))) ≠ some .directory)
    (free : now.isDirectory (base.join a.path) = false) :
    Progress fresh disk (now.withTree (now.tree.put (now.placeOf (stagingPath (base.join a.path)))
      (.file (.text a.content)))) base [] (staged ++ [a]) := by
  have member : a ∈ staged ++ [a] := List.mem_append_right _ List.mem_cons_self
  have somewhere : disk.stagingPlace base a ≠ [] := (ready.somewhere member).2
  have linkFree : now.tree.LinkFree := progress.linkFree ready
  rw [show now.placeOf (stagingPath (base.join a.path)) = disk.stagingPlace base a from
    placeOf_congr progress.workingDirectory _] at unused ⊢
  have missed : Tree.Misses (disk.targetFiles base [] ++ disk.stagingFiles base staged)
      (disk.stagingPlace base a) := by
    refine ready.staging_missed member (List.forall_mem_nil _) ?_
    intro b inside
    exact ⟨List.mem_append_left _ inside, ready.around (by simpa using inside)⟩
  have kept : ∀ place, now.tree.node? place = some .directory →
      (now.tree.put (disk.stagingPlace base a) (.file (.text a.content))).node? place =
        some .directory := fun _ stands => Tree.put_keeps somewhere unused _ stands
  refine ⟨progress.workingDirectory, ?_, progress.replaced, ?_, ?_⟩
  · refine (progress.overlays.put somewhere missed _).congr fun file => ?_
    simp [targetFiles, stagingFiles, or_comm, eq_comm]
  · intro b inside
    rcases List.mem_append.mp inside with earlier | last
    · exact (progress.reaches b earlier).mono rfl kept
    · rw [List.mem_singleton.mp last]
      exact reaches.mono rfl kept
  · intro b inside names
    rw [withTree_tree, Tree.node?_put _ somewhere, if_neg (ready.hidden inside member)]
    rcases List.mem_append.mp inside with earlier | last
    · exact progress.open_ b earlier names
    · rw [List.mem_singleton.mp last] at names ⊢
      obtain ⟨front, ending, target, _⟩ := ready.parts member
      intro made
      have found := (target.reaches reaches names).isDirectory linkFree
        (by rw [placeOf_congr progress.workingDirectory]; exact made)
      rw [free] at found
      cases found

theorem stage_progress (ready : disk.Ready base (staged ++ [a]))
    (progress : Progress fresh disk now base [] staged)
    (new : ∀ place, disk.NewFor base [a] place → fresh place) :
    match now.stage (base.join a.path) a.content with
    | (.ok (), after) => Progress fresh disk after base [] (staged ++ [a])
    | (.error _, after) => Progress fresh disk after base [] staged := by
  have grown := makeParentFor_enlarges (progress.linkFree ready) (base.join a.path)
  have further := progress.grow ready new grown
  unfold Disk.stage
  cases made : now.makeParentFor (base.join a.path) with
  | mk result reached =>
    rw [made] at further
    cases result with
    | error problem => exact further
    | ok done =>
      cases free : reached.isDirectory (base.join a.path) with
      | true => simpa [free] using further
      | false =>
        cases written : reached.writeFile (stagingPath (base.join a.path)) (.text a.content) with
        | error cause => simpa [free, written] using further
        | ok last =>
          obtain ⟨reaches, unused, rfl⟩ := writeFile_ok (further.linkFree ready) written
          simpa [free, written] using further.stage ready reaches unused free

theorem Progress.stands (progress : Progress fresh disk now base moved (a :: staged)) :
    now.tree.node? (disk.stagingPlace base a) = some (.file (.text a.content)) :=
  progress.overlays.held _ _ (by simp [stagingFiles])

-- Without its first staged file, the disk is as if that artifact had not come up yet.
theorem Progress.without (ready : disk.Ready base (moved ++ a :: staged))
    (progress : Progress fresh disk now base moved (a :: staged)) :
    Progress fresh disk (now.withTree (now.tree.drop (disk.stagingPlace base a))) base moved staged := by
  have member : a ∈ moved ++ a :: staged := List.mem_append_right _ List.mem_cons_self
  have somewhere : disk.stagingPlace base a ≠ [] := (ready.somewhere member).2
  have file : now.tree.node? (disk.stagingPlace base a) ≠ some .directory := by
    rw [progress.stands]
    simp
  have missed : Tree.Misses (disk.targetFiles base moved ++ disk.stagingFiles base staged)
      (disk.stagingPlace base a) := by
    refine ready.staging_missed member (fun b inside => List.mem_append_left _ inside) ?_
    intro b inside
    exact ⟨List.mem_append_right _ (List.mem_cons_of_mem _ inside),
      ready.around (List.mem_append_right _ inside)⟩
  have first : Tree.Overlays fresh ((disk.stagingPlace base a, .text a.content) ::
      (disk.targetFiles base moved ++ disk.stagingFiles base staged)) disk.tree now.tree :=
    progress.overlays.congr fun file => by simp [stagingFiles, or_left_comm]
  refine ⟨progress.workingDirectory, first.drop somewhere missed (ready.free a member),
    progress.replaced, ?_, ?_⟩
  · intro b inside
    exact (progress.reaches b (List.mem_cons_of_mem _ inside)).mono rfl fun _ stands =>
      Tree.drop_keeps somewhere file stands
  · intro b inside names
    have other : b ∈ moved ++ a :: staged := List.mem_append_right _ (List.mem_cons_of_mem _ inside)
    rw [withTree_tree, Tree.node?_drop _ somewhere, if_neg (ready.hidden other member)]
    exact progress.open_ b (List.mem_cons_of_mem _ inside) names

-- A staged file that is not needed can be removed.
theorem Progress.remove (ready : disk.Ready base (moved ++ a :: staged))
    (progress : Progress fresh disk now base moved (a :: staged)) :
    now.removeFile (stagingPath (base.join a.path)) =
      .ok (now.withTree (now.tree.drop (disk.stagingPlace base a))) := by
  have place : now.placeOf (stagingPath (base.join a.path)) = disk.stagingPlace base a :=
    placeOf_congr progress.workingDirectory _
  have removed := removeFile_ok (progress.linkFree ready) (progress.reaches a List.mem_cons_self)
    (place ▸ progress.stands)
  rwa [place] at removed

-- Every removal succeeds, one after the other.
theorem discard_progress (ready : disk.Ready base (moved ++ staged))
    (progress : Progress fresh disk now base moved staged) :
    Progress fresh disk (now.discard (targets base staged)) base moved [] := by
  induction staged generalizing now with
  | nil => exact progress
  | cons a staged ih =>
    have removed := progress.remove ready
    have further := progress.without ready
    have fewer : disk.Ready base (moved ++ staged) :=
      ready.sublist (List.Sublist.append_left (List.sublist_cons_self a staged) moved)
    have split : targets base (a :: staged) = base.join a.path :: targets base staged := rfl
    rw [split, discard, removed]
    exact ih fewer further

-- Over the artifacts in order: all are staged, or a failure leaves none of them.
theorem stageAll_progress (ready : disk.Ready base (staged ++ rest))
    (new : ∀ place, disk.NewFor base rest place → fresh place)
    (progress : Progress fresh disk now base [] staged) :
    match now.stageAll base (targets base staged) rest with
    | (.ok (), after) => Progress fresh disk after base [] (staged ++ rest)
    | (.error _, after) => Progress fresh disk after base [] [] := by
  induction rest generalizing now staged with
  | nil =>
    rw [stageAll, List.append_nil]
    exact progress
  | cons a rest ih =>
    have next : disk.Ready base ((staged ++ [a]) ++ rest) := by rwa [← List.append_cons]
    have first : disk.Ready base (staged ++ [a]) := next.sublist (List.sublist_append_left _ _)
    have here : ∀ place, disk.NewFor base [a] place → fresh place := by
      rintro place ⟨b, inside, found⟩
      exact new place ⟨b, List.mem_cons.mpr (.inl (List.mem_singleton.mp inside)), found⟩
    have there : ∀ place, disk.NewFor base rest place → fresh place := by
      rintro place ⟨b, inside, found⟩
      exact new place ⟨b, List.mem_cons_of_mem _ inside, found⟩
    have step := stage_progress first progress here
    cases staging : now.stage (base.join a.path) a.content with
    | mk result reached =>
      rw [staging] at step
      cases result with
      | error problem =>
        have alone : disk.Ready base ([] ++ staged) := first.sublist (List.sublist_append_left _ _)
        simp only [stageAll, staging]
        exact discard_progress alone step
      | ok done =>
        have further := ih next there step
        have split : targets base (staged ++ [a]) = targets base staged ++ [base.join a.path] := by
          simp [targets]
        rw [split, ← List.append_cons] at further
        simpa only [stageAll, staging] using further

-- A file moves from under its hidden name, on a disk with the places of another one.
theorem renameFile_staged (linkFree : now.tree.LinkFree)
    (same : now.workingDirectory = disk.workingDirectory) {front : List String} {last : String}
    (target : IsTarget base a.path front last) (names : (base.join a.path).NamesFile)
    (reaches : now.Reaches (stagingPath (base.join a.path))) {content : Content}
    (stands : now.tree.node? (disk.stagingPlace base a) = some (.file content))
    (open_ : now.tree.node? (disk.targetPlace base a) ≠ some .directory)
    (apart : disk.targetPlace base a ≠ disk.stagingPlace base a) :
    now.renameFile (stagingPath (base.join a.path)) (base.join a.path) =
      .ok (now.withTree ((now.tree.drop (disk.stagingPlace base a)).put (disk.targetPlace base a)
        (.file content))) := by
  have hidden : now.placeOf (stagingPath (base.join a.path)) = disk.stagingPlace base a :=
    placeOf_congr same _
  have place : now.placeOf (base.join a.path) = disk.targetPlace base a := placeOf_congr same _
  have renamed := renameFile_ok linkFree reaches (target.reaches reaches names) (hidden ▸ stands)
    (place ▸ open_) (by rw [hidden, place]; exact apart.symm)
  rwa [hidden, place] at renamed

-- A staged file moves to its target, if that can name a file.
theorem Progress.rename (ready : disk.Ready base (moved ++ a :: staged))
    (progress : Progress fresh disk now base moved (a :: staged))
    (names : (base.join a.path).NamesFile) :
    now.renameFile (stagingPath (base.join a.path)) (base.join a.path) =
      .ok (now.withTree ((now.tree.drop (disk.stagingPlace base a)).put (disk.targetPlace base a)
        (.file (.text a.content)))) := by
  have member : a ∈ moved ++ a :: staged := List.mem_append_right _ List.mem_cons_self
  obtain ⟨front, last, target, _⟩ := ready.parts member
  exact renameFile_staged (progress.linkFree ready) progress.workingDirectory target names
    (progress.reaches a List.mem_cons_self) progress.stands
    (progress.open_ a List.mem_cons_self names) (ready.hidden member member)

theorem Progress.move (ready : disk.Ready base (moved ++ a :: staged))
    (progress : Progress fresh disk now base moved (a :: staged))
    (names : (base.join a.path).NamesFile) :
    Progress fresh disk (now.withTree ((now.tree.drop (disk.stagingPlace base a)).put
      (disk.targetPlace base a) (.file (.text a.content)))) base (moved ++ [a]) staged := by
  have member : a ∈ moved ++ a :: staged := List.mem_append_right _ List.mem_cons_self
  have somewhere := ready.somewhere member
  have without := progress.without ready
  have missed : Tree.Misses (disk.targetFiles base moved ++ disk.stagingFiles base staged)
      (disk.targetPlace base a) := by
    refine ready.target_missed member ?_ ?_
    · intro b inside
      exact ⟨List.mem_append_left _ inside, ready.around (List.mem_append_left _ inside)⟩
    · intro b inside
      exact List.mem_append_right _ (List.mem_cons_of_mem _ inside)
  have open_ : (now.tree.drop (disk.stagingPlace base a)).node? (disk.targetPlace base a) ≠
      some .directory := by
    rw [Tree.node?_drop _ somewhere.2, if_neg (ready.hidden member member)]
    exact progress.open_ a List.mem_cons_self names
  refine ⟨progress.workingDirectory, ?_, ?_, ?_, ?_⟩
  · refine (without.overlays.put somewhere.1 missed _).congr fun file => ?_
    simp [targetFiles, or_left_comm, eq_comm]
  · intro b inside
    rcases List.mem_append.mp inside with earlier | last
    · exact progress.replaced b earlier
    · rw [List.mem_singleton.mp last]
      intro stood
      rcases without.overlays.kept _ missed with same | ⟨none, _, _⟩
      · exact open_ (same.trans stood)
      · rw [stood] at none
        cases none
  · intro b inside
    exact (without.reaches b inside).mono rfl fun _ stands => Tree.put_keeps somewhere.1 open_ _ stands
  · intro b inside bNames
    have other : b ∈ moved ++ a :: staged := List.mem_append_right _ (List.mem_cons_of_mem _ inside)
    have apart : disk.targetPlace base b ≠ disk.targetPlace base a :=
      (ready.targets_differ member other (ready.around (List.mem_append_right _ inside))).symm
    rw [withTree_tree, Tree.node?_put _ somewhere.1, if_neg apart]
    exact without.open_ b inside bNames

-- Moving stops at the first target that cannot name a file.
theorem moveAll_progress (ready : disk.Ready base (moved ++ staged))
    (progress : Progress fresh disk now base moved staged) :
    match now.moveAll (targets base staged) with
    | (.ok (), after) => (∀ a ∈ staged, (base.join a.path).NamesFile) ∧
        Progress fresh disk after base (moved ++ staged) []
    | (.error _, after) => ∃ done stuck rest, staged = done ++ stuck :: rest ∧
        (∀ a ∈ done, (base.join a.path).NamesFile) ∧ ¬ (base.join stuck.path).NamesFile ∧
          Progress fresh disk after base (moved ++ done) [] := by
  induction staged generalizing now moved with
  | nil =>
    rw [targets, List.map_nil, moveAll, List.append_nil]
    exact ⟨List.forall_mem_nil _, progress⟩
  | cons a staged ih =>
    have split : targets base (a :: staged) = base.join a.path :: targets base staged := rfl
    have next : disk.Ready base ((moved ++ [a]) ++ staged) := by rwa [← List.append_cons]
    rw [split, moveAll]
    by_cases names : (base.join a.path).NamesFile
    · have further := ih next (progress.move ready names)
      simp only [progress.rename ready names]
      cases moving : (now.withTree ((now.tree.drop (disk.stagingPlace base a)).put
          (disk.targetPlace base a) (.file (.text a.content)))).moveAll (targets base staged) with
      | mk result reached =>
        rw [moving] at further
        cases result with
        | ok done =>
          obtain ⟨all, done⟩ := further
          exact ⟨List.forall_mem_cons.mpr ⟨names, all⟩, by rwa [List.append_cons]⟩
        | error problem =>
          obtain ⟨done, stuck, rest, order, all, cannot, left⟩ := further
          refine ⟨a :: done, stuck, rest, by rw [order]; rfl, ?_, cannot, ?_⟩
          · exact List.forall_mem_cons.mpr ⟨names, all⟩
          · rwa [List.append_cons]
    · cases renamed : now.renameFile (stagingPath (base.join a.path)) (base.join a.path) with
      | ok after => exact absurd (namesFile_of_renameFile renamed) names
      | error cause =>
        have left := discard_progress ready progress
        rw [split] at left
        exact ⟨[], a, staged, rfl, List.forall_mem_nil _, names,
          by rwa [List.append_nil]⟩

-- The artifacts stand at their targets, where no directory stood; nothing else has changed, except
-- that directories are new that some artifact needs.
structure Wrote (disk after : Disk) (base : Path) (artifacts written : List Artifact) : Prop where
  workingDirectory : after.workingDirectory = disk.workingDirectory
  placed : ∀ artifact ∈ written,
    after.tree.node? (disk.targetPlace base artifact) = some (.file (.text artifact.content))
  replaced : ∀ artifact ∈ written, disk.tree.node? (disk.targetPlace base artifact) ≠ some .directory
  others : ∀ place, (∀ artifact ∈ written, place ≠ disk.targetPlace base artifact) →
    after.tree.node? place = disk.tree.node? place ∨ disk.tree.node? place = none ∧
      after.tree.node? place = some .directory ∧ disk.NewFor base artifacts place

theorem Progress.wrote (progress : Progress (disk.NewFor base artifacts) disk now base moved []) :
    Wrote disk now base artifacts moved := by
  refine ⟨progress.workingDirectory, ?_, progress.replaced, ?_⟩
  · intro artifact member
    exact progress.overlays.held _ _ (List.mem_append_left _ (List.mem_map.mpr ⟨artifact, member, rfl⟩))
  · intro place elsewhere
    refine progress.overlays.kept place fun content listed => ?_
    rcases List.mem_append.mp listed with target | waiting
    · obtain ⟨artifact, member, same⟩ := List.mem_map.mp target
      exact elsewhere artifact member (Prod.mk.inj same).1.symm
    · exact absurd waiting List.not_mem_nil

theorem progress_begin : Progress fresh disk disk base [] [] :=
  ⟨rfl, Tree.overlays_nil.mpr .refl, List.forall_mem_nil _, List.forall_mem_nil _,
    List.forall_mem_nil _⟩

theorem writeStaged_outcome (ready : disk.Ready base artifacts) :
    match disk.writeStaged base artifacts with
    | (.ok written, after) => written = targets base artifacts ∧
        (∀ a ∈ artifacts, (base.join a.path).NamesFile) ∧ Wrote disk after base artifacts artifacts
    | (.error _, after) =>
        (disk.stageAll base [] artifacts).1 ≠ .ok () ∧ Wrote disk after base artifacts [] ∨
        (disk.stageAll base [] artifacts).1 = .ok () ∧ ∃ moved stuck rest,
          artifacts = moved ++ stuck :: rest ∧ (∀ a ∈ moved, (base.join a.path).NamesFile) ∧
            ¬ (base.join stuck.path).NamesFile ∧ Wrote disk after base artifacts moved := by
  have alone : disk.Ready base ([] ++ artifacts) := ready
  have staging := stageAll_progress alone (fun _ new => new) progress_begin
  unfold writeStaged
  cases staged : disk.stageAll base [] artifacts with
  | mk result reached =>
    rw [show targets base [] = [] from rfl, staged] at staging
    cases result with
    | error problem => exact .inl ⟨by simp, staging.wrote⟩
    | ok done =>
      have moving := moveAll_progress alone staging
      simp only
      cases moved : reached.moveAll (targets base artifacts) with
      | mk result last =>
        rw [List.nil_append, moved] at moving
        cases result with
        | ok done => exact ⟨rfl, moving.1, moving.2.wrote⟩
        | error problem =>
          obtain ⟨done, stuck, rest, order, all, cannot, left⟩ := moving
          exact .inr ⟨trivial, done, stuck, rest, order, all, cannot, left.wrote⟩

-- A failure while staging leaves no file behind. A failure while moving leaves those that moved: it
-- comes at the first target whose path cannot name a file, which staging does not look at.
theorem writeArtifacts_staged (ready : disk.Ready base artifacts) :
    match disk.writeArtifacts base artifacts .staged with
    | (.ok written, after) => written = targets base artifacts ∧
        (∀ a ∈ artifacts, (base.join a.path).NamesFile) ∧ Wrote disk after base artifacts artifacts
    | (.error _, after) =>
        (disk.stageAll base [] artifacts).1 ≠ .ok () ∧ Wrote disk after base artifacts [] ∨
        (disk.stageAll base [] artifacts).1 = .ok () ∧ ∃ moved stuck rest,
          artifacts = moved ++ stuck :: rest ∧ (∀ a ∈ moved, (base.join a.path).NamesFile) ∧
            ¬ (base.join stuck.path).NamesFile ∧ Wrote disk after base artifacts moved :=
  writeStaged_outcome ready

-- Two artifacts, the second at a path that staging accepts and moving refuses.
def slashed : List Artifact := [⟨.entity, ⟨"x"⟩, "1"⟩, ⟨.dto, ⟨"b/"⟩, "2"⟩]

theorem ready_slashed : (Disk.mk .empty []).Ready ⟨""⟩ slashed := by
  have x : Path.components ⟨"x"⟩ = ["x"].map .name := by decide
  have b : Path.components ⟨"b/"⟩ = ["b"].map .name := by decide
  refine ⟨Tree.linkFree_empty, ⟨?_, by decide, ?_⟩, ?_⟩
  · simp only [slashed, List.forall_mem_cons, x, b]
    exact ⟨⟨_, by simp, rfl⟩, ⟨_, by simp, rfl⟩, by simp⟩
  · simp only [slashed, List.forall_mem_cons, x, b]
    refine ⟨?_, ?_, by simp⟩ <;> intro name member <;> simp at member <;> subst member <;> decide
  · decide +kernel

theorem writeArtifacts_slashed : ∃ problem after,
    (Disk.mk .empty []).writeArtifacts ⟨""⟩ slashed .staged = (.error problem, after) ∧
      Wrote (Disk.mk .empty []) after ⟨""⟩ slashed [⟨.entity, ⟨"x"⟩, "1"⟩] := by
  have outcome := writeArtifacts_staged ready_slashed
  have failed : ((Disk.mk .empty []).writeArtifacts ⟨""⟩ slashed .staged).1.toBool = false := by decide +kernel
  have accepted : ((Disk.mk .empty []).stageAll ⟨""⟩ [] slashed).1.toBool = true := by decide +kernel
  have plain : ((⟨""⟩ : Path).join ⟨"x"⟩).NamesFile := ⟨by decide, by decide⟩
  cases run : (Disk.mk .empty []).writeArtifacts ⟨""⟩ slashed .staged with
  | mk result after =>
    rw [run] at outcome failed
    cases result with
    | ok written => cases failed
    | error problem =>
      refine ⟨problem, after, rfl, ?_⟩
      rcases outcome with ⟨refused, _⟩ | ⟨_, moved, stuck, rest, order, _, cannot, wrote⟩
      · cases staged : ((Disk.mk .empty []).stageAll ⟨""⟩ [] slashed).1 with
        | ok done => exact absurd staged refused
        | error cause => simp [staged, Except.toBool] at accepted
      · cases moved with
        | nil =>
          have first := (List.cons.inj order).1
          rw [← first] at cannot
          exact absurd plain cannot
        | cons first more =>
          obtain ⟨same, later⟩ := List.cons.inj order
          cases more with
          | nil => rwa [← same] at wrote
          | cons second others => simp at later

-- A failed run can add files.
theorem writeArtifacts_leaves_files : ¬ ∀ (disk : Disk) (base : Path) (artifacts : List Artifact),
    disk.Ready base artifacts → ∀ problem after,
      disk.writeArtifacts base artifacts .staged = (.error problem, after) → ∀ place content,
        after.tree.node? place = some (.file content) → disk.tree.node? place = some (.file content) := by
  intro clean
  have failed : ((Disk.mk .empty []).writeArtifacts ⟨""⟩ slashed .staged).1.toBool = false := by decide +kernel
  have left : ((Disk.mk .empty []).writeArtifacts ⟨""⟩ slashed .staged).2.tree.node? ["x"] =
      some (.file (.text "1")) := by decide +kernel
  cases run : (Disk.mk .empty []).writeArtifacts ⟨""⟩ slashed .staged with
  | mk result after =>
    rw [run] at failed left
    cases result with
    | ok written => cases failed
    | error problem =>
      have there := clean _ _ _ ready_slashed problem after run ["x"] _ left
      simp [Tree.node?, Tree.empty] at there

end Disk
end SpringSkeleton
