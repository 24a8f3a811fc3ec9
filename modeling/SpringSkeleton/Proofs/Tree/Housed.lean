import Mathlib.Data.List.Nodup
import SpringSkeleton.Proofs.Tree.Direct
import SpringSkeleton.Proofs.Tree.Inside
import SpringSkeleton.Proofs.Tree.Revision

namespace SpringSkeleton

-- The artifact goes into the directory, under its own name.
structure Artifact.Housed (base directory : Path) (artifact : Artifact) : Prop where
  isName : Path.IsName artifact.fileName
  path : base.join artifact.path = directory.join ⟨artifact.fileName⟩

namespace Disk
open SpringSkeleton.Tree (Edits)
variable {before middle after disk now : Disk} {edits : Edits} {base directory : Path}
variable {place : Location} {name : String} {artifacts rest : List Artifact} {mode : WriteMode}

-- The same places are directories.
structure Alike (before after : Disk) : Prop where
  workingDirectory : after.workingDirectory = before.workingDirectory
  linkFree : after.tree.LinkFree
  directories : ∀ place, after.tree.node? place = some .directory ↔
    before.tree.node? place = some .directory

-- The edits leave a file or nothing where no directory stood.
structure OnlyFiles (disk : Disk) (edits : Edits) : Prop where
  before : ∀ place left, (place, left) ∈ edits → disk.tree.node? place ≠ some .directory
  after : ∀ place left, (place, left) ∈ edits → left = none ∨ ∃ content, left = some (.file content)

theorem Revises.alike (linkFree : before.tree.LinkFree) (revises : Revises edits before after)
    (files : before.OnlyFiles edits) : Alike before after := by
  refine ⟨revises.workingDirectory, fun place target stands => ?_, fun place => ?_⟩
  · rcases revises.cases place with same | ⟨left, member, there⟩
    · exact linkFree place target (same ▸ stands)
    · rw [there] at stands
      rcases files.after place left member with rfl | ⟨content, rfl⟩ <;> cases stands
  · rcases revises.cases place with same | ⟨left, member, there⟩
    · rw [same]
    · rw [there]
      refine iff_of_false ?_ (files.before place left member)
      rcases files.after place left member with rfl | ⟨content, rfl⟩ <;> simp

theorem onlyFiles_put (open_ : disk.tree.node? place ≠ some .directory) (content : Content) :
    disk.OnlyFiles [(place, some (.file content))] := by
  refine ⟨fun other left member => ?_, fun other left member => ?_⟩
  · rw [(Prod.mk.inj (List.mem_singleton.mp member)).1]
    exact open_
  · exact .inr ⟨content, (Prod.mk.inj (List.mem_singleton.mp member)).2⟩

theorem onlyFiles_drop (open_ : disk.tree.node? place ≠ some .directory) :
    disk.OnlyFiles [(place, none)] := by
  refine ⟨fun other left member => ?_, fun other left member => ?_⟩
  · rw [(Prod.mk.inj (List.mem_singleton.mp member)).1]
    exact open_
  · exact .inl (Prod.mk.inj (List.mem_singleton.mp member)).2

-- A directory that paths lead to, written as one that files can be put into.
structure Houses (disk : Disk) (directory : Path) : Prop where
  linkFree : disk.tree.LinkFree
  admissible : directory.Admissible
  plain : (Route.ofText directory.text).ending = .plain
  leads : disk.tree.Leads (disk.start directory) directory.steps

theorem Houses.alike (houses : before.Houses directory) (alike : Alike before after) :
    after.Houses directory := by
  refine ⟨alike.linkFree, houses.admissible, houses.plain, ?_⟩
  rw [start_congr alike.workingDirectory]
  exact houses.leads.mono fun place stands => (alike.directories place).mpr stands

-- The same names in one directory stand for directories.
structure AlikeIn (directory : Path) (before after : Disk) : Prop where
  workingDirectory : after.workingDirectory = before.workingDirectory
  entries : ∀ name, after.tree.node? (before.placeOf directory ++ [name]) = some .directory ↔
    before.tree.node? (before.placeOf directory ++ [name]) = some .directory

theorem Alike.inside (alike : Alike before after) (directory : Path) : AlikeIn directory before after :=
  ⟨alike.workingDirectory, fun _ => alike.directories _⟩

theorem hindrance?_alike (alike : AlikeIn directory before after) (name : String) :
    after.hindrance? directory name = before.hindrance? directory name := by
  unfold hindrance?
  rw [placeOf_congr alike.workingDirectory]
  simp only [alike.entries]

theorem Houses.makeParentFor (houses : disk.Houses directory) (isName : Path.IsName name) :
    disk.makeParentFor (directory.join ⟨name⟩) = (.ok (), disk) := by
  unfold Disk.makeParentFor
  rw [Path.parent?_join isName houses.plain]
  simp only [makeDirectoriesFor,
    makeDirectories_standing houses.linkFree houses.leads houses.admissible]

theorem Houses.perform (houses : disk.Houses directory) (isName : Path.IsName name) (content : String) :
    disk.perform (.file (directory.join ⟨name⟩) content) = match disk.hindrance? directory name with
      | some cause => (.error (.file (directory.join ⟨name⟩) cause), disk)
      | none => (.ok (), disk.withTree
          (disk.tree.put (disk.placeOf directory ++ [name]) (.file (.text content)))) := by
  rw [Disk.perform, houses.makeParentFor isName]
  simp only
  rw [writeFile_inside houses.linkFree houses.leads isName]
  cases disk.hindrance? directory name <;> rfl

theorem hindrance?_eq_none (free : disk.hindrance? directory name = none) :
    directory.refusal? name = none ∧
      disk.tree.node? (disk.placeOf directory ++ [name]) ≠ some .directory := by
  obtain ⟨allowed, open_⟩ := Option.or_eq_none_iff.mp free
  exact ⟨allowed, by simpa using open_⟩

def directHindrance? (disk : Disk) (directory : Path) (artifact : Artifact) : Option Problem :=
  (disk.hindrance? directory artifact.fileName).map (.file (directory.join ⟨artifact.fileName⟩))

-- What becomes of an artifact: it is written; or staged, and then taken away again or moved.
def fileEdit (place : Location) (artifact : Artifact) : Edits :=
  [(place ++ [artifact.fileName], some (.file (.text artifact.content)))]

def stagingEdit (place : Location) (artifact : Artifact) : Edits :=
  [(place ++ [stagingName artifact.fileName], some (.file (.text artifact.content)))]

def discardEdit (place : Location) (artifact : Artifact) : Edits :=
  [(place ++ [stagingName artifact.fileName], none)]

def moveEdit (place : Location) (artifact : Artifact) : Edits :=
  fileEdit place artifact ++ discardEdit place artifact

theorem performAll_housed (houses : disk.Houses directory)
    (housed : ∀ artifact ∈ artifacts, artifact.Housed base directory) :
    let done := untilHindered (disk.directHindrance? directory) artifacts
    (disk.performAll (fileSteps base artifacts)).1 = outcomeOf done.2 ∧
      Revises (Tree.editsOf (fileEdit (disk.placeOf directory)) done.1) disk
        (disk.performAll (fileSteps base artifacts)).2 := by
  induction artifacts generalizing disk with
  | nil => exact ⟨rfl, .refl⟩
  | cons a rest ih =>
    obtain ⟨isName, path⟩ := housed a List.mem_cons_self
    have first := houses.perform isName a.content
    have split : fileSteps base (a :: rest) =
        .file (directory.join ⟨a.fileName⟩) a.content :: fileSteps base rest := by
      rw [← path]
      rfl
    simp only
    rw [split, performAll, first, untilHindered]
    cases stuck : disk.hindrance? directory a.fileName with
    | some cause =>
      simp only [directHindrance?, stuck, Option.map_some]
      exact ⟨rfl, .refl⟩
    | none =>
      simp only [directHindrance?, stuck, Option.map_none]
      obtain ⟨_, open_⟩ := hindrance?_eq_none stuck
      have put := revises_put disk (disk.placeOf directory ++ [a.fileName]) (by simp)
        (.file (.text a.content))
      have alike := put.alike houses.linkFree (onlyFiles_put open_ _)
      obtain ⟨result, revises⟩ := ih (houses.alike alike) fun other member =>
        housed other (List.mem_cons_of_mem _ member)
      have same : ∀ other ∈ rest, (disk.withTree (disk.tree.put (disk.placeOf directory ++ [a.fileName])
          (.file (.text a.content)))).directHindrance? directory other =
            disk.directHindrance? directory other := by
        intro other _
        rw [directHindrance?, directHindrance?, hindrance?_alike (alike.inside directory)]
      rw [untilHindered_congr same] at result revises
      refine ⟨result, ?_⟩
      have both := put.trans revises
      rw [placeOf_congr alike.workingDirectory] at both
      rwa [Tree.editsOf_cons]

-- A target that is a directory is refused as such; else what hinders writing the staged file counts.
def stagedHindrance? (disk : Disk) (directory : Path) (artifact : Artifact) : Option Problem :=
  if directory.refusal? artifact.fileName = none ∧
      disk.tree.node? (disk.placeOf directory ++ [artifact.fileName]) = some .directory then
    some (.file (directory.join ⟨artifact.fileName⟩) .targetIsDirectory)
  else (disk.hindrance? directory (stagingName artifact.fileName)).map
    (.file (directory.join ⟨stagingName artifact.fileName⟩))

theorem stagedHindrance?_alike (alike : AlikeIn directory before after) (artifact : Artifact) :
    after.stagedHindrance? directory artifact = before.stagedHindrance? directory artifact := by
  unfold stagedHindrance?
  rw [hindrance?_alike alike, placeOf_congr alike.workingDirectory]
  simp only [alike.entries]

-- The text of a staging path holds all of the text of its target but the end of the last name.
theorem refusal?_of_staging (isName : Path.IsName name)
    (allowed : directory.refusal? (stagingName name) = none) : directory.refusal? name = none := by
  obtain ⟨admissible, short⟩ := Path.refusal?_eq_none_iff.mp allowed
  have clean := admissible.clean
  have bounded := admissible.short
  rw [Path.join_relative directory (isName_stagingName isName).relative] at clean bounded
  have somewhere : (directory.join ⟨name⟩).steps ≠ [] := by
    rw [Path.steps_join directory isName.relative, isName.steps]
    simp
  have longer := stagingName_longer name
  refine Path.refusal?_eq_none_iff.mpr
    ⟨⟨?_, Path.text_of_steps somewhere, ?_⟩, Nat.le_trans longer short⟩
  · rw [Path.join_relative directory isName.relative]
    intro nul
    rw [String.toList_append] at nul clean
    rcases List.mem_append.mp nul with before | within
    · exact clean (List.mem_append_left _ before)
    · refine clean (List.mem_append_right _ ?_)
      simp only [stagingName, String.toList_append]
      exact List.mem_append_left _ (List.mem_append_right _ within)
  · rw [Path.join_relative directory isName.relative]
    simp only [String.utf8ByteSize_append] at bounded ⊢
    omega

-- Nothing hinders staging an artifact, and then nothing hinders moving it.
structure Free (disk : Disk) (directory : Path) (artifact : Artifact) : Prop where
  staging : directory.refusal? (stagingName artifact.fileName) = none
  target : directory.refusal? artifact.fileName = none
  aside : disk.tree.node? (disk.placeOf directory ++ [stagingName artifact.fileName]) ≠ some .directory
  open_ : disk.tree.node? (disk.placeOf directory ++ [artifact.fileName]) ≠ some .directory

theorem free_of_unhindered {artifact : Artifact} (isName : Path.IsName artifact.fileName)
    (free : disk.stagedHindrance? directory artifact = none) : disk.Free directory artifact := by
  unfold stagedHindrance? at free
  split at free
  · cases free
  · rename_i other
    obtain ⟨staging, aside⟩ := hindrance?_eq_none (Option.map_eq_none_iff.mp free)
    have target := refusal?_of_staging isName staging
    exact ⟨staging, target, aside, fun stands => other ⟨target, stands⟩⟩

theorem Free.alike {artifact : Artifact} (free : before.Free directory artifact)
    (alike : Alike before after) : after.Free directory artifact := by
  refine ⟨free.staging, free.target, ?_, ?_⟩
  · rw [placeOf_congr alike.workingDirectory, ne_eq, alike.directories]
    exact free.aside
  · rw [placeOf_congr alike.workingDirectory, ne_eq, alike.directories]
    exact free.open_

theorem Houses.stagingPath (houses : disk.Houses directory) (isName : Path.IsName name) :
    stagingPath (directory.join ⟨name⟩) = directory.join ⟨stagingName name⟩ := by
  rw [stagingPath_eq (Path.fileName?_join isName directory),
    Path.withFileName_join isName houses.plain]

theorem Houses.stage (houses : disk.Houses directory) {artifact : Artifact}
    (isName : Path.IsName artifact.fileName) :
    disk.stage (directory.join ⟨artifact.fileName⟩) artifact.content =
      match disk.stagedHindrance? directory artifact with
      | some problem => (.error problem, disk)
      | none => (.ok (), disk.withTree (disk.tree.put
          (disk.placeOf directory ++ [stagingName artifact.fileName])
          (.file (.text artifact.content)))) := by
  have there := isDirectory_inside houses.linkFree houses.leads isName
  unfold Disk.stage stagedHindrance?
  rw [houses.makeParentFor isName]
  simp only
  rw [houses.stagingPath isName]
  by_cases directory_ : directory.refusal? artifact.fileName = none ∧
      disk.tree.node? (disk.placeOf directory ++ [artifact.fileName]) = some .directory
  · rw [if_pos (there.mpr directory_), if_pos directory_]
  · rw [if_neg (fun found => directory_ (there.mp found)), if_neg directory_,
      writeFile_inside houses.linkFree houses.leads (isName_stagingName isName)]
    cases disk.hindrance? directory (stagingName artifact.fileName) <;> rfl

-- A staged file is removed if it is still there.
theorem Houses.discard (houses : disk.Houses directory)
    (housed : ∀ artifact ∈ artifacts, artifact.Housed base directory)
    (free : ∀ artifact ∈ artifacts, disk.Free directory artifact) :
    Revises (Tree.editsOf (discardEdit (disk.placeOf directory)) artifacts) disk
      (disk.discard (targets base artifacts)) := by
  induction artifacts generalizing disk with
  | nil => exact .refl
  | cons a rest ih =>
    obtain ⟨isName, path⟩ := housed a List.mem_cons_self
    have first := free a List.mem_cons_self
    have others : ∀ other ∈ rest, disk.Free directory other :=
      fun other member => free other (List.mem_cons_of_mem _ member)
    have housed := fun other member => housed other (List.mem_cons_of_mem a member)
    have found := find_inside houses.linkFree houses.leads (isName_stagingName isName) false
    rw [first.staging] at found
    rw [show targets base (a :: rest) = directory.join ⟨a.fileName⟩ :: targets base rest by
      rw [← path]; rfl, Disk.discard, houses.stagingPath isName, Tree.editsOf_cons]
    cases stands : disk.tree.node? (disk.placeOf directory ++ [stagingName a.fileName]) with
    | none =>
      have absent : disk.removeFile (directory.join ⟨stagingName a.fileName⟩) = .error .missing := by
        rw [removeFile, found, stands]
      have idle : Revises (discardEdit (disk.placeOf directory) a) disk disk :=
        revises_idle (by simp [discardEdit]) (by simpa [discardEdit] using stands)
      rw [absent]
      exact idle.trans (ih houses housed others)
    | some node =>
      cases node with
      | directory => exact absurd stands first.aside
      | link target => exact absurd stands (houses.linkFree _ target)
      | file content =>
        have removed : disk.removeFile (directory.join ⟨stagingName a.fileName⟩) = .ok (disk.withTree
            (disk.tree.drop (disk.placeOf directory ++ [stagingName a.fileName]))) := by
          rw [removeFile, found, stands]
          rfl
        have drop := revises_drop disk
          (disk.placeOf directory ++ [stagingName a.fileName]) (by simp)
        have alike := drop.alike houses.linkFree (onlyFiles_drop first.aside)
        have further := ih (houses.alike alike) housed fun other member =>
          (others other member).alike alike
        rw [placeOf_congr alike.workingDirectory] at further
        rw [removed]
        exact drop.trans further

theorem onlyFiles_staging (free : ∀ artifact ∈ artifacts, disk.Free directory artifact) :
    disk.OnlyFiles (Tree.editsOf (stagingEdit (disk.placeOf directory)) artifacts) := by
  refine ⟨fun other left member => ?_, fun other left member => ?_⟩
  · obtain ⟨a, inside, edit⟩ := Tree.mem_editsOf.mp member
    rw [(Prod.mk.inj (List.mem_singleton.mp edit)).1]
    exact (free a inside).aside
  · obtain ⟨a, _, edit⟩ := Tree.mem_editsOf.mp member
    exact .inr ⟨_, (Prod.mk.inj (List.mem_singleton.mp edit)).2⟩

-- All are staged, or those before the first that cannot be are taken away again.
theorem Houses.stageAll {done : List Artifact} (houses : disk.Houses directory)
    (housed : ∀ artifact ∈ done ++ rest, artifact.Housed base directory)
    (free : ∀ artifact ∈ done, disk.Free directory artifact)
    (revises : Revises (Tree.editsOf (stagingEdit (disk.placeOf directory)) done) disk now) :
    let more := untilHindered (disk.stagedHindrance? directory) rest
    let each := match more.2 with
      | some _ => discardEdit (disk.placeOf directory)
      | none => stagingEdit (disk.placeOf directory)
    (now.stageAll base (targets base done) rest).1 = outcomeOf more.2 ∧
      Revises (Tree.editsOf each (done ++ more.1)) disk
        (now.stageAll base (targets base done) rest).2 := by
  induction rest generalizing now done with
  | nil => exact ⟨rfl, by rwa [untilHindered, List.append_nil]⟩
  | cons a rest ih =>
    obtain ⟨isName, path⟩ := housed a (List.mem_append_right _ List.mem_cons_self)
    have alike := revises.alike houses.linkFree (onlyFiles_staging free)
    have standing := houses.alike alike
    have staged := standing.stage isName
    rw [stagedHindrance?_alike (alike.inside directory), placeOf_congr alike.workingDirectory] at staged
    simp only
    rw [Disk.stageAll, path, staged, untilHindered]
    cases stuck : disk.stagedHindrance? directory a with
    | some problem =>
      have earlier : ∀ artifact ∈ done, artifact.Housed base directory :=
        fun other member => housed other (List.mem_append_left _ member)
      have gone := standing.discard earlier fun other member => (free other member).alike alike
      rw [placeOf_congr alike.workingDirectory] at gone
      refine ⟨rfl, ?_⟩
      rw [List.append_nil]
      refine (revises.trans gone).covered fun place left member => ⟨none, ?_⟩
      obtain ⟨b, inside, edit⟩ := Tree.mem_editsOf.mp member
      rw [(Prod.mk.inj (List.mem_singleton.mp edit)).1]
      exact Tree.mem_editsOf.mpr ⟨b, inside, List.mem_singleton.mpr rfl⟩
    | none =>
      have put := revises_put now
        (disk.placeOf directory ++ [stagingName a.fileName]) (by simp)
        (.file (.text a.content))
      have both := revises.trans put
      have further : ∀ artifact ∈ done ++ [a], disk.Free directory artifact := by
        intro other member
        rcases List.mem_append.mp member with earlier | last
        · exact free other earlier
        · rw [List.mem_singleton.mp last]
          exact free_of_unhindered isName stuck
      have split : targets base done ++ [directory.join ⟨a.fileName⟩] = targets base (done ++ [a]) := by
        simp [targets, path]
      have rest_housed : ∀ artifact ∈ (done ++ [a]) ++ rest, artifact.Housed base directory := by
        rwa [← List.append_cons]
      obtain ⟨result, after⟩ := ih rest_housed further
        (by rw [Tree.editsOf_append, Tree.editsOf_singleton]; exact both)
      simp only
      rw [split]
      exact ⟨result, by rwa [List.append_cons]⟩

-- Artifacts of different names, none of which is the staging name of another.
structure Distinct (artifacts : List Artifact) : Prop where
  names : (artifacts.map Artifact.fileName).Nodup
  hidden : ∀ a ∈ artifacts, ∀ b ∈ artifacts, a.fileName ≠ stagingName b.fileName

theorem Distinct.tail {a : Artifact} (distinct : Distinct (a :: rest)) : Distinct rest :=
  ⟨(List.nodup_cons.mp distinct.names).2, fun b member c other =>
    distinct.hidden b (List.mem_cons_of_mem _ member) c (List.mem_cons_of_mem _ other)⟩

theorem Houses.move (houses : disk.Houses directory) {artifact : Artifact}
    (isName : Path.IsName artifact.fileName) (free : disk.Free directory artifact)
    (waits : disk.tree.node? (disk.placeOf directory ++ [stagingName artifact.fileName]) =
      some (.file (.text artifact.content)))
    (apart : artifact.fileName ≠ stagingName artifact.fileName) :
    ∃ after, disk.renameFile (directory.join ⟨stagingName artifact.fileName⟩)
        (directory.join ⟨artifact.fileName⟩) = .ok after ∧
      Revises (moveEdit (disk.placeOf directory) artifact) disk after := by
  have staging := isName_stagingName isName
  have source := placeOf_join disk directory staging
  have target := placeOf_join disk directory isName
  have differ : disk.placeOf (directory.join ⟨stagingName artifact.fileName⟩) ≠
      disk.placeOf (directory.join ⟨artifact.fileName⟩) := by
    rw [source, target]
    intro same
    exact apart (List.singleton_inj.mp (List.append_cancel_left same)).symm
  have renamed := renameFile_ok houses.linkFree (reaches_inside houses.leads staging free.staging)
    (reaches_inside houses.leads isName free.target) (by rw [source]; exact waits)
    (by rw [target]; exact free.open_) differ
  rw [source, target] at renamed
  refine ⟨_, renamed, ?_⟩
  have dropped := revises_drop disk
    (disk.placeOf directory ++ [stagingName artifact.fileName]) (by simp)
  have placed := revises_put (disk.withTree
    (disk.tree.drop (disk.placeOf directory ++ [stagingName artifact.fileName])))
    (disk.placeOf directory ++ [artifact.fileName]) (by simp) (.file (.text artifact.content))
  exact dropped.trans placed

theorem onlyFiles_move {artifact : Artifact} (free : disk.Free directory artifact) :
    disk.OnlyFiles (moveEdit (disk.placeOf directory) artifact) := by
  refine ⟨fun other left member => ?_, fun other left member => ?_⟩
  · rcases List.mem_pair.mp member with same | same
    · rw [(Prod.mk.inj same).1]
      exact free.open_
    · rw [(Prod.mk.inj same).1]
      exact free.aside
  · rcases List.mem_pair.mp member with same | same
    · exact .inr ⟨_, (Prod.mk.inj same).2⟩
    · exact .inl (Prod.mk.inj same).2

-- One move leaves the other staged files where they wait.
theorem Houses.moveAll (houses : disk.Houses directory) (distinct : Distinct artifacts)
    (housed : ∀ artifact ∈ artifacts, artifact.Housed base directory)
    (free : ∀ artifact ∈ artifacts, disk.Free directory artifact)
    (waits : ∀ artifact ∈ artifacts, disk.tree.node?
      (disk.placeOf directory ++ [stagingName artifact.fileName]) =
        some (.file (.text artifact.content))) :
    (disk.moveAll (targets base artifacts)).1 = .ok () ∧
      Revises (Tree.editsOf (moveEdit (disk.placeOf directory)) artifacts) disk
        (disk.moveAll (targets base artifacts)).2 := by
  induction artifacts generalizing disk with
  | nil => exact ⟨rfl, .refl⟩
  | cons a rest ih =>
    obtain ⟨isName, path⟩ := housed a List.mem_cons_self
    have first := free a List.mem_cons_self
    obtain ⟨after, renamed, revises⟩ := houses.move isName first (waits a List.mem_cons_self)
      (distinct.hidden a List.mem_cons_self a List.mem_cons_self)
    have alike := revises.alike houses.linkFree (onlyFiles_move first)
    have still : ∀ b ∈ rest, after.tree.node?
        (after.placeOf directory ++ [stagingName b.fileName]) = some (.file (.text b.content)) := by
      intro b member
      have inside := List.mem_cons_of_mem a member
      rw [placeOf_congr alike.workingDirectory, ← waits b inside]
      rcases revises.cases (disk.placeOf directory ++ [stagingName b.fileName]) with
        same | ⟨left, edit, _⟩
      · exact same
      · exfalso
        rcases List.mem_pair.mp edit with same | same
        · have names := List.singleton_inj.mp (List.append_cancel_left (Prod.mk.inj same).1)
          exact distinct.hidden a List.mem_cons_self b inside names.symm
        · have names := List.singleton_inj.mp (List.append_cancel_left (Prod.mk.inj same).1)
          refine (List.nodup_cons.mp distinct.names).1 ?_
          rw [← stagingName_injective names]
          exact List.mem_map_of_mem member
    obtain ⟨result, further⟩ := ih (houses.alike alike) distinct.tail
      (fun other member => housed other (List.mem_cons_of_mem _ member))
      (fun other member => (free other (List.mem_cons_of_mem _ member)).alike alike) still
    rw [placeOf_congr alike.workingDirectory] at further
    rw [show targets base (a :: rest) = directory.join ⟨a.fileName⟩ :: targets base rest by
      rw [← path]; rfl, Disk.moveAll, houses.stagingPath isName, renamed, Tree.editsOf_cons]
    exact ⟨result, revises.trans further⟩

theorem waits_of_staged (distinct : Distinct artifacts)
    (revises : Revises (Tree.editsOf (stagingEdit place) artifacts) before after) {a : Artifact}
    (member : a ∈ artifacts) : after.tree.node? (place ++ [stagingName a.fileName]) =
      some (.file (.text a.content)) := by
  refine revises.held (Tree.mem_editsOf.mpr ⟨a, member, List.mem_singleton.mpr rfl⟩) ?_
  intro other edit
  obtain ⟨b, inside, same⟩ := Tree.mem_editsOf.mp edit
  obtain ⟨places, lefts⟩ := Prod.mk.inj (List.mem_singleton.mp same)
  have names := stagingName_injective (List.singleton_inj.mp (List.append_cancel_left places))
  rw [lefts, List.inj_on_of_nodup_map distinct.names member inside names]

-- What hinders one artifact, and what the run has made of those before it.
def artifactHindrance? (disk : Disk) (directory : Path) : WriteMode → Artifact → Option Problem
  | .direct => disk.directHindrance? directory
  | .staged => disk.stagedHindrance? directory

theorem artifactHindrance?_alike (alike : AlikeIn directory before after) (mode : WriteMode) :
    after.artifactHindrance? directory mode = before.artifactHindrance? directory mode := by
  funext artifact
  cases mode with
  | direct => simp only [artifactHindrance?, directHindrance?, hindrance?_alike alike]
  | staged => simp only [artifactHindrance?, stagedHindrance?_alike alike]

def artifactEdits (place : Location) : WriteMode → List Artifact × Option Problem → Edits
  | .direct, (done, _) => Tree.editsOf (fileEdit place) done
  | .staged, (done, some _) => Tree.editsOf (discardEdit place) done
  | .staged, (done, none) => Tree.editsOf (moveEdit place) done

-- Each of the edits is that of a file or a staged file where no directory stood.
theorem mem_artifactEdits (housed : ∀ artifact ∈ artifacts, artifact.Housed base directory)
    {other : Location} {left : Option Node} (member : (other, left) ∈ artifactEdits
      (disk.placeOf directory) mode (untilHindered (disk.artifactHindrance? directory mode) artifacts)) :
    disk.tree.node? other ≠ some .directory ∧ ∃ artifact ∈ artifacts,
      (other, left) ∈ moveEdit (disk.placeOf directory) artifact := by
  have passed : ∀ artifact ∈ (untilHindered (disk.artifactHindrance? directory mode) artifacts).1,
      artifact ∈ artifacts ∧ disk.artifactHindrance? directory mode artifact = none :=
    fun artifact done => ⟨(untilHindered_initial _ _).subset done, untilHindered_passed done⟩
  cases found : untilHindered (disk.artifactHindrance? directory mode) artifacts with
  | mk done stop =>
    rw [found] at member passed
    cases mode with
    | direct =>
      obtain ⟨a, inside, edit⟩ := Tree.mem_editsOf.mp member
      obtain ⟨listed, free⟩ := passed a inside
      refine ⟨?_, a, listed, List.mem_append_left _ edit⟩
      rw [(Prod.mk.inj (List.mem_singleton.mp edit)).1]
      exact (hindrance?_eq_none (Option.map_eq_none_iff.mp free)).2
    | staged =>
      have which : ∃ a ∈ done, (other, left) ∈ moveEdit (disk.placeOf directory) a := by
        cases stop with
        | some problem =>
          obtain ⟨a, inside, edit⟩ := Tree.mem_editsOf.mp member
          exact ⟨a, inside, List.mem_append_right _ edit⟩
        | none => exact Tree.mem_editsOf.mp member
      obtain ⟨a, inside, edit⟩ := which
      obtain ⟨listed, unhindered⟩ := passed a inside
      have free := free_of_unhindered (housed a listed).isName unhindered
      exact ⟨(onlyFiles_move free).before other left edit, a, listed, edit⟩

theorem Houses.writeStaged (houses : disk.Houses directory) (distinct : Distinct artifacts)
    (housed : ∀ artifact ∈ artifacts, artifact.Housed base directory) :
    let done := untilHindered (disk.stagedHindrance? directory) artifacts
    (disk.writeStaged base artifacts).1 = (outcomeOf done.2).map (fun _ => targets base artifacts) ∧
      Revises (artifactEdits (disk.placeOf directory) .staged done) disk
        (disk.writeStaged base artifacts).2 := by
  have start : Revises (Tree.editsOf (stagingEdit (disk.placeOf directory)) []) disk disk := .refl
  have all : ∀ artifact ∈ [] ++ artifacts, artifact.Housed base directory := housed
  have staging := houses.stageAll all (List.forall_mem_nil _) start
  rw [show targets base [] = [] from rfl] at staging
  simp only [List.nil_append] at staging ⊢
  unfold Disk.writeStaged
  cases found : untilHindered (disk.stagedHindrance? directory) artifacts with
  | mk done stop =>
    rw [found] at staging
    cases run : disk.stageAll base [] artifacts with
    | mk result reached =>
      rw [run] at staging
      obtain ⟨outcome, revises⟩ := staging
      cases stop with
      | some problem =>
        cases outcome
        exact ⟨rfl, revises⟩
      | none =>
        cases outcome
        have all : done = artifacts := by
          have whole := untilHindered_all (congrArg Prod.snd found)
          rwa [found] at whole
        subst all
        have revises : Revises (Tree.editsOf (stagingEdit (disk.placeOf directory)) done) disk reached :=
          revises
        have free : ∀ artifact ∈ done, disk.Free directory artifact := by
          intro artifact member
          have passed : artifact ∈ (untilHindered (disk.stagedHindrance? directory) done).1 := by
            rwa [found]
          exact free_of_unhindered (housed artifact member).isName (untilHindered_passed passed)
        have alike := revises.alike houses.linkFree (onlyFiles_staging free)
        have waits : ∀ artifact ∈ done, reached.tree.node?
            (reached.placeOf directory ++ [stagingName artifact.fileName]) =
              some (.file (.text artifact.content)) := by
          intro artifact member
          rw [placeOf_congr alike.workingDirectory]
          exact waits_of_staged distinct revises member
        obtain ⟨result, moved⟩ := (houses.alike alike).moveAll distinct housed
          (fun artifact member => (free artifact member).alike alike) waits
        rw [placeOf_congr alike.workingDirectory] at moved
        have covered := (revises.trans moved).covered fun place left member => by
          obtain ⟨a, inside, edit⟩ := Tree.mem_editsOf.mp member
          rw [(Prod.mk.inj (List.mem_singleton.mp edit)).1]
          exact ⟨none, Tree.mem_editsOf.mpr ⟨a, inside, List.mem_pair.mpr (.inr rfl)⟩⟩
        simp only
        cases last : reached.moveAll (targets base done) with
        | mk outcome after =>
          rw [last] at result covered
          cases result
          exact ⟨rfl, covered⟩

theorem Houses.writeDirect (houses : disk.Houses directory)
    (housed : ∀ artifact ∈ artifacts, artifact.Housed base directory) :
    let done := untilHindered (disk.directHindrance? directory) artifacts
    (disk.writeDirect base artifacts).1 = (outcomeOf done.2).map (fun _ => targets base artifacts) ∧
      Revises (artifactEdits (disk.placeOf directory) .direct done) disk
        (disk.writeDirect base artifacts).2 := by
  have performed := performAll_housed houses housed
  unfold Disk.writeDirect
  simp only at performed ⊢
  rw [show (artifacts.map fun artifact => Step.file (base.join artifact.path) artifact.content) =
    fileSteps base artifacts from rfl]
  cases run : disk.performAll (fileSteps base artifacts) with
  | mk result after =>
    rw [run] at performed
    obtain ⟨outcome, revises⟩ := performed
    cases found : untilHindered (disk.directHindrance? directory) artifacts with
    | mk done stop =>
      rw [found] at outcome revises
      cases stop <;> cases outcome <;> exact ⟨rfl, revises⟩

-- Either way, the run comes as far as nothing hinders it and fails with what does.
theorem Houses.writeArtifacts (houses : disk.Houses directory) (distinct : Distinct artifacts)
    (housed : ∀ artifact ∈ artifacts, artifact.Housed base directory) (mode : WriteMode) :
    let done := untilHindered (disk.artifactHindrance? directory mode) artifacts
    (disk.writeArtifacts base artifacts mode).1 =
        (outcomeOf done.2).map (fun _ => targets base artifacts) ∧
      Revises (artifactEdits (disk.placeOf directory) mode done) disk
        (disk.writeArtifacts base artifacts mode).2 := by
  cases mode with
  | direct => exact houses.writeDirect housed
  | staged => exact houses.writeStaged distinct housed

theorem fileEdit_unhindered (place : Location) (mode : WriteMode) {a : Artifact} (member : a ∈ artifacts) :
    (place ++ [a.fileName], some (.file (.text a.content))) ∈
      artifactEdits place mode (artifacts, none) := by
  have own := List.mem_singleton.mpr
    (rfl : (place ++ [a.fileName], some (Node.file (.text a.content))) = _)
  cases mode with
  | direct => exact Tree.mem_editsOf.mpr ⟨a, member, own⟩
  | staged => exact Tree.mem_editsOf.mpr ⟨a, member, List.mem_append_left _ own⟩

theorem moveEdit_unhindered {place other : Location} {left : Option Node}
    (edit : (other, left) ∈ artifactEdits place mode (artifacts, none)) :
    ∃ b ∈ artifacts, (other, left) ∈ moveEdit place b := by
  cases mode with
  | direct =>
    obtain ⟨b, inside, file⟩ := Tree.mem_editsOf.mp edit
    exact ⟨b, inside, List.mem_append_left _ file⟩
  | staged => exact Tree.mem_editsOf.mp edit

-- After a run that nothing hinders, each artifact is there.
theorem Houses.placed (houses : disk.Houses directory) (distinct : Distinct artifacts)
    (housed : ∀ artifact ∈ artifacts, artifact.Housed base directory) {paths : List Path}
    (written : disk.writeArtifacts base artifacts mode = (.ok paths, after)) {a : Artifact}
    (member : a ∈ artifacts) : after.tree.node? (disk.placeOf directory ++ [a.fileName]) =
      some (.file (.text a.content)) := by
  obtain ⟨outcome, revises⟩ := houses.writeArtifacts distinct housed mode
  rw [written] at outcome revises
  have whole : untilHindered (disk.artifactHindrance? directory mode) artifacts = (artifacts, none) := by
    cases stop : (untilHindered (disk.artifactHindrance? directory mode) artifacts).2 with
    | some problem =>
      rw [stop] at outcome
      cases outcome
    | none => exact Prod.ext (untilHindered_all stop) stop
  rw [whole] at revises
  refine revises.held (fileEdit_unhindered _ mode member) fun left edit => ?_
  obtain ⟨b, inside, moved⟩ := moveEdit_unhindered edit
  rcases List.mem_append.mp moved with file | hidden
  · obtain ⟨places, texts⟩ := Prod.mk.inj (List.mem_singleton.mp file)
    have names := List.singleton_inj.mp (List.append_cancel_left places)
    rw [texts, List.inj_on_of_nodup_map distinct.names inside member names.symm]
  · have places := (Prod.mk.inj (List.mem_singleton.mp hidden)).1
    exact absurd (List.singleton_inj.mp (List.append_cancel_left places))
      (distinct.hidden a member b inside)

end Disk
end SpringSkeleton
