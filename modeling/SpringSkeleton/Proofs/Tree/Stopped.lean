import SpringSkeleton.Proofs.Tree.Direct
import SpringSkeleton.Proofs.Tree.Performed

namespace SpringSkeleton

-- The path is a sequence of names.
def Artifact.Named (artifact : Artifact) : Prop :=
  ∃ names : List String, names ≠ [] ∧ artifact.path.components = names.map .name

namespace Disk
variable {disk now after : Disk} {base path : Path} {place : Location} {step : Step} {steps : List Step}
variable {a b : Artifact} {artifacts : List Artifact} {content : String} {problem : Problem}

-- The first failure is that of a step, after all steps before it.
theorem performAll_stopped (failed : disk.performAll steps = (.error problem, after)) :
    ∃ done step left reached, steps = done ++ step :: left ∧
      disk.performAll done = (.ok (), reached) ∧ reached.perform step = (.error problem, after) := by
  induction steps generalizing disk with
  | nil => cases failed
  | cons first rest ih =>
    rw [performAll] at failed
    cases run : disk.perform first with
    | mk result reached =>
      rw [run] at failed
      cases result with
      | error cause =>
        cases failed
        exact ⟨[], first, rest, disk, rfl, rfl, run⟩
      | ok _ =>
        obtain ⟨done, step, left, last, rfl, performed, stuck⟩ := ih failed
        refine ⟨first :: done, step, left, last, rfl, ?_, stuck⟩
        simp only [performAll, run, performed]

section New

-- Where a step may have to make directories.
def Way (disk : Disk) : Step → Location → Prop
  | .directory path, place => disk.OnWay path place
  | .file path _, place => ∃ parent : Path, parent.IsParent path ∧ disk.OnWay parent place

theorem Way.congr (same : after.workingDirectory = disk.workingDirectory) (way : after.Way step place) :
    disk.Way step place := by
  cases step with
  | directory path => exact OnWay.congr same way
  | file path content =>
    obtain ⟨parent, isParent, onWay⟩ := way
    exact ⟨parent, isParent, onWay.congr same⟩

theorem Enlarges.new {fresh : Location → Prop} (grown : Enlarges fresh disk after)
    (stands : after.tree.node? place = some .directory) :
    disk.tree.node? place = some .directory ∨ fresh place := by
  rcases grown.grows place with same | ⟨_, _, new⟩
  · exact .inl (same ▸ stands)
  · exact .inr new

theorem perform_new (linkFree : disk.tree.LinkFree) (step : Step)
    (stands : (disk.perform step).2.tree.node? place = some .directory) :
    disk.tree.node? place = some .directory ∨ disk.Way step place := by
  cases step with
  | directory path => exact (makeDirectoriesFor_enlarges linkFree path).new stands
  | file path content =>
    have grown := makeParentFor_enlarges linkFree path
    obtain ⟨_, reached, made, same⟩ | ⟨_, reached, made, _, same⟩ | ⟨reached, last, made, written, same⟩ :=
      perform_file_cases disk path content
    · rw [same] at stands
      exact (made ▸ grown).new stands
    · rw [same] at stands
      exact (made ▸ grown).new stands
    · rw [made] at grown
      obtain ⟨reaches, _, rfl⟩ := writeFile_ok (grown.grows.linkFree linkFree) written
      rw [same, withTree_tree, Tree.node?_put _ reaches.placeOf_ne_nil] at stands
      split at stands
      · cases stands
      · exact grown.new stands

-- Wherever a run stops, each new directory is on the way of one of its steps.
theorem performAll_new (linkFree : disk.tree.LinkFree)
    (stands : (disk.performAll steps).2.tree.node? place = some .directory) :
    disk.tree.node? place = some .directory ∨ ∃ step ∈ steps, disk.Way step place := by
  induction steps generalizing disk with
  | nil => exact .inl stands
  | cons first rest ih =>
    have new := @perform_new disk place linkFree first
    have performed := performed_nil.step linkFree first
    rw [performAll] at stands
    cases run : disk.perform first with
    | mk result reached =>
      rw [run] at stands new performed
      have here : reached.tree.node? place = some .directory →
          disk.tree.node? place = some .directory ∨ ∃ step ∈ first :: rest, disk.Way step place :=
        fun stands => (new stands).imp_right fun way => ⟨first, List.mem_cons_self, way⟩
      cases result with
      | error problem => exact here stands
      | ok _ =>
        rcases ih (performed.linkFree linkFree) stands with stood | ⟨step, member, way⟩
        · exact here stood
        · exact .inr ⟨step, List.mem_cons_of_mem _ member, way.congr performed.workingDirectory⟩

end New

-- A file that cannot be written leaves directories behind, and the problem is that of its path or of
-- the path of its directory.
theorem perform_file_error (linkFree : disk.tree.LinkFree)
    (failed : disk.perform (.file path content) = (.error problem, after)) :
    Enlarges (disk.Way (.file path content)) disk after ∧
      ∃ where_ cause, problem = .file where_ cause ∧ (where_ = path ∨ path.parent? = some where_) := by
  have grown := makeParentFor_enlarges linkFree path
  obtain ⟨_, reached, made, same⟩ | ⟨cause, reached, made, _, same⟩ | ⟨_, _, _, _, same⟩ :=
    perform_file_cases disk path content
  · cases same.symm.trans failed
    rw [made] at grown
    obtain ⟨parent, cause, up, told⟩ := makeParentFor_error made
    exact ⟨grown, parent, cause, told, .inr up⟩
  · cases same.symm.trans failed
    rw [made] at grown
    exact ⟨grown, path, cause, rfl, .inl rfl⟩
  · cases same.symm.trans failed

theorem Reaches.readText (linkFree : disk.tree.LinkFree) (reaches : disk.Reaches path)
    (stands : disk.tree.node? (disk.placeOf path) = some (.file (.text content))) :
    disk.readText path = .ok content := by
  have found : disk.stat path = .ok (disk.placeOf path, .file (.text content)) := by
    simp [stat, reaches.find linkFree, stands]
  rw [Disk.readText, found]

-- What is written last to a place is what stays there.
theorem lastWritten?_places {earlier later : List Artifact}
    (last : ∀ b ∈ later, disk.targetPlace base b ≠ disk.targetPlace base a) :
    disk.lastWritten? (fileSteps base (earlier ++ a :: later)) (disk.targetPlace base a) =
      some a.content := by
  induction later using List.reverseRecOn with
  | nil =>
    have split : fileSteps base (earlier ++ [a]) =
        fileSteps base earlier ++ [.file (base.join a.path) a.content] := by simp [fileSteps]
    rw [split, lastWritten?_file]
    exact if_pos rfl
  | append_singleton later b ih =>
    have split : fileSteps base (earlier ++ a :: (later ++ [b])) =
        fileSteps base (earlier ++ a :: later) ++ [.file (base.join b.path) b.content] := by
      simp [fileSteps]
    have off : disk.targetPlace base a ≠ disk.placeOf (base.join b.path) := (last b (by simp)).symm
    rw [split, lastWritten?_file, if_neg off]
    exact ih fun c inside => last c (List.mem_append_left _ inside)

-- Different paths below a base lead to different places.
theorem components_of_place (one : a.Named) (two : b.Named)
    (same : disk.targetPlace base a = disk.targetPlace base b) : a.path.components = b.path.components := by
  obtain ⟨names, some_, components⟩ := one
  obtain ⟨others, some_others, otherComponents⟩ := two
  obtain ⟨downward, steps⟩ := Path.downward_of_components some_ components
  obtain ⟨otherDownward, otherSteps⟩ := Path.downward_of_components some_others otherComponents
  obtain ⟨front, last, target⟩ := target_parts base downward (steps ▸ some_)
  obtain ⟨back, ending, second⟩ := target_parts base otherDownward (otherSteps ▸ some_others)
  have parts := (target.place_eq_iff second disk).mp same
  rw [components, otherComponents, ← steps, ← otherSteps, target.order, second.order, parts]

-- Each target holds the last text for its path. Elsewhere nothing is new but directories on the way to
-- the targets that were tried.
structure LastStays (disk after : Disk) (base : Path) (done tried : List Artifact) : Prop where
  holds : ∀ earlier artifact later, done = earlier ++ artifact :: later →
    (∀ other ∈ later, other.path.components ≠ artifact.path.components) →
      after.readText (base.join artifact.path) = .ok artifact.content ∧
        after.tree.node? (disk.targetPlace base artifact) = some (.file (.text artifact.content))
  others : ∀ place, (∀ artifact ∈ done, place ≠ disk.targetPlace base artifact) →
    after.tree.node? place = disk.tree.node? place ∨
      disk.tree.node? place = none ∧ after.tree.node? place = some .directory ∧
        disk.NewFor base tried place

theorem Performed.lastStays {done tried : List Artifact} (linkFree : disk.tree.LinkFree)
    (named : ∀ artifact ∈ done, artifact.Named) (performed : Performed disk after (fileSteps base done))
    (new : ∀ place, after.tree.node? place = some .directory →
      disk.tree.node? place = some .directory ∨ disk.NewFor base tried place) :
    LastStays disk after base done tried := by
  refine ⟨?_, ?_⟩
  · rintro earlier a later rfl last
    have stands := performed.written _ _ (lastWritten?_places fun b inside same =>
      last b inside (components_of_place (named b (by simp [inside])) (named a (by simp)) same))
    refine ⟨?_, stands⟩
    have reaches := performed.reaches (base.join a.path) a.content (by simp [fileSteps])
    refine reaches.readText (performed.linkFree linkFree) ?_
    rw [placeOf_congr performed.workingDirectory]
    exact stands
  · intro place off
    have unwritten : disk.lastWritten? (fileSteps base done) place = none := by
      cases last : disk.lastWritten? (fileSteps base done) place with
      | none => rfl
      | some text =>
        obtain ⟨path, member, rfl⟩ := mem_of_lastWritten? last
        obtain ⟨artifact, inside, same⟩ := List.mem_map.mp member
        cases same
        exact absurd rfl (off artifact inside)
    rcases performed.others place unwritten with same | ⟨none, made⟩
    · exact .inl same
    · rcases new place made with stood | way
      · rw [stood] at none
        cases none
      · exact .inr ⟨none, made, way⟩

theorem newFor_of_way {done : List Artifact} (way : ∃ step ∈ fileSteps base done, disk.Way step place) :
    disk.NewFor base done place := by
  obtain ⟨step, member, way⟩ := way
  obtain ⟨artifact, inside, rfl⟩ := List.mem_map.mp member
  exact ⟨artifact, inside, way⟩

-- A run that succeeds has written all artifacts in order. One that fails has written those before some
-- artifact, and the problem is that of its path or of its directory.
theorem writeArtifacts_direct (linkFree : disk.tree.LinkFree)
    (named : ∀ artifact ∈ artifacts, artifact.Named) :
    match disk.writeArtifacts base artifacts .direct with
    | (.ok written, after) => written = targets base artifacts ∧
        LastStays disk after base artifacts artifacts
    | (.error problem, after) => ∃ done stuck left, artifacts = done ++ stuck :: left ∧
        LastStays disk after base done (done ++ [stuck]) ∧ problem.kind = .fileSystem ∧
        ∃ path cause, problem = .file path cause ∧
          (path = base.join stuck.path ∨ (base.join stuck.path).parent? = some path) := by
  unfold writeArtifacts writeDirect
  simp only
  rw [show (artifacts.map fun artifact => Step.file (base.join artifact.path) artifact.content) =
    fileSteps base artifacts from rfl]
  cases run : disk.performAll (fileSteps base artifacts) with
  | mk result after =>
    cases result with
    | ok _ =>
      refine ⟨rfl, (performed_of_ok linkFree run).lastStays linkFree named fun place stands => ?_⟩
      have standing : (disk.performAll (fileSteps base artifacts)).2.tree.node? place = some .directory := by
        rwa [run]
      exact (performAll_new linkFree standing).imp_right newFor_of_way
    | error problem =>
      obtain ⟨before, step, after_, reached, order, performed, stuck⟩ := performAll_stopped run
      obtain ⟨done, more, rfl, rfl, others⟩ := List.map_eq_append_iff.mp order
      obtain ⟨a, left, rfl, rfl, _⟩ := List.map_eq_cons_iff.mp others
      have sofar := performed_of_ok linkFree performed
      obtain ⟨grown, path, cause, rfl, which⟩ := perform_file_error (sofar.linkFree linkFree) stuck
      refine ⟨done, a, left, rfl, ?_, rfl, path, cause, rfl, which⟩
      refine (sofar.enlarge grown).lastStays linkFree (fun b inside => named b (by simp [inside])) ?_
      intro place stands
      rcases grown.new stands with stood | way
      · have standing : (disk.performAll (fileSteps base done)).2.tree.node? place = some .directory := by
          rw [show fileSteps base done = done.map _ from rfl, performed]
          exact stood
        refine (performAll_new linkFree standing).imp_right fun way => ?_
        obtain ⟨artifact, inside, found⟩ := newFor_of_way way
        exact ⟨artifact, List.mem_append_left _ inside, found⟩
      · obtain ⟨parent, isParent, onWay⟩ := way
        exact .inr ⟨a, by simp, parent, isParent, onWay.congr sofar.workingDirectory⟩

-- The second text replaces the first one, and the third artifact finds a file where it needs a directory.
def blocked : List Artifact := [⟨.entity, ⟨"x"⟩, "1"⟩, ⟨.entity, ⟨"x"⟩, "2"⟩, ⟨.entity, ⟨"x/y"⟩, "3"⟩]

theorem named_blocked : ∀ artifact ∈ blocked, artifact.Named := by
  simp only [blocked, List.forall_mem_cons]
  exact ⟨⟨["x"], by decide, by decide⟩, ⟨["x"], by decide, by decide⟩, ⟨["x", "y"], by decide, by decide⟩,
    List.forall_mem_nil _⟩

theorem writeArtifacts_direct_blocked : ∃ problem after,
    (Disk.mk .empty []).writeArtifacts ⟨""⟩ blocked .direct = (.error problem, after) ∧
      after.tree.node? ["x"] = some (.file (.text "2")) ∧
      ∃ done stuck left, blocked = done ++ stuck :: left ∧
        LastStays ⟨.empty, []⟩ after ⟨""⟩ done (done ++ [stuck]) := by
  have failed : ((Disk.mk .empty []).writeArtifacts ⟨""⟩ blocked .direct).1.toBool = false := by decide +kernel
  have second : ((Disk.mk .empty []).writeArtifacts ⟨""⟩ blocked .direct).2.tree.node? ["x"] =
      some (.file (.text "2")) := by decide +kernel
  have outcome := @writeArtifacts_direct ⟨.empty, []⟩ ⟨""⟩ blocked Tree.linkFree_empty named_blocked
  cases run : (Disk.mk .empty []).writeArtifacts ⟨""⟩ blocked .direct with
  | mk result after =>
    rw [run] at failed second outcome
    cases result with
    | ok written => cases failed
    | error problem =>
      obtain ⟨done, stuck, left, order, stays, _⟩ := outcome
      exact ⟨problem, after, rfl, second, done, stuck, left, order, stays⟩

end Disk
end SpringSkeleton
