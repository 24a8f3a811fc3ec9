import SpringSkeleton.Proofs.Tree.Refinement
import SpringSkeleton.Proofs.Tree.Stopped

namespace SpringSkeleton.Disk
variable {disk now after : Disk} {base : Path} {front back : List String} {last : String}
variable {a : Artifact} {artifacts rest : List Artifact} {written : List Path}

theorem stage_ok {target : Path} {content : String} (done : disk.stage target content = (.ok (), after)) :
    ∃ made, disk.makeParentFor target = (.ok (), made) ∧
      made.writeFile (stagingPath target) (.text content) = .ok after := by
  unfold Disk.stage at done
  split at done
  · cases done
  · rename_i made parents
    split at done
    · cases done
    · split at done
      · rename_i last written
        cases done
        exact ⟨made, parents, written⟩
      · cases done

-- An artifact that is staged has a short enough path to wait under, where the base does not lead through.
theorem stage_requires (linkFree : now.tree.LinkFree)
    (same : now.workingDirectory = disk.workingDirectory) (lands : Lands base a front last)
    (done : now.stage (base.join a.path) a.content = (.ok (), after)) :
    after.tree.LinkFree ∧ after.workingDirectory = disk.workingDirectory ∧
      (stagingPath (base.join a.path)).text.utf8ByteSize ≤ longestPath ∧
      ¬ disk.OnWay base (disk.stagingPlace base a) := by
  obtain ⟨made, parents, written⟩ := stage_ok done
  obtain ⟨parent, up, isParent, _⟩ := Path.withFileName_parts lands.fileName (stagingName last)
  have making : now.makeDirectoriesFor parent = (.ok (), made) := by rwa [makeParentFor, up] at parents
  have grown := makeDirectoriesFor_enlarges linkFree parent
  have leads := makeDirectoriesFor_leads linkFree making
  rw [making] at grown
  have free : made.tree.LinkFree := grown.grows.linkFree linkFree
  have kept : made.workingDirectory = disk.workingDirectory := grown.workingDirectory.trans same
  obtain ⟨reaches, open_, rfl⟩ := writeFile_ok free written
  refine ⟨free.put reaches.placeOf_ne_nil _, kept, reaches.admissible.short, fun onWay => ?_⟩
  have initial : base.steps <+: parent.steps := by
    rw [isParent.steps, lands.steps, ← List.append_assoc, List.dropLast_concat]
    exact List.prefix_append base.steps front
  have begins : Begins base parent :=
    ⟨(isParent.isAbsolute.trans lands.isAbsolute).symm, initial⟩
  apply open_
  rw [placeOf_congr kept]
  exact stands_onWay leads (begins.onWay (onWay.congr kept.symm))

theorem stageAll_requires (linkFree : now.tree.LinkFree)
    (same : now.workingDirectory = disk.workingDirectory)
    (lands : ∀ a ∈ rest, ∃ front last, Lands base a front last) {behind : List Path}
    (done : now.stageAll base behind rest = (.ok (), after)) :
    after.tree.LinkFree ∧ after.workingDirectory = disk.workingDirectory ∧
      disk.Stageable base rest := by
  induction rest generalizing now behind with
  | nil =>
    cases done
    exact ⟨linkFree, same, List.forall_mem_nil _, List.forall_mem_nil _, List.forall_mem_nil _⟩
  | cons a rest ih =>
    obtain ⟨⟨front, last, first⟩, others⟩ := List.forall_mem_cons.mp lands
    rw [Disk.stageAll] at done
    cases staging : now.stage (base.join a.path) a.content with
    | mk result made =>
      rw [staging] at done
      cases result with
      | error problem => cases done
      | ok _ =>
        obtain ⟨free, kept, short, aside⟩ := stage_requires linkFree same first staging
        obtain ⟨lastFree, lastKept, further⟩ := ih free kept others done
        exact ⟨lastFree, lastKept, lands, List.forall_mem_cons.mpr ⟨short, further.short⟩,
          List.forall_mem_cons.mpr ⟨aside, further.aside⟩⟩

theorem renameFile_moved {source target : Path} (linkFree : disk.tree.LinkFree)
    (plain : (Route.ofText source.text).ending = .plain)
    (apart : disk.placeOf source ≠ disk.placeOf target)
    (renamed : disk.renameFile source target = .ok after) :
    ∃ content, disk.tree.node? (disk.placeOf source) = some (.file content) ∧
      after = disk.withTree
        ((disk.tree.drop (disk.placeOf source)).put (disk.placeOf target) (.file content)) := by
  have names := (namesFile_of_renameFile renamed).plain
  have open_ : (Route.ofText source.text).ending ≠ .dots := by simp [plain]
  have targetOpen : (Route.ofText target.text).ending ≠ .dots := by simp [names]
  obtain ⟨front, name, order, isName⟩ := Path.steps_of_ending open_
  obtain ⟨back, ending, targetOrder, targetName⟩ := Path.steps_of_ending targetOpen
  unfold Disk.renameFile at renamed
  cases spotted : disk.find false source with
  | error problem => simp [spotted] at renamed
  | ok spot =>
    obtain ⟨_, _, _, rfl⟩ := (find_name linkFree open_ order isName.down).mp spotted
    cases entered : disk.findOn false target (Route.ofText target.text).holder with
    | error problem => simp [spotted, entered] at renamed
    | ok holder =>
      cases stands : disk.tree.node? (disk.placeOf source) with
      | none => simp [spotted, entered, names, stands] at renamed
      | some node =>
        cases node with
        | directory => simp [spotted, entered, names, stands] at renamed
        | link goal => exact absurd stands (linkFree _ goal)
        | file content =>
          refine ⟨content, rfl, ?_⟩
          cases found : disk.find false target with
          | error problem => simp [spotted, entered, names, stands, found] at renamed
          | ok goal =>
            obtain ⟨_, _, _, rfl⟩ := (find_name linkFree targetOpen targetOrder targetName.down).mp found
            cases there : disk.tree.node? (disk.placeOf target) with
            | none => simpa [spotted, entered, names, stands, found, there, apart] using renamed.symm
            | some node =>
              cases node with
              | directory => simp [spotted, entered, names, stands, found, there] at renamed
              | file old => simpa [spotted, entered, names, stands, found, there, apart] using renamed.symm
              | link goal => exact absurd there (linkFree _ goal)

theorem Lands.stagingPlain (lands : Lands base a front last) :
    (Route.ofText (stagingPath (base.join a.path)).text).ending = .plain := by
  obtain ⟨parent, _, _, beside⟩ := Path.withFileName_parts lands.fileName (stagingName last)
  rw [stagingPath_eq lands.fileName, beside]
  exact Path.ending_join_name (isName_stagingName lands.isName) parent

-- What moves leaves its hidden place empty, so nothing is found there when the path comes again.
theorem moveAll_requires (stageable : disk.Stageable base artifacts) (each : ∀ b ∈ rest, b ∈ artifacts)
    (linkFree : now.tree.LinkFree) (same : now.workingDirectory = disk.workingDirectory)
    (done : now.moveAll (targets base rest) = (.ok (), after)) :
    (∀ b ∈ rest, now.tree.node? (disk.stagingPlace base b) ≠ none) ∧
      (rest.map fun artifact => artifact.path.components).Nodup := by
  induction rest generalizing now with
  | nil => exact ⟨List.forall_mem_nil _, List.nodup_nil⟩
  | cons a rest ih =>
    obtain ⟨member, others⟩ := List.forall_mem_cons.mp each
    obtain ⟨front, last, lands⟩ := stageable.lands a member
    obtain ⟨somewhere, hiddenSomewhere⟩ := stageable.somewhere member
    have split : targets base (a :: rest) = base.join a.path :: targets base rest := rfl
    rw [split, Disk.moveAll] at done
    cases renamed : now.renameFile (stagingPath (base.join a.path)) (base.join a.path) with
    | error problem =>
      rw [renamed] at done
      cases done
    | ok moved =>
      have later : moved.moveAll (targets base rest) = (.ok (), after) := by rwa [renamed] at done
      have target : now.placeOf (base.join a.path) = disk.targetPlace base a := placeOf_congr same _
      have hidden : now.placeOf (stagingPath (base.join a.path)) = disk.stagingPlace base a :=
        placeOf_congr same _
      have apart : now.placeOf (stagingPath (base.join a.path)) ≠ now.placeOf (base.join a.path) := by
        rw [hidden, target]
        exact (stageable.hidden member member).symm
      obtain ⟨content, stands, whole⟩ := renameFile_moved linkFree lands.stagingPlain apart renamed
      rw [hidden, target] at whole
      rw [hidden] at stands
      have movedFree : moved.tree.LinkFree := whole ▸ (linkFree.drop hiddenSomewhere).put somewhere _
      have movedSame : moved.workingDirectory = disk.workingDirectory := whole ▸ same
      obtain ⟨present, once⟩ := ih others movedFree movedSame later
      have further : ∀ b ∈ rest, disk.stagingPlace base b ≠ disk.stagingPlace base a ∧
          now.tree.node? (disk.stagingPlace base b) ≠ none := by
        intro b inside
        have there := present b inside
        rw [whole, withTree_tree, Tree.node?_move _ hiddenSomewhere somewhere,
          if_neg (stageable.hidden member (others b inside)).symm] at there
        split at there
        · exact absurd rfl there
        · rename_i off
          exact ⟨off, there⟩
      refine ⟨List.forall_mem_cons.mpr ⟨by simp [stands], fun b inside => (further b inside).2⟩, ?_⟩
      refine List.nodup_cons.mpr ⟨fun again => ?_, once⟩
      obtain ⟨b, inside, components⟩ := List.mem_map.mp again
      exact (further b inside).1
        ((stageable.staging_eq_iff (others b inside) member).mpr components)

-- What is written last for a path is what stays.
theorem lastWritten?_fileSteps {earlier later : List Artifact}
    (lands : ∀ b ∈ earlier ++ a :: later, ∃ front last, Lands base b front last)
    (last : ∀ b ∈ later, b.path.components ≠ a.path.components) :
    disk.lastWritten? (fileSteps base (earlier ++ a :: later)) (disk.targetPlace base a) =
      some a.content := by
  refine lastWritten?_places fun b inside same => ?_
  obtain ⟨_, _, first⟩ := lands a (by simp)
  obtain ⟨_, _, second⟩ := lands b (by simp [inside])
  exact last b inside ((second.target_eq_iff first disk).mp same)

theorem writeDirect_ok (done : disk.writeDirect base artifacts = (.ok written, after)) :
    written = targets base artifacts ∧ disk.performAll (fileSteps base artifacts) = (.ok (), after) := by
  unfold writeDirect at done
  simp only at done
  split at done
  · cases done
  · rename_i reached run
    cases done
    exact ⟨rfl, run⟩

theorem writeStaged_ok (done : disk.writeStaged base artifacts = (.ok written, after)) :
    ∃ reached, disk.stageAll base [] artifacts = (.ok (), reached) ∧
      reached.moveAll (targets base artifacts) = (.ok (), after) := by
  unfold writeStaged at done
  split at done
  · cases done
  · rename_i reached staging
    split at done
    · cases done
    · rename_i last moving
      cases done
      exact ⟨reached, staging, moving⟩

-- Directly, the last text for a path stays. By stages, a path that comes again finds nothing to move, so
-- the run fails; it also fails when an artifact cannot wait, because its hidden path is too long or is
-- that of a directory on the way of the base.
theorem writeArtifacts_refines (linkFree : disk.tree.LinkFree) (visible : disk.tree.Visible)
    (ordinary : ∀ artifact ∈ artifacts, artifact.Ordinary)
    (direct : disk.writeArtifacts base artifacts .direct = (.ok written, after)) :
    let fits := (artifacts.map fun artifact => artifact.path.components).Nodup ∧
      ∀ artifact ∈ artifacts,
        (stagingPath (base.join artifact.path)).text.utf8ByteSize ≤ longestPath ∧
          ¬ disk.OnWay base (disk.stagingPlace base artifact)
    (∀ earlier artifact later, artifacts = earlier ++ artifact :: later →
      (∀ other ∈ later, other.path.components ≠ artifact.path.components) →
      after.tree.node? (disk.targetPlace base artifact) = some (.file (.text artifact.content))) ∧
    (fits → disk.writeArtifacts base artifacts .staged = (.ok written, after)) ∧
    (¬ fits → ∃ problem left,
      disk.writeArtifacts base artifacts .staged = (.error problem, left)) := by
  intro fits
  obtain ⟨rfl, run⟩ := writeDirect_ok direct
  have performed := performed_of_ok linkFree run
  have lands : ∀ a ∈ artifacts, ∃ front last, Lands base a front last := by
    intro a member
    exact lands_of_ordinary (ordinary a member)
      (performed.reaches _ a.content (List.mem_map.mpr ⟨a, member, rfl⟩))
  refine ⟨?_, ?_, ?_⟩
  · rintro earlier a later rfl last
    exact performed.written _ _ (lastWritten?_fileSteps lands last)
  · rintro ⟨once, allowed⟩
    have stageable : disk.Stageable base artifacts :=
      ⟨lands, fun a member => (allowed a member).1, fun a member => (allowed a member).2⟩
    have unused : ∀ a ∈ artifacts, disk.tree.node? (disk.stagingPlace base a) = none := by
      intro a member
      obtain ⟨front, last, first⟩ := lands a member
      by_contra stands
      rw [stagingPlace, first.stagingPlace, ← List.append_assoc] at stands
      have shown := visible _ _ stands
      rw [stagingName_hidden] at shown
      cases shown
    obtain ⟨reached, staging, mirrors⟩ :=
      (mirrors_begin linkFree unused).stageAll stageable (fun _ member => member) run []
    have moving := mirrors.moveAll stageable once
    rw [List.nil_append] at moving
    simp only [writeArtifacts, writeStaged, staging, moving]
  · intro misfits
    cases result : disk.writeArtifacts base artifacts .staged with
    | mk outcome left =>
      cases outcome with
      | error problem => exact ⟨problem, left, rfl⟩
      | ok also =>
        obtain ⟨reached, staging, moving⟩ := writeStaged_ok result
        obtain ⟨free, kept, stageable⟩ := stageAll_requires linkFree rfl lands staging
        have once := (moveAll_requires stageable (fun _ member => member) free kept moving).2
        exact absurd ⟨once, fun a member => ⟨stageable.short a member, stageable.aside a member⟩⟩ misfits

-- Two paths, and one path that comes twice.
def pair : List Artifact := [⟨.entity, ⟨"b/x"⟩, "1"⟩, ⟨.dto, ⟨"y"⟩, "2"⟩]

def twice : List Artifact := [⟨.entity, ⟨"x"⟩, "1"⟩, ⟨.entity, ⟨"x"⟩, "2"⟩]

theorem visible_empty : Tree.empty.Visible := by
  intro place name stands
  simp [Tree.node?, Tree.empty] at stands

theorem ordinary_pair : ∀ artifact ∈ pair, artifact.Ordinary := by
  simp only [pair, List.forall_mem_cons]
  exact ⟨⟨["b", "x"], by decide, by decide⟩, ⟨["y"], by decide, by decide⟩, List.forall_mem_nil _⟩

theorem ordinary_twice : ∀ artifact ∈ twice, artifact.Ordinary := by
  simp only [twice, List.forall_mem_cons]
  exact ⟨⟨["x"], by decide, by decide⟩, ⟨["x"], by decide, by decide⟩, List.forall_mem_nil _⟩

theorem writeArtifacts_refines_pair : ∃ written after,
    (Disk.mk .empty []).writeArtifacts ⟨""⟩ pair .direct = (.ok written, after) ∧
      (Disk.mk .empty []).writeArtifacts ⟨""⟩ pair .staged = (.ok written, after) ∧
      after.tree.node? ["b", "x"] = some (.file (.text "1")) := by
  have succeeded : ((Disk.mk .empty []).writeArtifacts ⟨""⟩ pair .direct).1.toBool = true := by decide +kernel
  cases run : (Disk.mk .empty []).writeArtifacts ⟨""⟩ pair .direct with
  | mk result after =>
    rw [run] at succeeded
    cases result with
    | error problem => cases succeeded
    | ok written =>
      obtain ⟨kept, same, _⟩ :=
        writeArtifacts_refines Tree.linkFree_empty visible_empty ordinary_pair run
      have short : ∀ artifact ∈ pair, (stagingPath ((⟨""⟩ : Path).join artifact.path)).text.utf8ByteSize ≤
          longestPath := by decide +kernel
      refine ⟨written, after, rfl, same ⟨by decide, fun artifact member => ⟨short artifact member, ?_⟩⟩, ?_⟩
      · -- no step of the base leads anywhere
        rintro ⟨front, name, initial, _⟩
        have none : (⟨""⟩ : Path).steps = [] := by decide +kernel
        simp [none] at initial
      · have place : (Disk.mk .empty []).targetPlace ⟨""⟩ ⟨.entity, ⟨"b/x"⟩, "1"⟩ = ["b", "x"] := by
          decide +kernel
        rw [← place]
        exact kept [] _ _ rfl (by decide)

-- Where direct writing keeps the last text, writing by stages fails on a path that comes again.
theorem writeArtifacts_repeated : ¬ ∀ (disk : Disk) (base : Path) (artifacts : List Artifact),
    disk.tree.LinkFree → disk.tree.Visible → (∀ artifact ∈ artifacts, artifact.Ordinary) →
      ∀ written after, disk.writeArtifacts base artifacts .direct = (.ok written, after) →
        disk.writeArtifacts base artifacts .staged = (.ok written, after) := by
  intro refines
  have succeeded : ((Disk.mk .empty []).writeArtifacts ⟨""⟩ twice .direct).1.toBool = true := by decide +kernel
  have failed : ((Disk.mk .empty []).writeArtifacts ⟨""⟩ twice .staged).1.toBool = false := by decide +kernel
  cases run : (Disk.mk .empty []).writeArtifacts ⟨""⟩ twice .direct with
  | mk result after =>
    rw [run] at succeeded
    cases result with
    | error problem => cases succeeded
    | ok written =>
      rw [refines _ _ _ Tree.linkFree_empty visible_empty ordinary_twice written after run] at failed
      cases failed

end SpringSkeleton.Disk
