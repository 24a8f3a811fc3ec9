import SpringSkeleton.Proofs.FeatureModule.Confinement
import SpringSkeleton.Proofs.Name.Packages
import SpringSkeleton.Proofs.Tree.Housed
import SpringSkeleton.Proofs.Tree.Way

namespace SpringSkeleton.FeatureModule
open Disk (Revises)
variable {spec : FeatureModule} {settings : Settings} {disk after : Disk} {mode : WriteMode}

-- The names from the source root to the directory of the feature.
def wayNames (spec : FeatureModule) : List String :=
  Name.packageNames spec.basePackage ++ [spec.feature]

theorem isName_wayNames (sound : spec.Sound) : ∀ name ∈ spec.wayNames, Path.IsName name := by
  intro name member
  rcases List.mem_append.mp member with package | feature
  · exact Name.isName_packageNames sound.package name package
  · rw [List.mem_singleton.mp feature]
    exact isName_feature sound

theorem wayNames_ne_nil (spec : FeatureModule) : spec.wayNames ≠ [] := by simp [wayNames]

theorem wayNames_down (sound : spec.Sound) : ".." ∉ spec.wayNames :=
  fun up => (isName_wayNames sound _ up).down rfl

theorem featureDirectory_eq (sound : spec.Sound) (settings : Settings) :
    spec.featureDirectory settings = (spec.sourceRoot settings).along spec.wayNames := by
  have feature : ∀ name ∈ [spec.feature], Path.IsName name :=
    List.forall_mem_singleton.mpr (isName_feature sound)
  exact Name.join_packagePath_along (spec.sourceRoot settings)
    (Name.isName_packageNames sound.package) feature (by simp)

theorem placeOf_wayNames (sound : spec.Sound) (settings : Settings) (disk : Disk) :
    disk.placeOf (spec.featureDirectory settings) =
      disk.placeOf (spec.sourceRoot settings) ++ spec.wayNames := by
  obtain ⟨steps, absolute⟩ := Path.along_parts (spec.sourceRoot settings) (isName_wayNames sound)
  rw [featureDirectory_eq sound, Disk.placeOf_append absolute steps (wayNames_down sound)]

theorem fileName_artifact (sound : spec.Sound) (kind : ArtifactKind) :
    (spec.artifact kind).fileName = kind.fileName spec.entity := by
  have found : (spec.artifact kind).path.fileName? = some (kind.fileName spec.entity) :=
    Path.fileName?_join (isName_fileName sound kind) ⟨spec.feature⟩
  rw [Artifact.fileName, found, Option.getD_some]

theorem housed_artifact (sound : spec.Sound) (settings : Settings) (kind : ArtifactKind) :
    (spec.artifact kind).Housed (spec.packageDirectory settings) (spec.featureDirectory settings) := by
  have isName := isName_fileName sound kind
  refine ⟨by rwa [fileName_artifact sound], ?_⟩
  rw [fileName_artifact sound]
  exact (Path.join_assoc _ (isName_feature sound).relative isName.relative).symm

theorem housed_artifacts (sound : spec.Sound) (settings : Settings) : ∀ artifact ∈ spec.artifacts,
    artifact.Housed (spec.packageDirectory settings) (spec.featureDirectory settings) := by
  intro artifact member
  obtain ⟨kind, _, rfl⟩ := List.mem_map.mp member
  exact housed_artifact sound settings kind

theorem fileName_ne_stagingName (kind : ArtifactKind) (entity name : String) :
    kind.fileName entity ≠ Disk.stagingName name := by
  intro same
  have java := endsWith_java (kind.typeName entity)
  rw [show kind.typeName entity ++ ".java" = kind.fileName entity from rfl, same,
    Disk.stagingName_hidden] at java
  cases java

theorem distinct_artifacts (sound : spec.Sound) : Disk.Distinct spec.artifacts := by
  refine ⟨?_, ?_⟩
  · rw [artifacts, List.map_map]
    refine List.Nodup.map_on ?_ (by decide)
    intro first _ second _ same
    simp only [Function.comp_apply, fileName_artifact sound] at same
    exact fileName_injective same
  · intro a one b two same
    obtain ⟨first, _, rfl⟩ := List.mem_map.mp one
    obtain ⟨second, _, rfl⟩ := List.mem_map.mp two
    rw [fileName_artifact sound, fileName_artifact sound] at same
    exact fileName_ne_stagingName _ _ _ same

-- What a run fails with, and what it leaves at the places that it touches.
def course (spec : FeatureModule) (disk : Disk) (settings : Settings) (mode : WriteMode) :
    Option Problem × Tree.Edits :=
  let directory := spec.featureDirectory settings
  match directory.fault? with
  | some cause => (some (.file directory cause), [])
  | none =>
    match disk.wayUntilHindered (spec.sourceRoot settings) spec.wayNames with
    | (made, some cause) => (some (.file directory cause), Disk.directoryEdits made)
    | (made, none) =>
      let done := untilHindered (disk.artifactHindrance? directory mode) spec.artifacts
      (done.2, Disk.artifactEdits (disk.placeOf directory) mode done ++ Disk.directoryEdits made)

-- The names in a directory that a way leads to are no places of the way.
theorem alikeIn_way {root directory : Path} {names : List String} {made : List Location}
    (place : disk.placeOf directory = disk.placeOf root ++ names)
    (order : made = (disk.placeOf root).way names)
    (revises : Revises (Disk.directoryEdits made) disk after) : Disk.AlikeIn directory disk after := by
  rw [order] at revises
  refine ⟨revises.workingDirectory, fun name => ?_⟩
  rw [place, List.append_assoc, Disk.untouched_below revises (by simp)]

theorem featureDirectory_present (sound : spec.Sound) (settings : Settings) :
    (spec.featureDirectory settings).text ≠ "" := by
  refine Path.text_of_steps ?_
  rw [featureDirectory_eq sound, (Path.along_parts _ (isName_wayNames sound)).1]
  simp [wayNames]

-- Once it has been made, files can be put into the directory of the feature.
theorem houses_made (sound : spec.Sound) (linkFree : disk.tree.LinkFree)
    (made : disk.makeDirectories (spec.featureDirectory settings) = (.ok (), after)) :
    after.Houses (spec.featureDirectory settings) := by
  have enlarges := Disk.makeDirectories_enlarges linkFree (spec.featureDirectory settings)
  have walked : (disk.makeDirectories (spec.featureDirectory settings)).1 = .ok () → _ :=
    Disk.makeDirectories_leads linkFree
  rw [made] at enlarges walked
  refine ⟨enlarges.grows.linkFree linkFree, ?_, Path.ending_join_name (isName_feature sound) _, walked rfl⟩
  refine Path.fault?_eq_none_iff.mp (Option.eq_none_iff_forall_not_mem.mpr fun cause fault => ?_)
  rw [Disk.makeDirectories_refused (featureDirectory_present sound settings) fault disk] at made
  cases made

theorem writeIn_course (sound : spec.Sound) (linkFree : disk.tree.LinkFree) (closed : disk.tree.Closed)
    (source : disk.tree.Leads (disk.start (spec.sourceRoot settings)) (spec.sourceRoot settings).steps)
    (mode : WriteMode) :
    (spec.writeIn disk spec.artifacts settings mode).1 =
        (outcomeOf (spec.course disk settings mode).1).map
          (fun _ => Disk.targets (spec.packageDirectory settings) spec.artifacts) ∧
      Revises (spec.course disk settings mode).2 disk
        (spec.writeIn disk spec.artifacts settings mode).2 := by
  have directory := featureDirectory_eq sound settings
  unfold writeIn course
  simp only
  cases fault : (spec.featureDirectory settings).fault? with
  | some cause =>
    rw [Disk.makeDirectoriesFor, Disk.makeDirectories_refused
      (featureDirectory_present sound settings) fault disk]
    exact ⟨rfl, .refl⟩
  | none =>
    have admissible := Path.fault?_eq_none_iff.mp fault
    have makes := Disk.makeDirectories_way linkFree closed source spec.wayNames_ne_nil
      (isName_wayNames sound) (directory ▸ admissible)
    rw [← directory] at makes
    cases found : disk.wayUntilHindered (spec.sourceRoot settings) spec.wayNames with
    | mk made stop =>
      cases run : disk.makeDirectories (spec.featureDirectory settings) with
      | mk result reached =>
        rw [run] at makes
        obtain ⟨outcome, revises⟩ := makes
        rw [found] at outcome revises
        cases stop with
        | some cause =>
          cases outcome
          simp only [Disk.makeDirectoriesFor, run]
          exact ⟨rfl, revises⟩
        | none =>
          cases outcome
          simp only [Disk.makeDirectoriesFor, run]
          have all := untilHindered_all (congrArg Prod.snd found)
          rw [show (untilHindered _ _).1 = made from congrArg Prod.fst found] at all
          have alike := alikeIn_way (placeOf_wayNames sound settings disk) all revises
          have houses := houses_made sound linkFree run
          have written := houses.writeArtifacts (distinct_artifacts sound)
            (housed_artifacts sound settings) mode
          rw [Disk.artifactHindrance?_alike alike, Disk.placeOf_congr revises.workingDirectory] at written
          exact ⟨written.1, revises.trans written.2⟩

end SpringSkeleton.FeatureModule
