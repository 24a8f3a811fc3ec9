import SpringSkeleton.Proofs.FeatureModule.Course
import SpringSkeleton.Proofs.Project.Classes

namespace SpringSkeleton

-- A source file of the package, at the path of a file in the directory of the package.
structure InPackage (root : Path) (settings : Settings) (package file : String) (target : Path)
    (text : String) : Prop where
  declares : Declares package text
  path : target = (Project.directoryOf root settings package).join ⟨file⟩
  parent : target.parent? = some (Project.directoryOf root settings package)

theorem inPackage_join {root : Path} {settings : Settings} {package file text : String}
    (declares : Declares package text)
    (segments : ∀ segment ∈ Name.packageNames package, Path.IsName segment)
    (some_ : Name.packageNames package ≠ []) (isName : Path.IsName file) :
    InPackage root settings package file ((Project.directoryOf root settings package).join ⟨file⟩)
      text :=
  ⟨declares, rfl, Path.parent?_join isName (Project.plain_directoryOf segments some_)⟩

namespace Disk
variable {disk after : Disk} {base : Path} {artifacts : List Artifact} {mode : WriteMode}

theorem writeArtifacts_paths {paths : List Path}
    (written : disk.writeArtifacts base artifacts mode = (.ok paths, after)) :
    paths = targets base artifacts := by
  cases mode with
  | direct =>
    unfold writeArtifacts writeDirect at written
    simp only at written
    split at written <;> cases written
    rfl
  | staged =>
    unfold writeArtifacts writeStaged at written
    simp only at written
    split at written
    · cases written
    · split at written <;> cases written
      rfl

end Disk

namespace FeatureModule
variable {spec : FeatureModule} {settings : Settings} {disk after : Disk} {mode : WriteMode}
variable {kind : ArtifactKind}

theorem packageNames_featurePackage (sound : spec.Sound) :
    Name.packageNames spec.featurePackage = spec.wayNames := by
  have dot : '.' ∈ Text.separators := by decide
  have present : spec.feature ≠ "" := fun none => by
    have busy := (isName_feature sound).busy
    rw [none] at busy
    cases busy
  rw [featurePackage, Name.packageNames_joinPackage,
    Name.packageNames_of_not_mem present (feature_free sound dot)]
  rfl

-- The directory of the feature is that of the package of the feature.
theorem featureDirectory_package (sound : spec.Sound) (settings : Settings) :
    spec.featureDirectory settings =
      Project.directoryOf spec.projectRoot settings spec.featurePackage := by
  have pieces : Name.packagePath spec.featurePackage = Path.ofPieces spec.wayNames :=
    congrArg Path.ofPieces (packageNames_featurePackage sound)
  rw [featureDirectory_eq sound, Project.directoryOf, pieces,
    Path.join_ofPieces spec.wayNames_ne_nil (isName_wayNames sound)]
  rfl

-- Every file of a module begins with the declaration of its package.
theorem artifact_declares (member : kind ∈ ArtifactKind.ofModule) :
    Declares spec.featurePackage (spec.artifact kind).content := by
  cases kind with
  | test => exact absurd member (by decide)
  | _ => exact declares_sourceText _ _

theorem artifact_inPackage (sound : spec.Sound) (settings : Settings)
    (member : kind ∈ ArtifactKind.ofModule) :
    InPackage spec.projectRoot settings spec.featurePackage (kind.fileName spec.entity)
      ((spec.packageDirectory settings).join (spec.artifact kind).path)
      (spec.artifact kind).content := by
  have path := (housed_artifact sound settings kind).path
  rw [fileName_artifact sound] at path
  have names := packageNames_featurePackage sound
  rw [path, featureDirectory_package sound]
  exact inPackage_join (artifact_declares member) (names ▸ isName_wayNames sound)
    (names ▸ spec.wayNames_ne_nil) (isName_fileName sound kind)

theorem writeIn_paths {paths : List Path}
    (written : spec.writeIn disk spec.artifacts settings mode = (.ok paths, after))
    (member : kind ∈ ArtifactKind.ofModule) :
    (spec.packageDirectory settings).join (spec.artifact kind).path ∈ paths := by
  unfold writeIn at written
  split at written
  · cases written
  · rw [Disk.writeArtifacts_paths written]
    exact List.mem_map_of_mem (List.mem_map_of_mem member)

-- What a run that succeeds has written stands in the directory of the feature.
theorem writeIn_placed (sound : spec.Sound) (linkFree : disk.tree.LinkFree) {paths : List Path}
    (written : spec.writeIn disk spec.artifacts settings mode = (.ok paths, after))
    (member : kind ∈ ArtifactKind.ofModule) :
    after.tree.node? (disk.placeOf (spec.featureDirectory settings) ++ [kind.fileName spec.entity]) =
      some (.file (.text (spec.artifact kind).content)) := by
  unfold writeIn Disk.makeDirectoriesFor at written
  cases made : disk.makeDirectories (spec.featureDirectory settings) with
  | mk result reached =>
    cases result with
    | error cause => simp [made] at written
    | ok _ =>
      have houses := houses_made sound linkFree made
      have workingDirectory : reached.workingDirectory = disk.workingDirectory := by
        have enlarges := Disk.makeDirectories_enlarges linkFree (spec.featureDirectory settings)
        rw [made] at enlarges
        exact enlarges.workingDirectory
      simp only [made] at written
      have placed := houses.placed (distinct_artifacts sound) (housed_artifacts sound settings) written
        (List.mem_map_of_mem member)
      rwa [fileName_artifact sound, Disk.placeOf_congr workingDirectory] at placed

end FeatureModule

-- Whatever is generated, each class stands in the directory of the package that it declares.
theorem sources_inPackages :
    (∀ (entity base : String) (fields : Keyed String) (methods : List String) (root : Path)
      (spec : FeatureModule), FeatureModule.build entity fields methods base root = .ok spec →
        ∀ (settings : Settings), ∀ kind ∈ ArtifactKind.ofModule,
          let file := kind.fileName spec.entity
          let target := (spec.packageDirectory settings).join (spec.artifact kind).path
          let text := (spec.artifact kind).content
          InPackage root settings spec.featurePackage file target text ∧
          ∀ (disk after : Disk) (mode : WriteMode) (paths : List Path),
            spec.writeIn disk spec.artifacts settings mode = (.ok paths, after) → target ∈ paths ∧
              (disk.tree.LinkFree → after.tree.node? (disk.placeOf
                (Project.directoryOf root settings spec.featurePackage) ++ [file]) =
                  some (.file (.text text)))) ∧
    ∀ (disk after : Disk) (workspace path : Path) (spec : ProjectSpec) (settings : Settings)
      (title : String) (files : Nat),
      Project.create disk workspace spec settings = (.ok (.created title path files), after) →
        ∀ child className, Project.HasClass spec child className →
          let package := Name.joinPackage spec.basePackage child
          let file := className ++ ".java"
          (∃ target text, InPackage path settings package file target text ∧
            .file target text ∈ Project.plan path (Text.trim spec.name) spec settings) ∧
          disk.performAll (Project.plan path (Text.trim spec.name) spec settings) = (.ok (), after) ∧
          (disk.tree.LinkFree → ∃ text, Declares package text ∧
            after.tree.node? (disk.placeOf (Project.directoryOf path settings package) ++ [file]) =
              some (.file (.text text))) := by
  refine ⟨?_, ?_⟩
  · intro entity base fields methods root spec built settings kind member file target text
    obtain ⟨sound, _, same⟩ := FeatureModule.build_sound built
    subst same
    refine ⟨FeatureModule.artifact_inPackage sound settings member, ?_⟩
    intro disk after mode paths written
    refine ⟨FeatureModule.writeIn_paths written member, fun linkFree => ?_⟩
    rw [← FeatureModule.featureDirectory_package sound]
    exact FeatureModule.writeIn_placed sound linkFree written member
  · intro disk after workspace path spec settings title files made child className hasClass package file
    obtain ⟨_, packages, _, _, run⟩ := Project.create_created made
    obtain ⟨text, declares, planned⟩ :=
      Project.plan_class packages hasClass path (Text.trim spec.name) settings
    refine ⟨⟨_, text, ?_, planned⟩, run, fun linkFree => ?_⟩
    · have checked := Project.checked_package packages hasClass
      refine inPackage_join declares (Name.isName_packageNames checked) ?_
        (Project.isName_classFile packages hasClass)
      rw [Name.packageNames_joinPackage]
      have some_ := Name.packageNames_ne_nil (Project.checked_base packages)
        (Project.base_present packages)
      exact fun none => some_ (List.append_eq_nil_iff.mp none).1
    · exact Project.class_declared packages hasClass linkFree run

theorem orders_built : FeatureModule.build "Order" [] [] "" ⟨""⟩ = .ok Operation.orders := by decide

theorem orders_written : ∃ paths after, Operation.orders.writeIn Operation.site Operation.orders.artifacts
    Operation.shop.settings .direct = (.ok paths, after) := by
  have success : (Operation.orders.writeIn Operation.site Operation.orders.artifacts
      Operation.shop.settings .direct).1.toOption.isSome = true := by decide +kernel
  cases written : Operation.orders.writeIn Operation.site Operation.orders.artifacts
      Operation.shop.settings .direct with
  | mk result after =>
    cases result with
    | error problem => simp [written, Except.toOption] at success
    | ok paths => exact ⟨paths, after, rfl⟩

theorem sources_inPackages_orders :
    (∃ after : Disk, after.tree.node? (Operation.site.placeOf (Project.directoryOf ⟨""⟩
        Operation.shop.settings "order") ++ ["OrderEntity.java"]) =
      some (.file (.text (Operation.orders.artifact .entity).content))) ∧
    ∃ after text, (Project.create Project.noted ⟨"n/.."⟩ Project.withApi .standard).2 = after ∧
      Declares "c.web" text ∧ after.tree.node? (Project.noted.placeOf (Project.directoryOf
        (Project.projectDirectory Project.noted ⟨"n/.."⟩ (Text.trim Project.withApi.name)) .standard "c.web") ++
          ["Api.java"]) = some (.file (.text text)) := by
  obtain ⟨modules, projects⟩ := sources_inPackages
  constructor
  · obtain ⟨paths, after, written⟩ := orders_written
    obtain ⟨_, runs⟩ := modules "Order" "" [] [] ⟨""⟩ Operation.orders orders_built
      Operation.shop.settings .entity (by decide)
    have package : Operation.orders.featurePackage = "order" := by decide
    have placed := (runs Operation.site after .direct paths written).2 Operation.site_linkFree
    rw [package] at placed
    exact ⟨after, placed⟩
  · obtain ⟨title, path, files, after, made, _⟩ := Project.noted_created
    obtain ⟨_, _, same, _⟩ := Project.create_created made
    obtain ⟨_, _, stands⟩ := projects Project.noted after ⟨"n/.."⟩ path Project.withApi .standard title
      files made "web" "Api" (.inr ⟨("web", ["Api"]), List.mem_cons_self, rfl, List.mem_cons_self⟩)
    obtain ⟨text, declares, placed⟩ := stands Project.noted_linkFree
    have package : Name.joinPackage Project.withApi.basePackage "web" = "c.web" := by decide
    rw [package] at declares placed
    exact ⟨after, text, by rw [made], declares, same ▸ placed⟩

end SpringSkeleton
