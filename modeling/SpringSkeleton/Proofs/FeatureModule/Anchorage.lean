import SpringSkeleton.Proofs.FeatureModule.Order
import SpringSkeleton.Proofs.FeatureModule.Placement

namespace SpringSkeleton

namespace Name

-- Names that are joined to a package come apart again at every dot, also at a dot of a name.
theorem packageNames_joined (names : List String) :
    packageNames (Text.joined '.' names) = names.flatMap packageNames := by
  induction names with
  | nil => decide
  | cons name rest ih =>
    cases rest with
    | nil => simp [Text.joined, Text.glue]
    | cons next more =>
      rw [packageNames, Text.pieces_of_cut (Text.joined_cons name next more), List.filter_append]
      exact congrArg (packageNames name ++ ·) ih

theorem packageNames_joined_iff {names : List String} :
    packageNames (Text.joined '.' names) = names ↔ ∀ name ∈ names, name ≠ "" ∧ '.' ∉ name.toList := by
  constructor
  · intro same name member
    rw [← same] at member
    obtain ⟨piece, present⟩ := List.mem_filter.mp member
    exact ⟨by simpa using present, Text.not_mem_of_mem_pieces piece⟩
  · intro each
    have whole : ∀ name ∈ names, packageNames name = [name] := fun name member =>
      packageNames_of_not_mem (each name member).1 (each name member).2
    rw [packageNames_joined, List.flatMap_congr whole, List.flatMap_singleton']

end Name

namespace FeatureModule
variable {spec : FeatureModule} {settings : Settings} {disk : Disk}

-- The parent is not always the path of the package directory, which ends in a slash when the package
-- is empty, but it leads to the same place.
theorem featureDirectory_parent (sound : spec.Sound) (settings : Settings) (disk : Disk) :
    ∃ parent, (spec.featureDirectory settings).parent? = some parent ∧
      disk.placeOf parent =
        disk.placeOf (spec.sourceRoot settings) ++ Name.packageNames spec.basePackage ∧
      disk.placeOf (spec.featureDirectory settings) = disk.placeOf parent ++ [spec.feature] := by
  have each := isName_wayNames sound
  obtain ⟨steps, absolute⟩ := Path.along_parts (spec.sourceRoot settings) each
  rw [← featureDirectory_eq sound] at steps absolute
  cases up : (spec.featureDirectory settings).parent? with
  | none =>
    rw [Path.steps_of_parent?_none up] at steps
    exact absurd (List.append_eq_nil_iff.mp steps.symm).2 spec.wayNames_ne_nil
  | some parent =>
    have isParent := Path.parent?_isParent up
    have place : disk.placeOf parent =
        disk.placeOf (spec.sourceRoot settings) ++ Name.packageNames spec.basePackage := by
      refine Disk.placeOf_append (isParent.isAbsolute.trans absolute) ?_ ?_ disk
      · rw [isParent.steps, steps, wayNames, ← List.append_assoc, List.dropLast_concat]
      · exact fun climbs => wayNames_down sound (List.mem_append_left _ climbs)
    refine ⟨parent, rfl, place, ?_⟩
    rw [place, placeOf_wayNames sound, wayNames, List.append_assoc]

end FeatureModule

namespace Operation
open FeatureModule Disk
variable {disk : Disk} {workspace : Workspace} {request : ModuleRequest}
variable {root : Path} {settings : Settings} {package : String}

theorem basePackage_anchor (linkFree : disk.tree.LinkFree)
    (found : Project.basePackage disk root settings = .ok package) :
    ∃ anchor, Project.firstAnchor? settings disk
        (disk.placeOf (root.join ⟨settings.sourceRoot⟩)) = some anchor ∧
      package = Project.packageOf anchor := by
  cases stands : disk.stat (root.join ⟨settings.sourceRoot⟩) with
  | error problem => simp [Project.basePackage, stands] at found
  | ok spot =>
    obtain ⟨place, node⟩ := spot
    cases node with
    | file content => simp [Project.basePackage, stands] at found
    | link target => simp [Project.basePackage, stands] at found
    | directory =>
      obtain ⟨_, _, rfl⟩ := stat_directory linkFree stands
      obtain ⟨anchor, first, package, _⟩ := (Project.basePackage_ok_iff stands).mp found
      exact ⟨anchor, first, package⟩

-- A run that does not fail has a plan and has written all of it.
theorem enhance_success (success : Status.isFailure (enhance workspace disk request).1 = false) :
    ∃ spec paths, planModule workspace disk request = .ok spec ∧
      spec.writeIn disk spec.artifacts workspace.settings (.ofSettings workspace.settings) =
        (.ok paths, (enhance workspace disk request).2) ∧
      (enhance workspace disk request).1 = moduleStatus workspace.settings spec := by
  cases planned : planModule workspace disk request with
  | error problem =>
    rw [enhance_unplanned planned, isFailure_failure] at success
    cases success
  | ok spec =>
    cases written : spec.writeIn disk spec.artifacts workspace.settings
        (.ofSettings workspace.settings) with
    | mk result after =>
      cases result with
      | error problem =>
        simp [enhance, addModule, planned, written, report, isFailure_failure] at success
      | ok paths => exact ⟨spec, paths, rfl, by simp [enhance, addModule, planned, written, report]⟩

-- The directory of the module and that of the application class have the same parent as long as the
-- way between it and the source root survives being a package.
theorem enhance_beside_anchor (linkFree : disk.tree.LinkFree) (workspace : Workspace)
    (request : ModuleRequest)
    (success : Status.isFailure (enhance workspace disk request).1 = false) :
    let settings := workspace.settings
    let source := disk.placeOf ((projectRoot workspace request).join ⟨settings.sourceRoot⟩)
    ∃ spec anchor parent, planModule workspace disk request = .ok spec ∧
      (Project.AnchorAt settings disk source anchor ∧ ∀ other,
        Project.AnchorAt settings disk source other →
          other = anchor ∨ Location.before anchor other = true) ∧
      (enhance workspace disk request).1 =
        Status.domainEnhanced spec.entity spec.featurePackage (spec.featureDirectory settings) ∧
      (spec.featureDirectory settings).parent? = some parent ∧
      disk.placeOf parent = source ++ anchor.dropLast.flatMap Name.packageNames ∧
      (disk.placeOf parent = source ++ anchor.dropLast ↔
        ∀ name ∈ anchor.dropLast, name ≠ "" ∧ '.' ∉ name.toList) ∧
      ∀ kind ∈ ArtifactKind.ofModule, (enhance workspace disk request).2.tree.node?
          (disk.placeOf parent ++ [spec.feature, kind.fileName spec.entity]) =
        some (.file (.text (spec.artifact kind).content)) := by
  intro settings source
  obtain ⟨spec, paths, planned, written, status⟩ := enhance_success success
  obtain ⟨sound, _⟩ := planModule_sound linkFree planned
  obtain ⟨_, found, built⟩ := planModule_built planned
  obtain ⟨_, base, root⟩ := build_sound built
  obtain ⟨anchor, first, package⟩ := basePackage_anchor linkFree (base ▸ found)
  obtain ⟨parent, up, place, inner⟩ := featureDirectory_parent sound settings disk
  have sourceRoot : disk.placeOf (spec.sourceRoot settings) = source := by
    rw [FeatureModule.sourceRoot, root]
  rw [sourceRoot, package, Project.packageOf] at place
  refine ⟨spec, anchor, parent, planned, Project.firstAnchor?_eq_some_iff.mp first, status, up, ?_, ?_, ?_⟩
  · rw [place, Name.packageNames_joined]
  · rw [place, List.append_cancel_left_eq, Name.packageNames_joined_iff]
  · intro kind member
    have placed := writeIn_placed sound linkFree written member
    rwa [inner, List.append_assoc] at placed

-- A project whose application class stands two packages below the source root.
def packagedSite : Disk :=
  ⟨(((Tree.empty.put ["s"] .directory).put ["s", "com"] .directory).put
    ["s", "com", "acme"] .directory).put ["s", "com", "acme", "Application.java"] (.file (.text "")), []⟩

theorem packagedSite_anchor :
    Project.firstAnchor? shop.settings packagedSite ["s"] = some ["com", "acme", "Application.java"] := by
  decide +kernel

theorem enhance_beside_anchor_orders :
    Status.isFailure (enhance shop packagedSite orderRequest).1 = false ∧ ∃ spec parent,
      planModule shop packagedSite orderRequest = .ok spec ∧
      Project.AnchorAt shop.settings packagedSite ["s"] ["com", "acme", "Application.java"] ∧
      (spec.featureDirectory shop.settings).parent? = some parent ∧
      packagedSite.placeOf parent = ["s", "com", "acme"] ∧
      (enhance shop packagedSite orderRequest).2.tree.node?
          ["s", "com", "acme", spec.feature, ArtifactKind.service.fileName spec.entity] =
        some (.file (.text (spec.artifact .service).content)) := by
  have linkFree : packagedSite.tree.LinkFree := Tree.linkFree_of_entries (by decide)
  have success : Status.isFailure (enhance shop packagedSite orderRequest).1 = false := by
    decide +kernel
  have source : packagedSite.placeOf ((projectRoot shop orderRequest).join ⟨shop.settings.sourceRoot⟩) =
      ["s"] := by
    decide +kernel
  obtain ⟨spec, anchor, parent, planned, first, _, up, _, beside, placed⟩ :=
    enhance_beside_anchor linkFree shop orderRequest success
  rw [source] at first beside
  have same : anchor = ["com", "acme", "Application.java"] := Option.some.inj
    ((Project.firstAnchor?_eq_some_iff.mpr first).symm.trans packagedSite_anchor)
  rw [same] at first beside
  have place : packagedSite.placeOf parent = ["s", "com", "acme"] := beside.mpr (by decide)
  have service := placed .service (by decide)
  rw [place] at service
  exact ⟨success, spec, parent, planned, first.1, up, place, service⟩

-- A project whose application class stands in one directory with a dot in its name.
def dottedSite : Disk :=
  ⟨((Tree.empty.put ["s"] .directory).put ["s", "com.acme"] .directory).put
    ["s", "com.acme", "Application.java"] (.file (.text "")), []⟩

def dottedOrders : FeatureModule := ⟨"Order", [], [], "com.acme", ⟨""⟩⟩

-- The module goes to a directory `acme` in a new directory `com`, and not beside the class.
theorem enhance_apart_from_anchor :
    dottedSite.tree.LinkFree ∧
      (planModule shop dottedSite orderRequest).toOption = some dottedOrders ∧
      Project.firstAnchor? shop.settings dottedSite ["s"] = some ["com.acme", "Application.java"] ∧
      (dottedOrders.featureDirectory shop.settings).parent? = some ⟨"s/com/acme"⟩ ∧
      dottedSite.placeOf ⟨"s/com/acme"⟩ = ["s", "com", "acme"] ∧
      Status.isFailure (enhance shop dottedSite orderRequest).1 = false ∧
      (enhance shop dottedSite orderRequest).2.tree.node? ["s", "com.acme", "order"] = none ∧
      (enhance shop dottedSite orderRequest).2.tree.node? ["s", "com", "acme", "order"] =
        some .directory :=
  ⟨Tree.linkFree_of_entries (by decide), by decide +kernel, by decide +kernel, by decide +kernel,
    by decide +kernel, by decide +kernel⟩

end Operation
end SpringSkeleton
