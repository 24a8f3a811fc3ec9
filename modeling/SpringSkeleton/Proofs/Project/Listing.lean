import SpringSkeleton.Proofs.Project.Anchor
import SpringSkeleton.Proofs.Project.Classes
import SpringSkeleton.Proofs.Tree.Stopped
import SpringSkeleton.Proofs.Tree.Way

namespace SpringSkeleton

namespace Disk
variable {disk after : Disk} {base directory path : Path} {place : Location} {names whole : List String}
variable {step : Step} {steps : List Step}

theorem Way.onWay (goes : step.Goes directory) (way : disk.Way step place) :
    disk.OnWay directory place := by
  cases step with
  | directory path =>
    cases goes
    exact way
  | file path content =>
    obtain ⟨name, isName, rfl⟩ := goes
    obtain ⟨parent, isParent, onWay⟩ := way
    have steps : parent.steps = directory.steps := by
      rw [isParent.steps, Path.steps_join directory isName.relative, isName.steps, List.dropLast_concat]
    have begins : Begins parent directory :=
      ⟨isParent.isAbsolute.trans (Path.isAbsolute_join directory isName.relative), steps ▸ List.prefix_rfl⟩
    exact begins.onWay onWay

theorem onWay_or_initial (below : Path.Below base path whole)
    (onWay : disk.OnWay path (disk.placeOf base ++ names)) :
    disk.OnWay base (disk.placeOf base ++ names) ∨ names <+: whole := by
  rcases onWay_below below.isAbsolute below.steps below.down onWay with
    here | ⟨front, _, initial, same⟩
  · exact .inl here
  · exact .inr (List.append_cancel_left same ▸ initial)

theorem directory_admissible (run : disk.performAll steps = (.ok (), after))
    (member : .directory path ∈ steps) (present : path.text ≠ "") : path.Admissible := by
  induction steps generalizing disk with
  | nil => cases member
  | cons first rest ih =>
    rw [performAll] at run
    cases made : disk.perform first with
    | mk result reached =>
      rw [made] at run
      cases result with
      | error problem => cases run
      | ok _ =>
        rcases List.mem_cons.mp member with rfl | later
        · refine Path.fault?_eq_none_iff.mp ?_
          cases fault : path.fault? with
          | none => rfl
          | some cause =>
            rw [perform, makeDirectoriesFor, makeDirectories_refused present fault disk] at made
            cases made
        · exact ih run later

-- Where a run that succeeds goes, the path is not refused.
theorem goes_admissible (linkFree : disk.tree.LinkFree) (run : disk.performAll steps = (.ok (), after))
    (member : step ∈ steps) (goes : step.Goes directory) (present : directory.text ≠ "") :
    directory.Admissible := by
  cases step with
  | directory path =>
    cases goes
    exact directory_admissible run member present
  | file path content =>
    obtain ⟨name, isName, rfl⟩ := goes
    have reaches := (performed_of_ok linkFree run).reaches _ _ member
    exact ((Path.Below.refl directory).join isName.downward).admissible present reaches.admissible

end Disk

namespace Project
variable {disk after : Disk} {spec : ProjectSpec} {base path : Path} {package name : String}
variable {front names : List String} {step : Step}

-- The path of a package goes on from those of the packages around it.
theorem below_front (checked : Name.checkPackage package = .ok ()) (base : Path)
    (initial : front <+: Name.packageNames package) :
    ∃ rest, Path.Below (base.along front) (base.join (Name.packagePath package)) rest := by
  have each := Name.isName_packageNames checked
  by_cases none : Name.packageNames package = []
  · rw [none, List.prefix_nil] at initial
    rw [initial]
    exact ⟨_, (Path.Below.refl base).join (Name.packagePath_downward checked)⟩
  · obtain ⟨back, whole⟩ := initial
    rw [Name.packagePath, ← Name.packageNames, Path.join_ofPieces none each, ← whole, Path.along_append]
    rw [← whole] at each
    exact ⟨back, Path.below_along _ fun name inside => each name (List.mem_append_right _ inside)⟩

theorem below_front_inner {child : String} (checked : Name.checkPackage package = .ok ())
    (present : package ≠ "") (inner : Name.checkPackage child = .ok ()) (base : Path)
    (initial : front <+: Name.packageNames package ++ Name.packageNames child) :
    ∃ rest, Path.Below (base.along front)
      ((base.join (Name.packagePath package)).join (Name.packagePath child)) rest := by
  have down := Name.packagePath_downward inner
  rcases List.prefix_or_prefix_of_prefix initial (List.prefix_append _ _) with early | ⟨more, rfl⟩
  · obtain ⟨rest, below⟩ := below_front checked base early
    exact ⟨_, below.join down⟩
  · have outer : base.join (Name.packagePath package) = base.along (Name.packageNames package) :=
      Path.join_ofPieces (Name.packageNames_ne_nil checked present) (Name.isName_packageNames checked)
    rw [Path.along_append, ← outer]
    exact below_front inner _ ((List.prefix_append_right_inj _).mp initial)

theorem below_source (path : Path) :
    Path.Below path (path.join ⟨Settings.standard.sourceRoot⟩) ["src", "main", "java"] := by
  have below := (Path.Below.refl path).join standard_roots.1
  rwa [standard_steps.1, List.nil_append] at below

theorem placeOf_source (disk : Disk) (path : Path) :
    disk.placeOf (path.join ⟨Settings.standard.sourceRoot⟩) =
      disk.placeOf path ++ ["src", "main", "java"] :=
  have below := below_source path
  Disk.placeOf_append below.isAbsolute below.steps below.down disk

-- What a step comes by below the source root is on the way of the path of the project, or on the way
-- down to a package.
theorem plan_way (packages : checkPackages spec = .ok ()) (some_ : names ≠ [])
    (member : step ∈ plan path name spec .standard)
    (way : disk.Way step (disk.placeOf (path.join ⟨Settings.standard.sourceRoot⟩) ++ names)) :
    disk.OnWay path (disk.placeOf (path.join ⟨Settings.standard.sourceRoot⟩) ++ names) ∨
      ∃ place rest, step.Goes place ∧
        Path.Below ((path.join ⟨Settings.standard.sourceRoot⟩).along names) place rest := by
  have base := checked_base packages
  obtain ⟨place, goes, which⟩ := plan_goes packages member
  have onWay := way.onWay goes
  -- The names of the source root lead no further, and neither do those of the resources.
  have outside : ∀ {inner : Path} {whole}, Path.Below path inner whole →
      ¬["src", "main", "java"] ++ names <+: whole →
      disk.OnWay inner (disk.placeOf (path.join ⟨Settings.standard.sourceRoot⟩) ++ names) →
      disk.OnWay path (disk.placeOf (path.join ⟨Settings.standard.sourceRoot⟩) ++ names) := by
    intro inner whole below apart onWay
    rw [placeOf_source, List.append_assoc] at onWay ⊢
    exact (Disk.onWay_or_initial below onWay).resolve_right apart
  have source := outside (below_source path) (by simp [some_])
  rcases which with rfl | rfl | rfl | ⟨package, child, rfl⟩
  · exact .inl onWay
  · exact .inl (outside below_resources (by simp) onWay)
  · have below := (Path.Below.refl (path.join ⟨Settings.standard.sourceRoot⟩)).join
      (Name.packagePath_downward base)
    rw [Name.packagePath_steps base, List.nil_append] at below
    rcases Disk.onWay_or_initial below onWay with here | initial
    · exact .inl (source here)
    · obtain ⟨rest, further⟩ := below_front base _ initial
      exact .inr ⟨_, rest, goes, further⟩
  · have below := ((Path.Below.refl (path.join ⟨Settings.standard.sourceRoot⟩)).join
      (Name.packagePath_downward base)).join (Name.packagePath_downward child)
    rw [Name.packagePath_steps base, Name.packagePath_steps child, List.nil_append] at below
    rcases Disk.onWay_or_initial below onWay with here | initial
    · exact .inl (source here)
    · obtain ⟨rest, further⟩ := below_front_inner base (base_present packages) child _ initial
      exact .inr ⟨_, rest, goes, further⟩

-- The path comes by no directory below its own source root that cannot be listed.
def Clear (disk : Disk) (path : Path) : Prop :=
  ∀ names, names ≠ [] →
    disk.OnWay path (disk.placeOf (path.join ⟨Settings.standard.sourceRoot⟩) ++ names) →
      ((path.join ⟨Settings.standard.sourceRoot⟩).along names).text.utf8ByteSize ≤ longestPath

-- A path that never climbs comes by no directory below itself.
theorem clear_of_steps (down : ".." ∉ path.steps) : Clear disk path := by
  rintro names - ⟨front, name, initial, -, place⟩
  have before : ".." ∉ front := fun up => down (initial.subset (List.mem_append_left _ up))
  have lengths := congrArg List.length place
  have shorter := initial.length_le
  rw [placeOf_source, Disk.placeOf, Location.descend_names _ down, Location.descend_names _ before] at lengths
  simp only [List.length_append, List.length_cons, List.length_nil] at lengths shorter
  omega

-- A new project has no directory that cannot be listed, unless its own path comes by one.
theorem listable_created (linkFree : disk.tree.LinkFree) (closed : disk.tree.Closed)
    (packages : checkPackages spec = .ok ()) (present : path.text ≠ "")
    (run : disk.performAll (plan path name spec .standard) = (.ok (), after))
    (unseen : disk.pathExists path = false) (straight : ¬disk.Detours path)
    (clear : Clear disk path) (names : Location) : ¬UnlistableAt (path.join ⟨Settings.standard.sourceRoot⟩) after
      (disk.placeOf (path.join ⟨Settings.standard.sourceRoot⟩)) names := by
  rintro ⟨some_, stands, long⟩
  have standing : (disk.performAll (plan path name spec .standard)).2.tree.node?
      (disk.placeOf (path.join ⟨Settings.standard.sourceRoot⟩) ++ names) = some .directory := by
    rw [run]
    exact stands
  rcases Disk.performAll_new linkFree standing with stood | ⟨step, member, way⟩
  · have below : ["src", "main", "java"] ++ names ≠ [] := by simp
    refine straight (stood_detours linkFree packages run closed present unseen below ?_)
    rw [← List.append_assoc, ← placeOf_source, stood]
    simp
  · rcases plan_way packages some_ member way with onWay | ⟨place, rest, goes, below⟩
    · exact absurd (clear names some_ onWay) (Nat.not_le.mpr long)
    · have longer := Nat.lt_of_lt_of_le long below.size
      have given : place.text ≠ "" := by
        intro none
        rw [none] at longer
        cases longer
      exact absurd (Disk.goes_admissible linkFree run member goes given).short (Nat.not_le.mpr longer)

end Project
end SpringSkeleton
