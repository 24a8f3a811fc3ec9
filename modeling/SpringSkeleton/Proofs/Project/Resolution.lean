import SpringSkeleton.Proofs.Project.Listing

namespace SpringSkeleton.Project
variable {disk after : Disk} {spec : ProjectSpec} {path : Path} {child className name : String}
variable {names : Location}

-- The classes whose names end as that of an application class.
def HasApplication (spec : ProjectSpec) (child className : String) : Prop :=
  HasClass spec child className ∧ Text.endsWith "Application" className = true

-- Where a class stands below the source root.
def classPlace (spec : ProjectSpec) (child className : String) : Location :=
  Name.packageNames (Name.joinPackage spec.basePackage child) ++ [className ++ ".java"]

theorem hasApplication_application (spec : ProjectSpec) : HasApplication spec "" "Application" :=
  ⟨.inl ⟨rfl, rfl⟩, by decide⟩

theorem Part.names_class {part : Part} (belongs : part.Belongs spec)
    (below : part.names spec = ["src", "main", "java"] ++ names) :
    ∃ child className, HasClass spec child className ∧ names = classPlace spec child className := by
  cases part with
  | application =>
    refine ⟨"", "Application", .inl ⟨rfl, rfl⟩, ?_⟩
    rw [Part.names, List.append_assoc] at below
    rw [← List.append_cancel_left below, classPlace, Name.joinPackage_empty]
    rfl
  | component package className =>
    obtain ⟨_, entry, member, rfl, listed⟩ := belongs
    refine ⟨entry.1, className, .inr ⟨entry, member, rfl, listed⟩, ?_⟩
    rw [Part.names, List.append_assoc] at below
    rw [← List.append_cancel_left below, classPlace, Name.packageNames_joinPackage]
  | _ => simp [Part.names] at below

section Created

variable (linkFree : disk.tree.LinkFree) (packages : checkPackages spec = .ok ())
  (run : disk.performAll (plan path name spec .standard) = (.ok (), after))

include linkFree packages run

-- The application class is written below the source root, so that stands.
theorem stat_sourceRoot : after.stat (path.join ⟨Settings.standard.sourceRoot⟩) =
    .ok (disk.placeOf (path.join ⟨Settings.standard.sourceRoot⟩), .directory) := by
  have performed := Disk.performed_of_ok linkFree run
  have application := (hasApplication_application spec).1
  obtain ⟨text, _, planned⟩ := plan_class packages application path name .standard
  have reaches := performed.reaches _ _ planned
  have below := below_file
    (below_directoryOf (checked_package packages application) path .standard)
    (isName_classFile packages application)
  have present : (path.join ⟨Settings.standard.sourceRoot⟩).text ≠ "" := by
    refine Path.text_of_steps ?_
    rw [Path.steps_join path standard_roots.1.relative, standard_steps.1]
    simp
  have leads := reaches.leads
  rw [below.steps, ← List.append_assoc, List.dropLast_concat, Disk.start_eq below.isAbsolute] at leads
  rw [Disk.stat_of_leads (performed.linkFree linkFree) (below.admissible present reaches.admissible)
    (leads.initial (by simp)), Disk.placeOf_congr performed.workingDirectory]

-- The application classes of the project are the files that are taken for one.
theorem anchorAt_created_iff (closed : disk.tree.Closed) (present : path.text ≠ "")
    (unseen : disk.pathExists path = false) (straight : ¬disk.Detours path) :
    AnchorAt .standard after (disk.placeOf (path.join ⟨Settings.standard.sourceRoot⟩)) names ↔
      ∃ child className, HasApplication spec child className ∧
        names = classPlace spec child className := by
  have ending : ∀ className, Text.endsWith (anchorEnding .standard) (className ++ ".java") = true ↔
      Text.endsWith "Application" className = true := fun _ => Text.endsWith_append_iff ".java"
  constructor
  · rintro ⟨⟨content, stands⟩, last, ends, anchor⟩
    rw [placeOf_source, List.append_assoc] at stands
    rcases part_or_stood linkFree packages run closed present unseen (by simp) stands with
      ⟨part, belongs, below⟩ | ⟨detours, _⟩
    · obtain ⟨child, className, hasClass, same⟩ := part.names_class belongs below
      rw [same, classPlace, List.getLast?_concat] at ends
      cases ends
      exact ⟨child, className, ⟨hasClass, (ending className).mp anchor⟩, same⟩
    · exact absurd detours straight
  · rintro ⟨child, className, ⟨hasClass, ends⟩, same⟩
    rw [same]
    obtain ⟨text, _, stands⟩ := class_declared packages hasClass linkFree run
    rw [placeOf_directoryOf (checked_package packages hasClass), List.append_assoc] at stands
    exact ⟨⟨_, stands⟩, _, List.getLast?_concat, (ending className).mpr ends⟩

end Created

theorem packageOf_classPlace (packages : checkPackages spec = .ok ())
    (hasClass : HasClass spec child className) :
    packageOf (classPlace spec child className) = Name.joinPackage spec.basePackage child := by
  rw [packageOf, classPlace, List.dropLast_concat,
    Name.joined_packageNames (checked_package packages hasClass)]

theorem joinPackage_eq_base_iff (packages : checkPackages spec = .ok ())
    (hasClass : HasClass spec child className) :
    Name.joinPackage spec.basePackage child = spec.basePackage ↔ child = "" := by
  constructor
  · intro same
    by_contra present
    have names := congrArg Name.packageNames same
    rw [Name.packageNames_joinPackage, List.append_right_eq_self] at names
    exact Name.packageNames_ne_nil (checked_child packages hasClass) present names
  · rintro rfl
    exact Name.joinPackage_empty _

-- The base package of a new project is that of its first application class: the one that was asked
-- for, unless a class that is listed for a package below it comes first.
theorem basePackage_created (linkFree : disk.tree.LinkFree) (closed : disk.tree.Closed)
    (named : ∀ name ∈ disk.workingDirectory, Path.IsName name) {workspace : Path} {title : String}
    {files : Nat} (made : create disk workspace spec .standard = (.ok (.created title path files), after))
    (straight : ¬disk.Detours path) (clear : Clear disk path) :
    ∃ child className, HasApplication spec child className ∧
      (∀ other otherName, HasApplication spec other otherName →
        Location.before (classPlace spec other otherName) (classPlace spec child className) = false) ∧
      basePackage after path .standard = .ok (Name.joinPackage spec.basePackage child) ∧
      (basePackage after path .standard = .ok spec.basePackage ↔ child = "") := by
  obtain ⟨checked, packages, same, unseen, run⟩ := create_created made
  have present : path.text ≠ "" := same ▸ (projectDirectory_within named workspace checked).1
  have anchors : ∀ names, AnchorAt .standard after _ names ↔ _ := fun names =>
    anchorAt_created_iff linkFree packages run closed present unseen straight
  have application := (anchors _).mpr ⟨"", "Application", hasApplication_application spec, rfl⟩
  obtain ⟨first, found, here, least⟩ := firstAnchor?_of_anchor application
  obtain ⟨child, className, has, place⟩ := (anchors first).mp here
  rw [place] at found least
  have resolved : basePackage after path .standard =
      .ok (Name.joinPackage spec.basePackage child) := by
    refine (basePackage_ok_iff (stat_sourceRoot linkFree packages run)).mpr
      ⟨_, found, (packageOf_classPlace packages has.1).symm, fun other long => ?_⟩
    exact absurd long
      (listable_created linkFree closed packages present run unseen straight clear other)
  refine ⟨child, className, has, ?_, resolved, ?_⟩
  · intro other otherName another
    exact least _ ((anchors _).mpr ⟨other, otherName, another, rfl⟩)
  · rw [resolved, Except.ok.injEq, joinPackage_eq_base_iff packages has.1]

-- A class of a package below the base package that comes before the application class.
def nested : ProjectSpec := ⟨"d", "c", none, none, some [("A", ["XApplication"])]⟩

def bare : Disk := ⟨Tree.empty, []⟩

theorem bare_closed : bare.tree.Closed := Tree.closed_of_entries (by decide)

-- The base package of a project that has been created.
def createdPackage? : Except Problem Outcome × Disk → Option String
  | (.ok (.created _ path _), after) => (basePackage after path .standard).toOption
  | _ => none

theorem created_of_package {made : Except Problem Outcome × Disk} {package : String}
    (resolved : createdPackage? made = some package) : ∃ title path files after,
      made = (.ok (.created title path files), after) ∧
        basePackage after path .standard = .ok package := by
  obtain ⟨result, after⟩ := made
  cases result with
  | error problem => cases resolved
  | ok outcome =>
    cases outcome with
    | created title path files =>
      refine ⟨title, path, files, after, rfl, ?_⟩
      cases found : basePackage after path .standard with
      | error problem => simp [createdPackage?, found, Except.toOption] at resolved
      | ok other => simpa [createdPackage?, found, Except.toOption] using resolved
    | alreadyExists path => cases resolved

theorem nested_created : ∃ title path files after,
    create bare ⟨""⟩ nested .standard = (.ok (.created title path files), after) ∧
      basePackage after path .standard = .ok "c.A" := created_of_package (by decide +kernel)

theorem bare_named : ∀ name ∈ bare.workingDirectory, Path.IsName name := fun _ none => by cases none

-- No path makes a detour where nothing stands.
theorem nested_straight : ¬bare.Detours (projectDirectory bare ⟨""⟩ (Text.trim nested.name)) := by
  intro detours
  have trimmed : Text.trim nested.name = "d" := by decide
  have isName : Path.IsName "d" := ⟨by decide, by decide, by decide⟩
  have stands := detours.stands
  rw [projectDirectory, (Disk.placeOf_absolute bare_named _).2, trimmed, Disk.placeOf_join _ _ isName,
    Tree.node?_eq_lookup _ (by simp)] at stands
  cases stands

theorem nested_clear : Clear bare (projectDirectory bare ⟨""⟩ (Text.trim nested.name)) := by
  refine clear_of_steps ?_
  unfold Path.steps
  decide

theorem basePackage_created_nested : ∃ path after child className,
    HasApplication nested child className ∧ child ≠ "" ∧
      basePackage after path .standard = .ok (Name.joinPackage nested.basePackage child) := by
  obtain ⟨title, path, files, after, made, resolved⟩ := nested_created
  obtain ⟨_, _, same, _⟩ := create_created made
  obtain ⟨child, className, has, _, first, base⟩ := basePackage_created Tree.linkFree_empty bare_closed
    bare_named made (same ▸ nested_straight) (same ▸ nested_clear)
  refine ⟨path, after, child, className, has, fun none => ?_, first⟩
  have own := base.mpr none
  rw [resolved] at own
  exact absurd (Except.ok.inj own) (by decide)

-- A class that is listed can take the place of the application class.
theorem basePackage_created_elsewhere : ¬ ∀ (disk after : Disk) (workspace path : Path)
    (spec : ProjectSpec) (title : String) (files : Nat), disk.tree.LinkFree → disk.tree.Closed →
      (∀ name ∈ disk.workingDirectory, Path.IsName name) →
      create disk workspace spec .standard = (.ok (.created title path files), after) →
        basePackage after path .standard = .ok spec.basePackage := by
  intro own
  obtain ⟨title, path, files, after, made, resolved⟩ := nested_created
  have base := own bare after ⟨""⟩ path nested title files Tree.linkFree_empty bare_closed bare_named made
  rw [resolved] at base
  exact absurd (Except.ok.inj base) (by decide)

end SpringSkeleton.Project
