import SpringSkeleton.Proofs.Project.Skeleton
import SpringSkeleton.Proofs.Text.Lines
import SpringSkeleton.Proofs.Tree.Inside

namespace SpringSkeleton

-- The text begins with the declaration of the package.
def Declares (package text : String) : Prop := ∃ rest, text = "package " ++ package ++ ";\n" ++ rest

theorem declares_sourceText (package : String) (rest : List String) :
    Declares package (sourceText (("package " ++ package ++ ";") :: rest)) := by
  refine ⟨sourceText rest, ?_⟩
  rw [← String.toList_inj, sourceText_cons]
  simp [String.toList_append]

namespace Project
variable {spec : ProjectSpec} {settings : Settings} {disk after : Disk} {directory path : Path}
variable {child className name text : String}

-- The application class of the base package, and every class that is listed for a package below it.
def HasClass (spec : ProjectSpec) (child className : String) : Prop :=
  (child = "" ∧ className = "Application") ∨
    ∃ entry ∈ structureOf spec, entry.1 = child ∧ className ∈ entry.2

-- The directory of a package of the project.
def directoryOf (directory : Path) (settings : Settings) (package : String) : Path :=
  (directory.join ⟨settings.sourceRoot⟩).join (Name.packagePath package)

theorem below_directoryOf {package : String} (checked : Name.checkPackage package = .ok ())
    (directory : Path) (settings : Settings) :
    Path.Below (directory.join ⟨settings.sourceRoot⟩) (directoryOf directory settings package)
      (Name.packageNames package) := by
  have below := (Path.Below.refl (directory.join ⟨settings.sourceRoot⟩)).join
    (Name.packagePath_downward checked)
  rwa [Name.packagePath_steps checked, List.nil_append] at below

theorem placeOf_directoryOf {package : String} (checked : Name.checkPackage package = .ok ()) :
    disk.placeOf (directoryOf directory settings package) =
      disk.placeOf (directory.join ⟨settings.sourceRoot⟩) ++ Name.packageNames package :=
  have below := below_directoryOf checked directory settings
  Disk.placeOf_append below.isAbsolute below.steps below.down disk

-- Below the source root itself, a package has a directory that ends in a name.
theorem plain_directoryOf {package : String}
    (segments : ∀ segment ∈ Name.packageNames package, Path.IsName segment)
    (some_ : Name.packageNames package ≠ []) :
    (Route.ofText (directoryOf directory settings package).text).ending = .plain := by
  rw [directoryOf, Name.packagePath, ← Name.packageNames, Path.join_ofPieces some_ segments]
  obtain ⟨front, last, names⟩ : ∃ front last, Name.packageNames package = front ++ [last] :=
    ⟨_, _, (List.dropLast_concat_getLast some_).symm⟩
  rw [names] at segments ⊢
  exact Path.ending_along _ segments

-- The names of the files that hold no class.
def otherFiles : List String :=
  ["build.gradle", "settings.gradle", "application.yml", "API_REQUIREMENTS.md", "API_STANDARDS.md"]

theorem isName_otherFiles : ∀ file ∈ otherFiles, Path.IsName file := by
  have each : ∀ file ∈ otherFiles, Path.isIdle file = false ∧ file ≠ ".." ∧ '/' ∉ file.toList := by decide
  intro file member
  obtain ⟨busy, down, whole⟩ := each file member
  exact ⟨busy, down, whole⟩

section Checked

variable (packages : checkPackages spec = .ok ())
include packages

theorem checked_base : Name.checkPackage spec.basePackage = .ok () :=
  Name.checkPackage_ok_iff.mpr (checkPackages_ok_iff.mp packages).2.1

theorem base_present : spec.basePackage ≠ "" := by
  intro none
  have some_ := (checkPackages_ok_iff.mp packages).1
  rw [none] at some_
  exact absurd some_ (by decide)

theorem checked_child (hasClass : HasClass spec child className) :
    Name.checkPackage child = .ok () := by
  rcases hasClass with ⟨rfl, _⟩ | ⟨entry, member, rfl, _⟩
  · decide
  · exact Name.checkPackage_ok_iff.mpr ((checkPackages_ok_iff.mp packages).2.2 entry member).1

theorem checked_package (hasClass : HasClass spec child className) :
    Name.checkPackage (Name.joinPackage spec.basePackage child) = .ok () :=
  Name.checkPackage_joinPackage (checked_base packages) (checked_child packages hasClass)

theorem isName_classFile (hasClass : HasClass spec child className) :
    Path.IsName (className ++ ".java") := by
  rcases hasClass with ⟨_, rfl⟩ | ⟨entry, member, _, listed⟩
  · exact ⟨by decide, by decide, by decide⟩
  · have free := ((checkPackages_ok_iff.mp packages).2.2 entry member).2 className listed
    exact Name.isName_append (Name.isIdentifier_of_isFreeName free) (by decide)

theorem directoryOf_class (hasClass : HasClass spec child className) (directory : Path)
    (settings : Settings) :
    ((packageDirectory directory spec settings).join (Name.packagePath child)).join
        ⟨className ++ ".java"⟩ =
      (directoryOf directory settings (Name.joinPackage spec.basePackage child)).join
        ⟨className ++ ".java"⟩ :=
  Name.along_joinPackage _ (Name.isName_packageNames (checked_base packages))
    (Name.isName_packageNames (checked_child packages hasClass))
    (List.forall_mem_singleton.mpr (isName_classFile packages hasClass)) (List.cons_ne_nil _ _)

-- Each class is written to the directory of its package, and declares it.
theorem plan_class (hasClass : HasClass spec child className) (directory : Path) (name : String)
    (settings : Settings) : ∃ text, Declares (Name.joinPackage spec.basePackage child) text ∧
      .file ((directoryOf directory settings (Name.joinPackage spec.basePackage child)).join
        ⟨className ++ ".java"⟩) text ∈ plan directory name spec settings := by
  rcases id hasClass with ⟨rfl, rfl⟩ | ⟨entry, member, rfl, listed⟩
  · refine ⟨sourceText (applicationLines spec.basePackage), ?_, ?_⟩
    · rw [Name.joinPackage_empty]
      exact declares_sourceText _ _
    · rw [Name.joinPackage_empty]
      exact List.mem_append_left _ (List.mem_append_left _ (List.mem_append_right _ List.mem_cons_self))
  · refine ⟨sourceText (componentLines (Name.joinPackage spec.basePackage entry.1) className),
      declares_sourceText _ _, ?_⟩
    rw [← directoryOf_class packages hasClass]
    refine List.mem_append_left _ (List.mem_append_left _ (List.mem_append_left _
      (List.mem_append_right _ (List.mem_flatMap.mpr ⟨entry, member, ?_⟩))))
    exact List.mem_cons_of_mem _ (List.mem_map_of_mem listed)

-- Whatever else the plan writes has a name of its own.
theorem plan_file (member : .file path text ∈ plan directory name spec settings) :
    (∃ base : Path, ∃ file ∈ otherFiles, path = base.join ⟨file⟩) ∨
      ∃ child className, HasClass spec child className ∧
        path = (directoryOf directory settings (Name.joinPackage spec.basePackage child)).join
          ⟨className ++ ".java"⟩ ∧ Declares (Name.joinPackage spec.basePackage child) text := by
  have note : ∀ {file} {given : Option String}, file ∈ otherFiles →
      .file path text ∈ noteSteps (directory.join ⟨file⟩) given →
        ∃ base : Path, ∃ file ∈ otherFiles, path = base.join ⟨file⟩ := by
    intro file given listed inside
    unfold noteSteps at inside
    split at inside
    · cases inside
    · split at inside
      · cases inside
      · cases List.mem_singleton.mp inside
        exact ⟨directory, file, listed, rfl⟩
  simp only [plan, List.mem_append] at member
  rcases member with ((((early | among) | listed) | late) | requirements) | standards
  · left
    rcases List.mem_pair.mp early with same | same
    · cases same
      exact ⟨directory, "build.gradle", by decide, rfl⟩
    · cases same
      exact ⟨directory, "settings.gradle", by decide, rfl⟩
  · obtain ⟨_, _, same⟩ := List.mem_map.mp among
    cases same
  · obtain ⟨entry, member, inside⟩ := List.mem_flatMap.mp listed
    rcases List.mem_cons.mp inside with same | inside
    · cases same
    · obtain ⟨className, given, same⟩ := List.mem_map.mp inside
      cases same
      have hasClass : HasClass spec entry.1 className := .inr ⟨entry, member, rfl, given⟩
      refine .inr ⟨entry.1, className, hasClass, ?_, declares_sourceText _ _⟩
      exact directoryOf_class packages hasClass directory settings
  · rcases List.mem_pair.mp late with same | same
    · cases same
      refine .inr ⟨"", "Application", .inl ⟨rfl, rfl⟩, ?_, ?_⟩
      · rw [Name.joinPackage_empty]
        rfl
      · rw [Name.joinPackage_empty]
        exact declares_sourceText _ _
    · cases same
      exact .inl ⟨_, "application.yml", by decide, rfl⟩
  · exact .inl (note (by decide) requirements)
  · exact .inl (note (by decide) standards)

-- What is written where a class goes is a class of that package.
theorem lastWritten?_class (hasClass : HasClass spec child className) (disk : Disk) (directory : Path)
    (name : String) (settings : Settings) :
    ∃ text, Declares (Name.joinPackage spec.basePackage child) text ∧
      disk.lastWritten? (plan directory name spec settings)
        (disk.placeOf (directoryOf directory settings (Name.joinPackage spec.basePackage child)) ++
          [className ++ ".java"]) = some text := by
  have isName := isName_classFile packages hasClass
  have checked := checked_package packages hasClass
  obtain ⟨_, _, planned⟩ := plan_class packages hasClass directory name settings
  obtain ⟨text, last⟩ := disk.lastWritten?_of_mem planned
  rw [Disk.placeOf_join _ _ isName] at last
  refine ⟨text, ?_, last⟩
  obtain ⟨path, member, place⟩ := Disk.mem_of_lastWritten? last
  rcases plan_file packages member with ⟨base, file, listed, rfl⟩ | ⟨other, otherName, has, rfl, declares⟩
  · rw [Disk.placeOf_join _ _ (isName_otherFiles file listed)] at place
    obtain ⟨_, files⟩ := List.append_inj' place rfl
    have ending : ∀ file ∈ otherFiles, file.toList.getLast? ≠ some 'a' := by decide
    refine absurd ?_ (ending file listed)
    rw [List.singleton_inj.mp files, String.toList_append, List.getLast?_append_of_ne_nil _ (by decide)]
    decide
  · have otherChecked := checked_package packages has
    rw [Disk.placeOf_join _ _ (isName_classFile packages has), placeOf_directoryOf otherChecked,
      placeOf_directoryOf checked] at place
    obtain ⟨places, _⟩ := List.append_inj' place rfl
    rwa [Name.packageNames_injective otherChecked checked (List.append_cancel_left places)] at declares

theorem class_declared (hasClass : HasClass spec child className) (linkFree : disk.tree.LinkFree)
    (run : disk.performAll (plan directory name spec settings) = (.ok (), after)) :
    ∃ text, Declares (Name.joinPackage spec.basePackage child) text ∧
      after.tree.node? (disk.placeOf (directoryOf directory settings
        (Name.joinPackage spec.basePackage child)) ++ [className ++ ".java"]) =
          some (.file (.text text)) := by
  obtain ⟨text, declares, last⟩ :=
    lastWritten?_class packages hasClass disk directory name settings
  exact ⟨text, declares, (Disk.performed_of_ok linkFree run).written _ _ last⟩

end Checked

end Project
end SpringSkeleton
