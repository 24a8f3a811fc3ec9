import SpringSkeleton.Proofs.Name.Packages
import SpringSkeleton.Proofs.Project.Confinement
import SpringSkeleton.Proofs.Tree.Performed

namespace SpringSkeleton

namespace Project
variable {spec : ProjectSpec} {directory : Path} {title : String}

-- A description is refused for its name, or once the project is known to be new.
theorem create_refused_iff {disk after : Disk} {workspace : Path} {settings : Settings}
    {result : Except Problem Outcome} (made : create disk workspace spec settings = (result, after)) :
    (∃ problem, result = .error problem ∧ problem.kind = .validation) ↔
      checkName (Text.trim spec.name) ≠ .ok () ∨
        disk.pathExists (projectDirectory disk workspace (Text.trim spec.name)) = false ∧
          checkPackages spec ≠ .ok () := by
  rcases create_cases disk workspace spec settings with
    ⟨bad, cause, run⟩ | ⟨name, ⟨there, run⟩ | ⟨unseen, packages, outcome, reached, performed, run⟩⟩
  · rw [run] at made
    cases made
    exact ⟨fun _ => bad, fun _ => ⟨_, rfl, rfl⟩⟩
  · rw [run] at made
    cases made
    simp [name, there]
  · rw [run] at made
    cases made
    cases outcome with
    | ok done => simp [name, packages, Except.map]
    | error problem => simp [name, packages, Except.map, Disk.performAll_problem performed]

theorem create_unmoved {disk after : Disk} {workspace : Path} {settings : Settings}
    {result : Except Problem Outcome} (made : create disk workspace spec settings = (result, after))
    (left : (∃ path, result = .ok (.alreadyExists path)) ∨
      ∃ problem, result = .error problem ∧ problem.kind = .validation) : after = disk := by
  rcases create_cases disk workspace spec settings with
    ⟨_, cause, run⟩ | ⟨_, ⟨_, run⟩ | ⟨_, _, outcome, reached, performed, run⟩⟩
  · rw [run] at made
    cases made
    rfl
  · rw [run] at made
    cases made
    rfl
  · rw [run] at made
    cases made
    cases outcome with
    | ok done => simp [Except.map] at left
    | error problem => simp [Except.map, Disk.performAll_problem performed] at left

-- The files of a new project.
inductive Part where
  | build
  | settings
  | application
  | resources
  | requirements
  | standards
  | component (package className : String)

namespace Part

-- Where the file goes, from the directory of the project on.
def names (spec : ProjectSpec) : Part → List String
  | build => ["build.gradle"]
  | settings => ["settings.gradle"]
  | application =>
    ["src", "main", "java"] ++ Name.packageNames spec.basePackage ++ ["Application.java"]
  | resources => ["src", "main", "resources", "application.yml"]
  | requirements => ["API_REQUIREMENTS.md"]
  | standards => ["API_STANDARDS.md"]
  | component package className =>
    ["src", "main", "java"] ++ (Name.packageNames spec.basePackage ++ Name.packageNames package)
      ++ [className ++ ".java"]

def text (spec : ProjectSpec) (title : String) : Part → String
  | build => sourceText buildLines
  | settings => sourceText (settingsLines title)
  | application => sourceText (applicationLines spec.basePackage)
  | resources => sourceText resourceLines
  | requirements => spec.requirements.getD ""
  | standards => spec.standards.getD ""
  | component package className =>
    sourceText (componentLines (Name.joinPackage spec.basePackage package) className)

-- Notes that say something belong to the project, and every class that is listed; the application
-- class takes the place of one of its name in the base package.
def Belongs (spec : ProjectSpec) : Part → Prop
  | requirements => ∃ text, spec.requirements = some text ∧ Text.isBlankText text = false
  | standards => ∃ text, spec.standards = some text ∧ Text.isBlankText text = false
  | component package className => ¬(package = "" ∧ className = "Application") ∧
      ∃ entry ∈ structureOf spec, entry.1 = package ∧ className ∈ entry.2
  | _ => True

def ofNote (part : Part) : Option String → List Part
  | none => []
  | some text => if Text.isBlankText text then [] else [part]

def listed (spec : ProjectSpec) : List Part :=
  (structureOf spec).flatMap fun entry => entry.2.map (component entry.1)

-- What is written before the classes and after them.
def first : List Part := [build, settings]

def last (spec : ProjectSpec) : List Part :=
  [application, resources] ++ ofNote requirements spec.requirements ++ ofNote standards spec.standards

variable {part other : Part}

theorem mem_listed : part ∈ listed spec ↔ ∃ entry ∈ structureOf spec, ∃ className ∈ entry.2,
    part = component entry.1 className := by
  simp [listed, eq_comm]

theorem mem_ofNote {note : Part} {text : Option String} : part ∈ ofNote note text ↔
    part = note ∧ ∃ content, text = some content ∧ Text.isBlankText content = false := by
  cases text with
  | none => simp [ofNote]
  | some content => cases blank : Text.isBlankText content <;> simp [ofNote, blank]

theorem mem_last : part ∈ last spec ↔ part.Belongs spec ∧ part ≠ build ∧ part ≠ settings ∧
    ∀ package className, part ≠ component package className := by
  simp only [last, List.mem_append, List.mem_pair, mem_ofNote]
  cases part <;> simp [Belongs]

theorem mem_of_belongs (belongs : part.Belongs spec) : part ∈ first ++ listed spec ++ last spec := by
  cases part with
  | build => exact List.mem_append_left _ (List.mem_append_left _ List.mem_cons_self)
  | settings =>
    exact List.mem_append_left _ (List.mem_append_left _ (List.mem_cons_of_mem _ List.mem_cons_self))
  | component package className =>
    obtain ⟨_, entry, member, rfl, inside⟩ := belongs
    exact List.mem_append_left _ (List.mem_append_right _
      (mem_listed.mpr ⟨entry, member, className, inside, rfl⟩))
  | _ => exact List.mem_append_right _ (mem_last.mpr ⟨belongs, by simp⟩)

-- What a listed class is not written to: it would be the application class.
theorem belongs_or_application (member : part ∈ first ++ listed spec ++ last spec) :
    part.Belongs spec ∨ part.names spec = application.names spec := by
  rcases List.mem_append.mp member with before | after
  · rcases List.mem_append.mp before with early | among
    · rcases List.mem_pair.mp early with rfl | rfl <;> exact .inl trivial
    · obtain ⟨entry, inside, className, listed, rfl⟩ := mem_listed.mp among
      by_cases hidden : entry.1 = "" ∧ className = "Application"
      · have none : Name.packageNames "" = [] := by decide
        exact .inr (by simp [names, hidden, none])
      · exact .inl ⟨hidden, entry, inside, rfl, listed⟩
  · exact .inl (mem_last.mp after).1

theorem checked_of_belongs (checked : checkPackages spec = .ok ()) {package className : String}
    (belongs : (component package className).Belongs spec) : Name.checkPackage package = .ok () := by
  obtain ⟨_, entry, member, rfl, _⟩ := belongs
  exact Name.checkPackage_ok_iff.mpr ((checkPackages_ok_iff.mp checked).2.2 entry member).1

theorem component_apart (checked : checkPackages spec = .ok ()) {package className : String}
    (belongs : (component package className).Belongs spec) :
    (component package className).names spec ≠ application.names spec := by
  intro same
  obtain ⟨fronts, files⟩ := List.append_inj' same rfl
  have none : Name.packageNames package = [] := by simpa using fronts
  have empty : package = "" := by
    refine Name.packageNames_injective (checked_of_belongs checked belongs) (by decide) ?_
    rw [none]
    decide
  have chars := congrArg String.toList (List.singleton_inj.mp files)
  have class_chars : className.toList ++ ".java".toList = "Application".toList ++ ".java".toList := by
    rw [← String.toList_append, chars]
    decide
  exact belongs.1 ⟨empty, String.toList_inj.mp (List.append_cancel_right class_chars)⟩

-- Files of a project that go to the same place are the same.
theorem names_injective (checked : checkPackages spec = .ok ()) (one : part.Belongs spec)
    (two : other.Belongs spec) (same : part.names spec = other.names spec) : part = other := by
  cases part with
  | component package className =>
    cases other with
    | component otherPackage otherName =>
      obtain ⟨fronts, files⟩ := List.append_inj' same rfl
      have packages : Name.packageNames package = Name.packageNames otherPackage := by
        simpa using fronts
      have chars := congrArg String.toList (List.singleton_inj.mp files)
      simp only [String.toList_append] at chars
      rw [Name.packageNames_injective (checked_of_belongs checked one) (checked_of_belongs checked two)
        packages, String.toList_inj.mp (List.append_cancel_right chars)]
    | application => exact absurd same (component_apart checked one)
    | _ => simp [names] at same
  | application =>
    cases other with
    | application => rfl
    | component package className => exact absurd same.symm (component_apart checked two)
    | _ => simp [names] at same
  | _ => cases other <;> first | rfl | simp [names] at same

end Part

-- A file of the project as it is written: its place, and its text.
def written (disk : Disk) (directory : Path) (spec : ProjectSpec) (title : String) (part : Part) :
    Location × String :=
  (disk.placeOf directory ++ part.names spec, part.text spec title)

theorem written?_file (disk : Disk) {path : Path} {names : List String}
    (below : Path.Below directory path names) (content : String) :
    disk.written? (.file path content) = some (disk.placeOf directory ++ names, content) := by
  rw [Disk.written?, Disk.placeOf_append below.isAbsolute below.steps below.down]

theorem written?_note (disk : Disk) {path : Path} {note : Part} {text : Option String}
    (below : Path.Below directory path (note.names spec)) (content : note.text spec title = text.getD "") :
    (noteSteps path text).filterMap disk.written? =
      (Part.ofNote note text).map (written disk directory spec title) := by
  cases text with
  | none => rfl
  | some given =>
    cases blank : Text.isBlankText given with
    | true => simp [noteSteps, Part.ofNote, blank]
    | false =>
      have file := written?_file disk below given
      simp [noteSteps, Part.ofNote, blank, written, content, file]

theorem written?_package (disk : Disk) {packages : Path}
    (below : Path.Below directory packages
      (["src", "main", "java"] ++ Name.packageNames spec.basePackage))
    {entry : String × List String} (package : Name.IsPackage entry.1)
    (classes : ∀ name ∈ entry.2, Name.isFreeName name = true) :
    (packageSteps packages spec.basePackage entry).filterMap disk.written? =
      (entry.2.map (Part.component entry.1)).map (written disk directory spec title) := by
  have checked := Name.checkPackage_ok_iff.mpr package
  have inner := below.join (Name.packagePath_downward checked)
  rw [Name.packagePath_steps checked, List.append_assoc] at inner
  have none : disk.written? (.directory (packages.join (Name.packagePath entry.1))) = none := rfl
  rw [packageSteps, List.filterMap_cons_none none, classSteps, List.filterMap_map, List.map_map,
    List.filterMap_congr (g := some ∘ (written disk directory spec title ∘ Part.component entry.1)),
    List.filterMap_eq_map]
  intro className member
  have identifier := Name.isIdentifier_of_isFreeName (classes className member)
  have isName : Path.IsName (className ++ ".java") := Name.isName_append identifier (by decide)
  exact written?_file disk (below_file inner isName) _

theorem below_packages (checked : checkPackages spec = .ok ()) :
    Path.Below directory (packageDirectory directory spec .standard)
      (["src", "main", "java"] ++ Name.packageNames spec.basePackage) := by
  have base := Name.checkPackage_ok_iff.mpr (checkPackages_ok_iff.mp checked).2.1
  have below := ((Path.Below.refl directory).join standard_roots.1).join (Name.packagePath_downward base)
  rwa [Name.packagePath_steps base, standard_steps.1, List.nil_append] at below

theorem below_resources : Path.Below directory (directory.join ⟨Settings.standard.resourcesRoot⟩)
    ["src", "main", "resources"] := by
  have below := (Path.Below.refl directory).join standard_roots.2
  rwa [standard_steps.2, List.nil_append] at below

theorem written?_first (disk : Disk) :
    [file (directory.join ⟨"build.gradle"⟩) buildLines,
      file (directory.join ⟨"settings.gradle"⟩) (settingsLines title)].filterMap disk.written? =
        Part.first.map (written disk directory spec title) := by
  have here := Path.Below.refl directory
  have build : Path.IsName "build.gradle" := ⟨by decide, by decide, by decide⟩
  have settings : Path.IsName "settings.gradle" := ⟨by decide, by decide, by decide⟩
  rw [file, file, List.filterMap_cons_some (written?_file disk (below_file here build) _),
    List.filterMap_cons_some (written?_file disk (below_file here settings) _)]
  rfl

theorem written?_listed (disk : Disk) (checked : checkPackages spec = .ok ()) :
    ((structureOf spec).flatMap (packageSteps (packageDirectory directory spec .standard)
      spec.basePackage)).filterMap disk.written? =
        (Part.listed spec).map (written disk directory spec title) := by
  rw [List.filterMap_flatMap, Part.listed, List.map_flatMap]
  refine List.flatMap_congr fun entry member => ?_
  obtain ⟨package, classes⟩ := (checkPackages_ok_iff.mp checked).2.2 entry member
  exact written?_package disk (below_packages checked) package classes

theorem written?_last (disk : Disk) (checked : checkPackages spec = .ok ()) :
    ([file ((packageDirectory directory spec .standard).join ⟨"Application.java"⟩)
        (applicationLines spec.basePackage),
      file ((directory.join ⟨Settings.standard.resourcesRoot⟩).join ⟨"application.yml"⟩) resourceLines]
    ++ noteSteps (directory.join ⟨"API_REQUIREMENTS.md"⟩) spec.requirements
    ++ noteSteps (directory.join ⟨"API_STANDARDS.md"⟩) spec.standards).filterMap disk.written? =
      (Part.last spec).map (written disk directory spec title) := by
  have here := Path.Below.refl directory
  have application : Path.IsName "Application.java" := ⟨by decide, by decide, by decide⟩
  have resources : Path.IsName "application.yml" := ⟨by decide, by decide, by decide⟩
  have requirements : Path.IsName "API_REQUIREMENTS.md" := ⟨by decide, by decide, by decide⟩
  have standards : Path.IsName "API_STANDARDS.md" := ⟨by decide, by decide, by decide⟩
  have early : [file ((packageDirectory directory spec .standard).join ⟨"Application.java"⟩)
        (applicationLines spec.basePackage),
      file ((directory.join ⟨Settings.standard.resourcesRoot⟩).join ⟨"application.yml"⟩)
        resourceLines].filterMap disk.written? =
      [Part.application, Part.resources].map (written disk directory spec title) := by
    rw [file, file,
      List.filterMap_cons_some (written?_file disk (below_file (below_packages checked) application) _),
      List.filterMap_cons_some (written?_file disk (below_file below_resources resources) _)]
    rfl
  have first : (noteSteps (directory.join ⟨"API_REQUIREMENTS.md"⟩) spec.requirements).filterMap
      disk.written? = (Part.ofNote .requirements spec.requirements).map
        (written disk directory spec title) := written?_note disk (below_file here requirements) rfl
  have second : (noteSteps (directory.join ⟨"API_STANDARDS.md"⟩) spec.standards).filterMap
      disk.written? = (Part.ofNote .standards spec.standards).map (written disk directory spec title) :=
    written?_note disk (below_file here standards) rfl
  simp only [Part.last, List.filterMap_append, List.map_append, early, first, second]

-- What the plan writes, in order.
theorem written?_plan (disk : Disk) (name : String) (checked : checkPackages spec = .ok ()) :
    (plan directory name spec .standard).filterMap disk.written? =
      (Part.first ++ Part.listed spec ++ Part.last spec).map
        (written disk directory spec (buildName directory name)) := by
  have directories : (standardDirectories.map fun child => Step.directory
      ((packageDirectory directory spec .standard).join ⟨child⟩)).filterMap disk.written? = [] := rfl
  rw [List.map_append, List.map_append, ← written?_first, ← written?_listed disk checked,
    ← written?_last disk checked]
  simp only [plan, List.filterMap_append, directories, List.append_assoc, List.nil_append]

theorem mem_of_lookup {disk : Disk} {parts : List Part} {names : List String} {text : String}
    (found : (parts.map (written disk directory spec title)).reverse.lookup
      (disk.placeOf directory ++ names) = some text) :
    ∃ part ∈ parts, part.names spec = names ∧ part.text spec title = text := by
  obtain ⟨front, back, parted, _⟩ := List.lookup_eq_some_iff.mp found
  have listed : (disk.placeOf directory ++ names, text) ∈ parts.map (written disk directory spec title) :=
    List.mem_reverse.mp (by simp [parted])
  obtain ⟨part, inside, same⟩ := List.mem_map.mp listed
  obtain ⟨places, texts⟩ := Prod.mk.inj same
  exact ⟨part, inside, List.append_cancel_left places, texts⟩

theorem lookup_of_mem (disk : Disk) {parts : List Part} {part : Part} (member : part ∈ parts) :
    (parts.map (written disk directory spec title)).reverse.lookup
      (disk.placeOf directory ++ part.names spec) ≠ none := by
  intro none
  have listed : written disk directory spec title part ∈
      (parts.map (written disk directory spec title)).reverse :=
    List.mem_reverse.mpr (List.mem_map_of_mem member)
  have other := List.lookup_eq_none_iff.mp none _ listed
  simp [written] at other

-- What is written last below the directory is the skeleton: a class that would be the application
-- class is written over by it.
theorem lastWritten?_plan_iff {disk : Disk} {name : String} (checked : checkPackages spec = .ok ())
    {names : List String} {text : String} :
    disk.lastWritten? (plan directory name spec .standard) (disk.placeOf directory ++ names) = some text ↔
      ∃ part : Part, part.Belongs spec ∧ part.names spec = names ∧
        part.text spec (buildName directory name) = text := by
  rw [Disk.lastWritten?, written?_plan disk name checked]
  have belongs : ∀ {names text}, (((Part.first ++ Part.listed spec ++ Part.last spec).map
      (written disk directory spec (buildName directory name))).reverse.lookup
        (disk.placeOf directory ++ names) = some text) → ∃ part : Part, part.Belongs spec ∧
          part.names spec = names ∧ part.text spec (buildName directory name) = text := by
    intro names text found
    rw [List.map_append, List.reverse_append, List.lookup_append] at found
    rcases Option.or_eq_some_iff.mp found with late | ⟨none, early⟩
    · obtain ⟨part, member, same⟩ := mem_of_lookup late
      exact ⟨part, (Part.mem_last.mp member).1, same⟩
    · obtain ⟨part, member, same, texts⟩ := mem_of_lookup early
      rcases Part.belongs_or_application (List.mem_append_left _ member) with belongs | hidden
      · exact ⟨part, belongs, same, texts⟩
      · have application : Part.application ∈ Part.last spec := Part.mem_last.mpr ⟨trivial, by simp⟩
        rw [← same, hidden] at none
        exact absurd none (lookup_of_mem disk application)
  constructor
  · exact belongs
  · rintro ⟨part, inside, rfl, rfl⟩
    obtain ⟨text, found⟩ := Option.ne_none_iff_exists'.mp
      (lookup_of_mem disk (Part.mem_of_belongs inside))
    obtain ⟨other, otherInside, same, texts⟩ := belongs found
    rw [Part.names_injective checked otherInside inside same] at texts
    rw [texts]
    exact found

-- What it takes to create a project.
theorem create_created {disk after : Disk} {workspace path : Path} {settings : Settings}
    {title : String} {files : Nat}
    (made : create disk workspace spec settings = (.ok (.created title path files), after)) :
    checkName (Text.trim spec.name) = .ok () ∧ checkPackages spec = .ok () ∧
      path = projectDirectory disk workspace (Text.trim spec.name) ∧ disk.pathExists path = false ∧
      disk.performAll (plan path (Text.trim spec.name) spec settings) = (.ok (), after) := by
  rcases create_cases disk workspace spec settings with
    ⟨_, problem, run⟩ | ⟨checked, ⟨_, run⟩ | ⟨unseen, packages, outcome, reached, performed, run⟩⟩
  · rw [run] at made
    cases made
  · rw [run] at made
    cases made
  · rw [run] at made
    cases outcome with
    | error problem => cases made
    | ok done =>
      cases made
      exact ⟨checked, packages, rfl, unseen, performed⟩

section Created

variable {disk after : Disk} {name : String} (linkFree : disk.tree.LinkFree)
  (packages : checkPackages spec = .ok ())
  (run : disk.performAll (plan directory name spec .standard) = (.ok (), after))

include linkFree packages run

theorem part_placed {part : Part} (belongs : part.Belongs spec) :
    after.tree.node? (disk.placeOf directory ++ part.names spec) =
      some (.file (.text (part.text spec (buildName directory name)))) := by
  have performed := Disk.performed_of_ok linkFree run
  have last : disk.lastWritten? (plan directory name spec .standard)
      (disk.placeOf directory ++ part.names spec) = some (part.text spec (buildName directory name)) :=
    (lastWritten?_plan_iff packages).mpr ⟨part, belongs, rfl, rfl⟩
  exact performed.written _ _ last

-- What stood below the directory was hidden from the path.
theorem stood_detours (closed : disk.tree.Closed) (present : directory.text ≠ "")
    (unseen : disk.pathExists directory = false) {names : List String} (below : names ≠ [])
    (stood : disk.tree.node? (disk.placeOf directory ++ names) ≠ none) : disk.Detours directory := by
  have performed := Disk.performed_of_ok linkFree run
  have confined := Disk.performAll_confined linkFree present
    (plan_inside directory name standard_roots.1 standard_roots.2 packages)
  rw [run] at confined
  have gradle : Path.Below directory (directory.join ⟨"build.gradle"⟩) ["build.gradle"] :=
    below_file (Path.Below.refl directory) ⟨by decide, by decide, by decide⟩
  have reaches := performed.reaches (directory.join ⟨"build.gradle"⟩) (sourceText buildLines)
    List.mem_cons_self
  have leads := reaches.leads
  rw [gradle.steps, List.dropLast_concat, Disk.start_eq gradle.isAbsolute] at leads
  exact confined.detours closed linkFree (gradle.admissible present reaches.admissible) unseen leads
    (closed.above below stood)

-- A file that is no part of the skeleton stood before, in a directory that stood before.
theorem part_or_stood (closed : disk.tree.Closed) (present : directory.text ≠ "")
    (unseen : disk.pathExists directory = false) {names : List String} {content : Content}
    (below : names ≠ [])
    (stands : after.tree.node? (disk.placeOf directory ++ names) = some (.file content)) :
    (∃ part : Part, part.Belongs spec ∧ part.names spec = names) ∨ disk.Detours directory ∧
      disk.tree.node? (disk.placeOf directory ++ names) = some (.file content) := by
  have performed := Disk.performed_of_ok linkFree run
  cases last : disk.lastWritten? (plan directory name spec .standard)
      (disk.placeOf directory ++ names) with
  | some text =>
    obtain ⟨part, belongs, same, _⟩ := (lastWritten?_plan_iff packages).mp last
    exact .inl ⟨part, belongs, same⟩
  | none =>
    have stood : disk.tree.node? (disk.placeOf directory ++ names) = some (.file content) := by
      rcases performed.others _ last with same | ⟨_, made⟩
      · rw [← same, stands]
      · rw [made] at stands
        cases stands
    have detours := stood_detours linkFree packages run closed present unseen below (by simp [stood])
    exact .inr ⟨detours, stood⟩

end Created

-- A description is refused for the reasons that are listed, with nothing written. A project that is
-- created holds every part of its skeleton, and below its directory nothing else, unless that stood
-- already where the path of the workspace hid it.
theorem create_skeleton {disk after : Disk} (linkFree : disk.tree.LinkFree) (closed : disk.tree.Closed)
    (named : ∀ name ∈ disk.workingDirectory, Path.IsName name) {workspace : Path} {spec : ProjectSpec}
    {result : Except Problem Outcome} (made : create disk workspace spec .standard = (result, after)) :
    let name := Text.trim spec.name
    let directory := projectDirectory disk workspace name
    ((∃ path, result = .ok (.alreadyExists path)) ∨
        (∃ problem, result = .error problem ∧ problem.kind = .validation) → after = disk) ∧
    ((∃ problem, result = .error problem ∧ problem.kind = .validation) ↔
      (name = "" ∨ Path.isAbsolute ⟨name⟩ = true ∨ .up ∈ Path.components ⟨name⟩) ∨
      disk.pathExists directory = false ∧ (Text.isBlankText spec.basePackage = true ∨
        ¬Name.IsPackage spec.basePackage ∨ ∃ entry ∈ structureOf spec, ¬Name.IsPackage entry.1 ∨
          ∃ className ∈ entry.2, Name.isFreeName className = false)) ∧
    ∀ title path files, result = .ok (.created title path files) → path = directory ∧
      (∀ part : Part, part.Belongs spec → after.tree.node? (disk.placeOf directory ++ part.names spec) =
        some (.file (.text (part.text spec (buildName directory name))))) ∧
      ∀ names content, names ≠ [] →
        after.tree.node? (disk.placeOf directory ++ names) = some (.file content) →
          (∃ part : Part, part.Belongs spec ∧ part.names spec = names) ∨
            disk.Detours directory ∧
              disk.tree.node? (disk.placeOf directory ++ names) = some (.file content) := by
  intro name directory
  have names : checkName name ≠ .ok () ↔
      name = "" ∨ Path.isAbsolute ⟨name⟩ = true ∨ .up ∈ Path.components ⟨name⟩ := by
    rw [ne_eq, checkName_ok_iff, not_not]
  have packages : checkPackages spec ≠ .ok () ↔ Text.isBlankText spec.basePackage = true ∨
      ¬Name.IsPackage spec.basePackage ∨ ∃ entry ∈ structureOf spec, ¬Name.IsPackage entry.1 ∨
        ∃ className ∈ entry.2, Name.isFreeName className = false := by
    rw [ne_eq, checkPackages_ok_iff]
    simp only [not_and_or, not_forall, exists_prop, Bool.not_eq_false, Bool.not_eq_true]
  refine ⟨create_unmoved made, ?_, ?_⟩
  · rw [← names, ← packages]
    exact create_refused_iff made
  · rintro title path files rfl
    obtain ⟨checked, packages, same, unseen, run⟩ := create_created made
    rw [same] at unseen run
    have present := (projectDirectory_within named workspace checked).1
    exact ⟨same, fun part belongs => part_placed linkFree packages run belongs,
      fun names content below stands =>
        part_or_stood linkFree packages run closed present unseen below stands⟩

-- A directory with a note in it beside its sources, and a project of its name.
def noted : Disk :=
  let sources : List Location := [["d"], ["d", "src"], ["d", "src", "main"], ["d", "src", "main", "java"],
    ["d", "src", "main", "java", "c"]]
  ⟨(sources.foldl (fun tree place => tree.put place .directory) Tree.empty).put ["d", "notes"]
    (.file (.bytes [255])), []⟩

-- One class is listed, in a package below the base package.
def withApi : ProjectSpec := ⟨"d", "c", none, none, some [("web", ["Api"])]⟩

theorem noted_linkFree : noted.tree.LinkFree := Tree.linkFree_of_entries (by decide)

theorem noted_closed : noted.tree.Closed := Tree.closed_of_entries (by decide)

-- What stands at a place once a project is created.
def createdNode? (place : Location) : Except Problem Outcome × Disk → Option Node
  | (.ok (.created _ _ _), after) => after.tree.node? place
  | _ => none

theorem created_of_node {place : Location} {made : Except Problem Outcome × Disk} {node : Node}
    (stands : createdNode? place made = some node) : ∃ title path files after,
      made = (.ok (.created title path files), after) ∧ after.tree.node? place = some node := by
  obtain ⟨result, after⟩ := made
  cases result with
  | error problem => cases stands
  | ok outcome =>
    cases outcome with
    | created title path files => exact ⟨title, path, files, after, rfl, stands⟩
    | alreadyExists path => cases stands

-- The note stays where the project is created.
theorem noted_created : ∃ title path files after,
    create noted ⟨"n/.."⟩ withApi .standard = (.ok (.created title path files), after) ∧
      after.tree.node? ["d", "notes"] = some (.file (.bytes [255])) :=
  created_of_node (by decide +kernel)

theorem noted_place : noted.placeOf (projectDirectory noted ⟨"n/.."⟩ (Text.trim withApi.name)) = ["d"] := by
  unfold Disk.placeOf Path.steps
  decide

theorem notes_apart {part : Part} : part.names spec ≠ ["notes"] := by
  cases part <;> simp [Part.names]

theorem api_belongs : (Part.component "web" "Api").Belongs withApi :=
  ⟨by simp, ("web", ["Api"]), List.mem_cons_self, rfl, List.mem_cons_self⟩

theorem api_names : (Part.component "web" "Api").names withApi =
    ["src", "main", "java", "c", "web", "Api.java"] := by
  decide

theorem create_skeleton_noted : ∃ after,
    after.tree.node? ["d", "build.gradle"] = some (.file (.text (sourceText buildLines))) ∧
    after.tree.node? ["d", "src", "main", "java", "c", "web", "Api.java"] =
      some (.file (.text (sourceText (componentLines "c.web" "Api")))) ∧
    (create noted ⟨"n/.."⟩ withApi .standard).2 = after ∧
    noted.Detours (projectDirectory noted ⟨"n/.."⟩ (Text.trim withApi.name)) := by
  obtain ⟨title, path, files, after, made, stands⟩ := noted_created
  have named : ∀ name ∈ noted.workingDirectory, Path.IsName name := fun _ none => by cases none
  obtain ⟨_, _, created⟩ := create_skeleton noted_linkFree noted_closed named made
  obtain ⟨_, placed, others⟩ := created title path files rfl
  rw [noted_place] at placed others
  have api := placed (.component "web" "Api") api_belongs
  rw [api_names] at api
  refine ⟨after, placed .build trivial, api, by rw [made], ?_⟩
  rcases others ["notes"] _ (by simp) stands with ⟨part, _, same⟩ | ⟨detours, _⟩
  · exact absurd same notes_apart
  · exact detours

-- A project can be created where something stands that is no part of it.
theorem create_skeleton_strangers : ¬ ∀ (disk after : Disk) (workspace path : Path) (spec : ProjectSpec)
    (title : String) (files : Nat), disk.tree.LinkFree → disk.tree.Closed →
      (∀ name ∈ disk.workingDirectory, Path.IsName name) →
      create disk workspace spec .standard = (.ok (.created title path files), after) →
        ∀ names content, names ≠ [] →
          after.tree.node? (disk.placeOf path ++ names) = some (.file content) →
            ∃ part : Part, part.Belongs spec ∧ part.names spec = names := by
  intro only
  obtain ⟨title, path, files, after, made, stands⟩ := noted_created
  have named : ∀ name ∈ noted.workingDirectory, Path.IsName name := fun _ none => by cases none
  obtain ⟨_, _, same, _⟩ := create_created made
  have place : noted.placeOf path = ["d"] := by rw [same, noted_place]
  obtain ⟨part, _, names⟩ := only noted after ⟨"n/.."⟩ path withApi title files noted_linkFree noted_closed
    named made ["notes"] _ (by simp) (by rw [place]; exact stands)
  exact notes_apart names

end Project
end SpringSkeleton
