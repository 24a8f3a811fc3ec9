import SpringSkeleton.Project.Creation
import SpringSkeleton.Proofs.Name.Steps
import SpringSkeleton.Proofs.Tree.Confined

namespace SpringSkeleton

namespace Disk
variable {disk after : Disk} {directory path : Path}

theorem workingPath_parts (named : ∀ name ∈ disk.workingDirectory, Path.IsName name) :
    disk.workingPath.isAbsolute = true ∧ disk.workingPath.steps = disk.workingDirectory := by
  have chars : disk.workingPath.text.toList =
      "".toList ++ '/' :: (Text.joined '/' disk.workingDirectory).toList := by simp [workingPath]
  refine ⟨by simp [Path.isAbsolute, chars], ?_⟩
  rw [Path.steps, Text.pieces_of_cut chars, Path.named_append]
  have nothing : Path.named (Text.pieces '/' "") = [] := by decide
  rw [nothing, List.nil_append]
  by_cases none : disk.workingDirectory = []
  · rw [none]
    decide
  · rw [Text.pieces_joined none fun name member => (named name member).whole]
    exact List.filter_eq_self.mpr fun name member => by simp [(named name member).busy]

-- The absolute form of a path leads where the path leads.
theorem placeOf_absolute (named : ∀ name ∈ disk.workingDirectory, Path.IsName name) (path : Path) :
    (Path.absolute disk.workingPath path).isAbsolute = true ∧
      disk.placeOf (Path.absolute disk.workingPath path) = disk.placeOf path := by
  obtain ⟨rooted, workingSteps⟩ := workingPath_parts named
  obtain ⟨absolute, steps⟩ := Path.absolute_parts rooted path
  refine ⟨absolute, ?_⟩
  have down : ".." ∉ disk.workingDirectory := fun up => (named ".." up).down rfl
  rw [placeOf, placeOf, start, start, absolute, if_pos rfl, steps, workingSteps]
  by_cases already : path.isAbsolute = true
  · simp [already]
  · simp [already, Location.descend_append, Location.descend_names _ down]

end Disk

namespace Project
variable {directory path : Path} {names : List String} {spec : ProjectSpec}

-- What a name, and the packages and classes of a description, may be.
theorem checkName_ok_iff {name : String} : checkName name = .ok () ↔
    ¬(name = "" ∨ Path.isAbsolute ⟨name⟩ = true ∨ .up ∈ Path.components ⟨name⟩) := by
  have escapes : ((Path.components ⟨name⟩).any fun part => part = .root ∨ part = .up) = true ↔
      Path.isAbsolute ⟨name⟩ = true ∨ .up ∈ Path.components ⟨name⟩ := by
    rw [← Path.root_mem_components, List.any_eq_true]
    constructor
    · rintro ⟨part, member, escaping⟩
      rcases of_decide_eq_true escaping with rfl | rfl
      · exact .inl member
      · exact .inr member
    · rintro (member | member)
      · exact ⟨_, member, by decide⟩
      · exact ⟨_, member, by decide⟩
  unfold checkName
  by_cases none : name = ""
  · simp [none]
  · rw [if_neg none, ← escapes]
    split
    · rename_i outside
      exact ⟨fun checked => (nomatch checked), fun inside => absurd (.inr outside) inside⟩
    · rename_i inside
      exact ⟨fun _ => not_or.mpr ⟨none, inside⟩, fun _ => rfl⟩

theorem checkName_downward {name : String} (checked : checkName name = .ok ()) :
    Path.Downward ⟨name⟩ := by
  obtain ⟨_, relative, down⟩ : name ≠ "" ∧ ¬Path.isAbsolute ⟨name⟩ = true ∧
      .up ∉ Path.components ⟨name⟩ := by simpa only [not_or] using checkName_ok_iff.mp checked
  exact ⟨by simpa using relative, down⟩

theorem checkClassNames_ok_iff {classes : List String} :
    checkClassNames classes = .ok () ↔ ∀ name ∈ classes, Name.isFreeName name = true := by
  induction classes with
  | nil => simp [checkClassNames]
  | cons name rest ih =>
    rw [List.forall_mem_cons, ← Name.checkTypeName_ok_iff, ← ih, checkClassNames]
    cases Name.checkTypeName name <;> simp

theorem checkStructure_ok_iff {entries : Keyed (List String)} :
    checkStructure entries = .ok () ↔ ∀ entry ∈ entries, Name.IsPackage entry.1 ∧
      ∀ name ∈ entry.2, Name.isFreeName name = true := by
  induction entries with
  | nil => simp [checkStructure]
  | cons entry rest ih =>
    obtain ⟨package, classes⟩ := entry
    rw [List.forall_mem_cons, ← Name.checkPackage_ok_iff, ← checkClassNames_ok_iff, ← ih, checkStructure]
    cases Name.checkPackage package <;> cases checkClassNames classes <;> simp

theorem checkPackages_ok_iff : checkPackages spec = .ok () ↔
    Text.isBlankText spec.basePackage = false ∧ Name.IsPackage spec.basePackage ∧
      ∀ entry ∈ structureOf spec, Name.IsPackage entry.1 ∧
        ∀ name ∈ entry.2, Name.isFreeName name = true := by
  rw [← checkStructure_ok_iff, ← Name.checkPackage_ok_iff]
  unfold checkPackages
  cases blank : Text.isBlankText spec.basePackage <;>
    cases package : Name.checkPackage spec.basePackage <;> simp

theorem below_file {path : Path} {names : List String} (below : Path.Below directory path names)
    {name : String} (isName : Path.IsName name) :
    Path.Below directory (path.join ⟨name⟩) (names ++ [name]) := by
  have further := below.join isName.downward
  rwa [isName.steps] at further

theorem goes_file (path : Path) {name : String} (isName : Path.IsName name) (content : String) :
    (Step.file (path.join ⟨name⟩) content).Goes path :=
  ⟨name, isName, rfl⟩

theorem noteSteps_goes {name : String} (isName : Path.IsName name) (text : Option String) :
    ∀ step ∈ noteSteps (path.join ⟨name⟩) text, step.Goes path := by
  intro step member
  unfold noteSteps at member
  split at member
  · cases member
  · split at member
    · cases member
    · rw [List.mem_singleton.mp member]
      exact goes_file path isName _

theorem packageSteps_goes (packages : Path) {base : String} {entry : String × List String}
    (classes : ∀ name ∈ entry.2, Name.isFreeName name = true) :
    ∀ step ∈ packageSteps packages base entry, step.Goes (packages.join (Name.packagePath entry.1)) := by
  refine List.forall_mem_cons.mpr ⟨rfl, ?_⟩
  intro step member
  obtain ⟨name, inside, rfl⟩ := List.mem_map.mp member
  have identifier := Name.isIdentifier_of_isFreeName (classes name inside)
  exact goes_file _ (Name.isName_append identifier (by decide)) _

-- Where the steps of the plan go: to the directory itself, to its resources, or to a package.
theorem plan_goes {settings : Settings} {step : Step} (checked : checkPackages spec = .ok ())
    {name : String} (member : step ∈ plan directory name spec settings) :
    ∃ place : Path, step.Goes place ∧
      (place = directory ∨ place = directory.join ⟨settings.resourcesRoot⟩ ∨
        place = packageDirectory directory spec settings ∨
        ∃ package, Name.checkPackage package = .ok () ∧
          place = (packageDirectory directory spec settings).join (Name.packagePath package)) := by
  obtain ⟨_, _, entries⟩ := checkPackages_ok_iff.mp checked
  simp only [plan, List.mem_append] at member
  rcases member with ((((first | standard) | below) | last) | requirements) | standards
  · refine ⟨directory, ?_, .inl rfl⟩
    rcases List.mem_pair.mp first with rfl | rfl
    · exact goes_file _ ⟨by decide, by decide, by decide⟩ _
    · exact goes_file _ ⟨by decide, by decide, by decide⟩ _
  · obtain ⟨child, inside, rfl⟩ := List.mem_map.mp standard
    have plain : ∀ child ∈ standardDirectories,
        Name.checkPackage child = .ok () ∧ Name.packagePath child = ⟨child⟩ := by decide
    obtain ⟨package, alone⟩ := plain child inside
    exact ⟨_, rfl, .inr (.inr (.inr ⟨child, package, by rw [alone]⟩))⟩
  · obtain ⟨entry, inside, listed⟩ := List.mem_flatMap.mp below
    obtain ⟨package, classes⟩ := entries entry inside
    exact ⟨_, packageSteps_goes _ classes step listed,
      .inr (.inr (.inr ⟨entry.1, Name.checkPackage_ok_iff.mpr package, rfl⟩))⟩
  · rcases List.mem_pair.mp last with rfl | rfl
    · exact ⟨_, goes_file _ ⟨by decide, by decide, by decide⟩ _, .inr (.inr (.inl rfl))⟩
    · exact ⟨_, goes_file _ ⟨by decide, by decide, by decide⟩ _, .inr (.inl rfl)⟩
  · exact ⟨directory, noteSteps_goes ⟨by decide, by decide, by decide⟩ _ step requirements, .inl rfl⟩
  · exact ⟨directory, noteSteps_goes ⟨by decide, by decide, by decide⟩ _ step standards, .inl rfl⟩

-- The whole plan stays below the directory if the parts of the source tree do.
theorem plan_inside {settings : Settings} (directory : Path) (name : String)
    (source : Path.Downward ⟨settings.sourceRoot⟩) (resources : Path.Downward ⟨settings.resourcesRoot⟩)
    (checked : checkPackages spec = .ok ()) :
    ∀ step ∈ plan directory name spec settings, step.Inside directory := by
  have here := Path.Below.refl directory
  have base := Name.checkPackage_ok_iff.mpr (checkPackages_ok_iff.mp checked).2.1
  have packages := (here.join source).join (Name.packagePath_downward base)
  intro step member
  obtain ⟨place, goes, rfl | rfl | rfl | ⟨package, child, rfl⟩⟩ := plan_goes checked member
  · exact goes.inside here
  · exact goes.inside (here.join resources)
  · exact goes.inside packages
  · exact goes.inside (packages.join (Name.packagePath_downward child))

-- The three ways of a run: refused, nothing to do, or the plan is carried out.
theorem create_cases (disk : Disk) (workspace : Path) (spec : ProjectSpec) (settings : Settings) :
    let name := Text.trim spec.name
    let directory := projectDirectory disk workspace name
    let steps := plan directory name spec settings
    ((checkName name ≠ .ok () ∨ disk.pathExists directory = false ∧ checkPackages spec ≠ .ok ()) ∧
      ∃ problem, create disk workspace spec settings = (.error (.invalid problem), disk)) ∨
    checkName name = .ok () ∧
      (disk.pathExists directory = true ∧
        create disk workspace spec settings = (.ok (.alreadyExists directory), disk) ∨
      disk.pathExists directory = false ∧ checkPackages spec = .ok () ∧
        ∃ result after, disk.performAll steps = (result, after) ∧
          create disk workspace spec settings =
            (result.map fun _ => .created name directory (steps.filter Step.isFile).length, after)) := by
  intro name directory steps
  unfold create
  cases checked : checkName name with
  | error problem => exact .inl ⟨.inl (by simp), problem, by simp [name, checked]⟩
  | ok done =>
    cases there : disk.pathExists directory with
    | true => exact .inr ⟨rfl, .inl ⟨rfl, by simp [name, directory, checked, there]⟩⟩
    | false =>
      cases packages : checkPackages spec with
      | error problem =>
        exact .inl ⟨.inr ⟨rfl, by simp⟩, problem, by simp [name, directory, checked, there]⟩
      | ok done =>
        refine .inr ⟨rfl, .inr ⟨rfl, rfl, ?_⟩⟩
        cases run : disk.performAll steps with
        | mk result reached =>
          refine ⟨result, reached, rfl, ?_⟩
          cases result <;> simp [name, directory, steps, checked, there, run, Except.map]

theorem create_runs (disk : Disk) (workspace : Path) (spec : ProjectSpec) (settings : Settings) :
    (create disk workspace spec settings).2 = disk ∨
      checkName (Text.trim spec.name) = .ok () ∧ checkPackages spec = .ok () ∧
        disk.pathExists (projectDirectory disk workspace (Text.trim spec.name)) = false ∧
        (create disk workspace spec settings).2 =
          (disk.performAll (plan (projectDirectory disk workspace (Text.trim spec.name))
            (Text.trim spec.name) spec settings)).2 := by
  rcases create_cases disk workspace spec settings with
    ⟨_, problem, run⟩ | ⟨name, ⟨_, run⟩ | ⟨unseen, packages, result, after, performed, run⟩⟩
  · exact .inl (congrArg Prod.snd run)
  · exact .inl (congrArg Prod.snd run)
  · exact .inr ⟨name, packages, unseen, by rw [run, performed]⟩

-- The project directory lies at or below the workspace.
theorem projectDirectory_within {disk : Disk}
    (named : ∀ name ∈ disk.workingDirectory, Path.IsName name) (workspace : Path) {name : String}
    (checked : checkName name = .ok ()) :
    (projectDirectory disk workspace name).text ≠ "" ∧
      disk.placeOf workspace <+: disk.placeOf (projectDirectory disk workspace name) := by
  obtain ⟨absolute, same⟩ := Disk.placeOf_absolute named (workspace.join ⟨name⟩)
  have inner := checkName_downward checked
  refine ⟨?_, Path.steps ⟨name⟩, ?_⟩
  · intro empty
    rw [projectDirectory] at empty
    simp [Path.isAbsolute, empty] at absolute
  · rw [projectDirectory, same, Disk.placeOf_append (Path.isAbsolute_join workspace inner.relative)
      (Path.steps_join workspace inner.relative) inner.steps]

-- New directories are missing ones on the way to the project directory. Else only places at or below
-- that directory are touched, and those that held something only if its path makes a detour.
theorem create_confined {disk : Disk} (linkFree : disk.tree.LinkFree) (closed : disk.tree.Closed)
    (named : ∀ name ∈ disk.workingDirectory, Path.IsName name) (workspace : Path) (spec : ProjectSpec)
    {settings : Settings} (source : Path.Downward ⟨settings.sourceRoot⟩)
    (resources : Path.Downward ⟨settings.resourcesRoot⟩) (place : Location) :
    let directory := projectDirectory disk workspace (Text.trim spec.name)
    let after := (create disk workspace spec settings).2
    after.tree.node? place = disk.tree.node? place ∨
      (disk.tree.node? place = none ∧ after.tree.node? place = some .directory ∧
        disk.OnWay directory place) ∨
      (disk.placeOf workspace <+: disk.placeOf directory ∧ disk.placeOf directory <+: place ∧
        after.tree.node? place ≠ none ∧ (disk.tree.node? place = none ∨
          disk.Detours directory ∧ disk.tree.node? place ≠ some .directory ∧
            ∃ content, after.tree.node? place = some (.file content))) := by
  simp only
  rcases create_runs disk workspace spec settings with unmoved | ⟨name, packages, unseen, run⟩
  · rw [unmoved]
    exact .inl rfl
  · obtain ⟨present, within⟩ := projectDirectory_within named workspace name
    have confined := Disk.performAll_confined linkFree present
      (plan_inside _ (Text.trim spec.name) source resources packages)
    rw [run]
    rcases confined.outcome closed linkFree unseen place with still | onWay | ⟨below, there, what⟩
    · exact .inl still
    · exact .inr (.inl onWay)
    · exact .inr (.inr ⟨within, below, there, what⟩)

-- A project that holds one file, and a directory where another file would go.
def occupied : Disk :=
  ⟨((Tree.empty.put ["demo"] .directory).put ["demo", "build.gradle"] (.file (.bytes [255]))).put
    ["demo", "settings.gradle"] .directory, []⟩

def demo : ProjectSpec := ⟨"demo", "com", none, none, none⟩

theorem occupied_linkFree : occupied.tree.LinkFree := Tree.linkFree_of_entries (by decide)

theorem occupied_closed : occupied.tree.Closed := Tree.closed_of_entries (by decide)

theorem occupied_overwritten : (create occupied ⟨"new/.."⟩ demo .standard).2.tree.node?
    ["demo", "build.gradle"] ≠ some (.file (.bytes [255])) := by decide +kernel

theorem standard_roots : Path.Downward ⟨Settings.standard.sourceRoot⟩ ∧
    Path.Downward ⟨Settings.standard.resourcesRoot⟩ :=
  ⟨⟨by decide, by decide⟩, ⟨by decide, by decide⟩⟩

theorem standard_steps : Path.steps ⟨Settings.standard.sourceRoot⟩ = ["src", "main", "java"] ∧
    Path.steps ⟨Settings.standard.resourcesRoot⟩ = ["src", "main", "resources"] := by
  unfold Path.steps
  decide

theorem create_confined_occupied :
    occupied.Detours (projectDirectory occupied ⟨"new/.."⟩ (Text.trim demo.name)) := by
  have named : ∀ name ∈ occupied.workingDirectory, Path.IsName name := fun _ none => by cases none
  have stood : occupied.tree.node? ["demo", "build.gradle"] = some (.file (.bytes [255])) := by decide
  rcases create_confined occupied_linkFree occupied_closed named ⟨"new/.."⟩ demo standard_roots.1
    standard_roots.2 ["demo", "build.gradle"] with same | ⟨none, _⟩ | ⟨_, _, _, none | ⟨detours, _⟩⟩
  · exact absurd (same.trans stood) occupied_overwritten
  · rw [stood] at none
    cases none
  · rw [stood] at none
    cases none
  · exact detours

-- A run can write over files of a project that stood before.
theorem create_overwrites : ¬ ∀ (disk : Disk) (workspace : Path) (spec : ProjectSpec) (settings : Settings),
    disk.tree.LinkFree → disk.tree.Closed → (∀ name ∈ disk.workingDirectory, Path.IsName name) →
      Path.Downward ⟨settings.sourceRoot⟩ → Path.Downward ⟨settings.resourcesRoot⟩ →
        ∀ place content, disk.tree.node? place = some (.file content) →
          (create disk workspace spec settings).2.tree.node? place = some (.file content) := by
  intro kept
  have named : ∀ name ∈ occupied.workingDirectory, Path.IsName name := fun _ none => by cases none
  have stood : occupied.tree.node? ["demo", "build.gradle"] = some (.file (.bytes [255])) := by decide
  exact occupied_overwritten (kept occupied ⟨"new/.."⟩ demo .standard occupied_linkFree occupied_closed
    named standard_roots.1 standard_roots.2 ["demo", "build.gradle"] _ stood)

end Project
end SpringSkeleton
