import SpringSkeleton.Project.Basic
import SpringSkeleton.Project.Files
import SpringSkeleton.Settings
import SpringSkeleton.Text.Blank
import SpringSkeleton.Tree.Writing

namespace SpringSkeleton.Project

inductive Outcome where
  | created (name : String) (path : Path) (files : Nat)
  | alreadyExists (path : Path)
  deriving DecidableEq

-- A name is a path that stays inside the workspace.
def checkName (name : String) : Except NameProblem Unit :=
  if name = "" then .error .emptyProjectName
  else if (Path.components ⟨name⟩).any (fun part => part = .root ∨ part = .up) then
    .error (.escapingProjectName name)
  else .ok ()

def checkClassNames : List String → Except NameProblem Unit
  | [] => .ok ()
  | name :: rest =>
    match Name.checkTypeName name with
    | .error problem => .error problem
    | .ok () => checkClassNames rest

def checkStructure : Keyed (List String) → Except NameProblem Unit
  | [] => .ok ()
  | (package, classes) :: rest =>
    match Name.checkPackage package with
    | .error problem => .error problem
    | .ok () => match checkClassNames classes with
      | .error problem => .error problem
      | .ok () => checkStructure rest

def structureOf (spec : ProjectSpec) : Keyed (List String) :=
  spec.structure_.getD standardStructure

def checkPackages (spec : ProjectSpec) : Except NameProblem Unit :=
  if Text.isBlankText spec.basePackage then .error .emptyBasePackage
  else match Name.checkPackage spec.basePackage with
    | .error problem => .error problem
    | .ok () => checkStructure (structureOf spec)

-- The last name of the directory, or what the project is called if there is none.
def buildName (directory : Path) (name : String) : String := directory.fileName?.getD name

def packageDirectory (directory : Path) (spec : ProjectSpec) (settings : Settings) : Path :=
  (directory.join ⟨settings.sourceRoot⟩).join (Name.packagePath spec.basePackage)

def file (path : Path) (lines : List String) : Step := .file path (sourceText lines)

def classSteps (directory : Path) (package : String) (classes : List String) : List Step :=
  classes.map fun className =>
    file (directory.join ⟨className ++ ".java"⟩) (componentLines package className)

def packageSteps (packages : Path) (basePackage : String) (entry : String × List String) : List Step :=
  let directory := packages.join (Name.packagePath entry.1)
  .directory directory :: classSteps directory (Name.joinPackage basePackage entry.1) entry.2

-- A text that says nothing gets no file.
def noteSteps (path : Path) : Option String → List Step
  | none => []
  | some text => if Text.isBlankText text then [] else [.file path text]

def plan (directory : Path) (name : String) (spec : ProjectSpec) (settings : Settings) : List Step :=
  let packages := packageDirectory directory spec settings
  [file (directory.join ⟨"build.gradle"⟩) buildLines,
   file (directory.join ⟨"settings.gradle"⟩) (settingsLines (buildName directory name))]
  ++ standardDirectories.map (fun child => .directory (packages.join ⟨child⟩))
  ++ (structureOf spec).flatMap (packageSteps packages spec.basePackage)
  ++ [file (packages.join ⟨"Application.java"⟩) (applicationLines spec.basePackage),
      file ((directory.join ⟨settings.resourcesRoot⟩).join ⟨"application.yml"⟩) resourceLines]
  ++ noteSteps (directory.join ⟨"API_REQUIREMENTS.md"⟩) spec.requirements
  ++ noteSteps (directory.join ⟨"API_STANDARDS.md"⟩) spec.standards

def projectDirectory (disk : Disk) (workspace : Path) (name : String) : Path :=
  Path.absolute disk.workingPath (workspace.join ⟨name⟩)

def create (disk : Disk) (workspace : Path) (spec : ProjectSpec) (settings : Settings) :
    Except Problem Outcome × Disk :=
  let name := Text.trim spec.name
  match checkName name with
  | .error problem => (.error (.invalid problem), disk)
  | .ok () =>
    let directory := projectDirectory disk workspace name
    if disk.pathExists directory then (.ok (.alreadyExists directory), disk)
    else match checkPackages spec with
      | .error problem => (.error (.invalid problem), disk)
      | .ok () =>
        let steps := plan directory name spec settings
        match disk.performAll steps with
        | (.error problem, disk) => (.error problem, disk)
        | (.ok (), disk) =>
          (.ok (.created name directory (steps.filter Step.isFile).length), disk)

-- A description at the path that a request gives overrides the rest of the request.
def resolve (disk : Disk) (workspace : Path) (request : ProjectRequest) : Except Problem ProjectSpec :=
  let given := Text.trim (request.specPath.getD "")
  let path := workspace.join ⟨given⟩
  if given = "" ∨ disk.pathExists path = false then .ok (ProjectSpec.ofRequest request)
  else match disk.readText path with
    | .error cause => .error (.file path cause)
    | .ok text => match ProjectSpec.parse text with
      | .error fault => .error (.document fault)
      | .ok spec => .ok spec

end SpringSkeleton.Project
