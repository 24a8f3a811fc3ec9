import SpringSkeleton.ClassModel.Extraction
import SpringSkeleton.ClassModel.Request
import SpringSkeleton.ClassModel.TestSource
import SpringSkeleton.FeatureModule.Rendering
import SpringSkeleton.FeatureModule.Request
import SpringSkeleton.FeatureModule.Writing
import SpringSkeleton.Project.BasePackage
import SpringSkeleton.Project.Creation
import SpringSkeleton.Status

namespace SpringSkeleton

-- Where operations work, and how.
structure Workspace where
  root : Path
  settings : Settings

def WriteMode.ofSettings (settings : Settings) : WriteMode :=
  if settings.atomicWrites then .staged else .direct

namespace Operation

abbrev Outcome (α : Type) := Except Problem α × Disk

def report {α : Type} (action : String) (success : α → String) : Outcome α → String × Disk
  | (.ok value, disk) => (success value, disk)
  | (.error problem, disk) => (Status.failure action problem.message, disk)

def createProject (workspace : Workspace) (disk : Disk) (request : ProjectRequest) :
    Outcome Project.Outcome :=
  match Project.resolve disk workspace.root request with
  | .error problem => (.error problem, disk)
  | .ok spec => Project.create disk workspace.root spec workspace.settings

def projectStatus : Project.Outcome → String
  | .created name path _ => Status.projectCreated name path
  | .alreadyExists path => Status.projectExists path

def bootstrap (workspace : Workspace) (disk : Disk) (request : ProjectRequest) : String × Disk :=
  report "bootstrap project" projectStatus (createProject workspace disk request)

-- The project that a request names, or the workspace itself.
def projectRoot (workspace : Workspace) (request : ModuleRequest) : Path :=
  let given := Text.trim (request.projectRoot.getD "")
  if given = "" then workspace.root else workspace.root.join ⟨given⟩

def planModule (workspace : Workspace) (disk : Disk) (request : ModuleRequest) :
    Except Problem FeatureModule :=
  let root := projectRoot workspace request
  match Project.basePackage disk root workspace.settings with
  | .error problem => .error problem
  | .ok basePackage =>
    (FeatureModule.build request.entity request.fields request.methods basePackage root).mapError .invalid

def addModule (workspace : Workspace) (disk : Disk) (request : ModuleRequest) : Outcome FeatureModule :=
  let settings := workspace.settings
  match planModule workspace disk request with
  | .error problem => (.error problem, disk)
  | .ok spec =>
    match spec.writeIn disk spec.artifacts settings (.ofSettings settings) with
    | (.error problem, disk) => (.error problem, disk)
    | (.ok _, disk) => (.ok spec, disk)

def moduleStatus (settings : Settings) (spec : FeatureModule) : String :=
  Status.domainEnhanced spec.entity spec.featurePackage (spec.featureDirectory settings)

def enhance (workspace : Workspace) (disk : Disk) (request : ModuleRequest) : String × Disk :=
  report "enhance domain" (moduleStatus workspace.settings) (addModule workspace disk request)

def addTest (extractor : Extractor) (workspace : Workspace) (disk : Disk) (request : TestRequest) :
    Outcome Artifact :=
  let settings := workspace.settings
  match extractor ⟨request.source, Text.trim request.className⟩ with
  | .error problem => (.error problem, disk)
  | .ok model =>
    let artifact := model.testArtifact model.role settings
    match disk.writeArtifacts workspace.root [artifact] (.ofSettings settings) with
    | (.error problem, disk) => (.error problem, disk)
    | (.ok _, disk) => (.ok artifact, disk)

def testStatus (workspace : Workspace) (artifact : Artifact) : String :=
  Status.testsGenerated (workspace.root.join artifact.path) artifact.content

def generateTestsBy (extractor : Extractor) (workspace : Workspace) (disk : Disk)
    (request : TestRequest) : String × Disk :=
  report "generate tests" (testStatus workspace) (addTest extractor workspace disk request)

def generateTests (workspace : Workspace) (disk : Disk) (request : TestRequest) : String × Disk :=
  generateTestsBy (ClassModel.extract workspace.settings.fallbackPackage) workspace disk request

end Operation
end SpringSkeleton
