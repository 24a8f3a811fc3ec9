import SpringSkeleton.Json.Record

namespace SpringSkeleton

-- The structure gives the names of classes to begin with for packages below the base package.
structure ProjectSpec where
  name : String
  basePackage : String
  requirements : Option String
  standards : Option String
  structure_ : Option (Keyed (List String))
  deriving DecidableEq

structure ProjectRequest where
  name : String
  basePackage : String
  requirements : Option String
  specPath : Option String
  deriving DecidableEq

-- The packages of a project that asks for none in particular.
def standardStructure : Keyed (List String) :=
  [("controller", []), ("repository", []), ("service", [])]

-- Directories that every project gets below its base package.
def standardDirectories : List String := ["domain", "mapper", "dto"]

def ProjectSpec.ofRequest (request : ProjectRequest) : ProjectSpec :=
  ⟨request.name, request.basePackage, request.requirements, none, some standardStructure⟩

namespace ProjectSpec

@[reducible] def record : Json.Record where
  title := "ProjectSpecification"
  description := ""
  members :=
    [.required "projectName" .text "",
     .required "basePackage" .text "",
     .withDefault "apiRequirements" .optionalText none "",
     .withDefault "apiGoldStandards" .optionalText none "",
     .withDefault "packageStructure" .classLists none ""]

def ofSlots : Json.Slots record.members → ProjectSpec
  | (name, package, requirements, standards, structure_, ()) =>
    ⟨name, package, requirements, standards, structure_⟩

def slots (spec : ProjectSpec) : Json.Slots record.members :=
  (spec.name, spec.basePackage, spec.requirements, spec.standards, spec.structure_, ())

def parse (text : String) : Except Json.Fault ProjectSpec := (record.parse text).map ofSlots

def write (spec : ProjectSpec) : String := record.write spec.slots

def toJson (spec : ProjectSpec) : Json.Value := record.toValue spec.slots

end ProjectSpec

namespace ProjectRequest

@[reducible] def record : Json.Record where
  title := "BootstrapRequest"
  description := "Caller-facing arguments of the bootstrap operation."
  members :=
    [.required "projectName" .text "Project name; also the directory created under the workspace root",
     .required "basePackage" .text "Base Java package, e.g. com.acme.app",
     .withDefault "apiRequirements" .optionalText none
       "Free-text API requirements, written to API_REQUIREMENTS.md",
     .withDefault "specFilePath" .optionalText none
       "Path to a JSON project specification overriding the other arguments"]

def ofSlots : Json.Slots record.members → ProjectRequest
  | (name, package, requirements, specPath, ()) => ⟨name, package, requirements, specPath⟩

def slots (request : ProjectRequest) : Json.Slots record.members :=
  (request.name, request.basePackage, request.requirements, request.specPath, ())

def parse (text : String) : Except Json.Fault ProjectRequest := (record.parse text).map ofSlots

def ofJson (value : Json.Value) : Except Json.Complaint ProjectRequest :=
  (record.ofValue value).map ofSlots

def write (request : ProjectRequest) : String := record.write request.slots

def toJson (request : ProjectRequest) : Json.Value := record.toValue request.slots

end ProjectRequest
end SpringSkeleton
