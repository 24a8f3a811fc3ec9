import SpringSkeleton.Json.Schema
import SpringSkeleton.Operation
import SpringSkeleton.Rpc.Basic

namespace SpringSkeleton

inductive Tool where
  | bootstrapProject
  | enhanceDomain
  | generateTests
  deriving DecidableEq

namespace Tool

def all : List Tool := [bootstrapProject, enhanceDomain, generateTests]

def name : Tool → String
  | bootstrapProject => "bootstrap_project"
  | enhanceDomain => "enhance_domain"
  | generateTests => "generate_tests"

def description : Tool → String
  | bootstrapProject =>
    "Create a Spring Boot project skeleton (Gradle build, package layout, application class and configuration)"
  | enhanceDomain =>
    "Generate entity, DTO, mapper, repository, service and controller for one entity in an existing project"
  | generateTests => "Generate a JUnit 5 test skeleton for a Java class from its source"

def arguments : Tool → Json.Record
  | bootstrapProject => ProjectRequest.record
  | enhanceDomain => ModuleRequest.record
  | generateTests => TestRequest.record

def ofName? (name : String) : Option Tool := all.find? fun tool => tool.name == name

def definition (tool : Tool) : Json.Value :=
  Json.Value.record
    [("name", .text tool.name),
     ("description", .text tool.description),
     ("inputSchema", tool.arguments.schema)]

end Tool

inductive ToolCall where
  | bootstrapProject (request : ProjectRequest)
  | enhanceDomain (request : ModuleRequest)
  | generateTests (request : TestRequest)
  deriving DecidableEq

namespace ToolCall

def tool : ToolCall → Tool
  | bootstrapProject _ => .bootstrapProject
  | enhanceDomain _ => .enhanceDomain
  | generateTests _ => .generateTests

def ofArguments (tool : Tool) (arguments : Json.Value) : Except Json.Complaint ToolCall :=
  match tool with
  | .bootstrapProject => (ProjectRequest.ofJson arguments).map bootstrapProject
  | .enhanceDomain => (ModuleRequest.ofJson arguments).map enhanceDomain
  | .generateTests => (TestRequest.ofJson arguments).map generateTests

def badArguments (tool : Tool) (complaint : Json.Complaint) : Rpc.Error :=
  ⟨.invalidParams, "Invalid arguments for " ++ tool.name ++ ": " ++ complaint.message⟩

def parse (name : String) (arguments : Json.Value) : Except Rpc.Error ToolCall :=
  match Tool.ofName? name with
  | none => .error ⟨.methodNotFound, "Unknown tool: " ++ name⟩
  | some tool => (ofArguments tool arguments).mapError (badArguments tool)

def arguments : ToolCall → Json.Value
  | bootstrapProject request => request.toJson
  | enhanceDomain request => request.toJson
  | generateTests request => request.toJson

-- Places that a call names, besides the workspace.
def places : ToolCall → List Path
  | bootstrapProject request => [⟨request.name⟩, ⟨request.specPath.getD ""⟩]
  | enhanceDomain request => [⟨request.projectRoot.getD ""⟩]
  | generateTests _ => []

def run (workspace : Workspace) (disk : Disk) : ToolCall → String × Disk
  | bootstrapProject request => Operation.bootstrap workspace disk request
  | enhanceDomain request => Operation.enhance workspace disk request
  | generateTests request => Operation.generateTests workspace disk request

end ToolCall
end SpringSkeleton
