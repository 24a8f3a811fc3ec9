import SpringSkeleton.Tool.Basic

namespace SpringSkeleton.Session

def protocolVersion : String := "2024-11-05"

def serverName : String := "scaffold"

def serverVersion : String := "0.3.0"

def greeting : Json.Value :=
  Json.Value.record
    [("protocolVersion", .text protocolVersion),
     ("serverInfo",
       Json.Value.record [("name", .text serverName), ("version", .text serverVersion)]),
     ("capabilities", Json.Value.record [("tools", Json.Value.record [])])]

def toolList : Json.Value :=
  Json.Value.record [("tools", .array (Tool.all.map Tool.definition))]

-- The status of an operation as the result of a call.
def callResult (status : String) : Json.Value :=
  Json.Value.record
    [("content", .array [Json.Value.record [("type", .text "text"), ("text", .text status)]]),
     ("isError", .boolean (Status.isFailure status))]

def toolName (params : Json.Value) : Except Rpc.Error String :=
  match params.member? "name" with
  | some (.text name) => .ok name
  | _ => .error ⟨.invalidParams, "Missing tool name"⟩

def requestedCall : Option Json.Value → Except Rpc.Error ToolCall
  | none => .error ⟨.invalidParams, "Missing params"⟩
  | some params =>
    match toolName params with
    | .error error => .error error
    | .ok name => ToolCall.parse name ((params.member? "arguments").getD (Json.Value.record []))

def callTool (workspace : Workspace) (disk : Disk) (params : Option Json.Value) :
    Except Rpc.Error Json.Value × Disk :=
  match requestedCall params with
  | .error error => (.error error, disk)
  | .ok call =>
    let (status, disk) := call.run workspace disk
    (.ok (callResult status), disk)

def dispatch (workspace : Workspace) (disk : Disk) (request : Rpc.Request) :
    Except Rpc.Error Json.Value × Disk :=
  match request.method with
  | "initialize" => (.ok greeting, disk)
  | "tools/list" => (.ok toolList, disk)
  | "tools/call" => callTool workspace disk request.params
  | method => (.error ⟨.methodNotFound, "Method not found: " ++ method⟩, disk)

def unreadable (fault : Json.Fault) : Rpc.Response :=
  ⟨none, .error ⟨.parseError, "Parse error: " ++ fault.message⟩⟩

-- Blank lines and notifications get no answer.
def answer (workspace : Workspace) (disk : Disk) (line : String) : Option Rpc.Response × Disk :=
  if Text.isBlankText line then (none, disk)
  else match Rpc.Request.parse line with
    | .error fault => (some (unreadable fault), disk)
    | .ok request =>
      if request.isNotification then (none, disk)
      else
        let (outcome, disk) := dispatch workspace disk request
        (some ⟨request.id, outcome⟩, disk)

-- Places that the call in a line names, if the line is a call.
def placesNamed (workspace : Workspace) (line : String) : List Path :=
  match Rpc.Request.parse line with
  | .error _ => []
  | .ok request =>
    match requestedCall request.params with
    | .error _ => []
    | .ok call => call.places.map workspace.root.join

-- A line ends with a line feed; a carriage return before it belongs to the end of the line.
def withoutReturn (line : String) : String := (Text.withoutEnding? "\r" line).getD line

def linesOf (input : String) : List String :=
  match (Text.pieces '\n' input).reverse with
  | [] => []
  | last :: ended => ended.reverse.map withoutReturn ++ if last = "" then [] else [last]

-- The answers to several lines, in order.
def answers (workspace : Workspace) : Disk → List String → List Rpc.Response × Disk
  | disk, [] => ([], disk)
  | disk, line :: lines =>
    let (response, disk) := answer workspace disk line
    let (responses, disk) := answers workspace disk lines
    (response.toList ++ responses, disk)

end SpringSkeleton.Session
