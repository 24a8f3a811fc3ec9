import SpringSkeleton.Json.Record
import SpringSkeleton.Text.Pieces

namespace SpringSkeleton.Rpc

inductive ErrorCode where
  | parseError
  | methodNotFound
  | invalidParams
  deriving DecidableEq

def ErrorCode.number : ErrorCode → Int
  | parseError => -32700
  | methodNotFound => -32601
  | invalidParams => -32602

structure Error where
  code : ErrorCode
  message : String
  deriving DecidableEq

-- An absent id and one that is null are the same; so are absent and null params.
structure Request where
  id : Option Json.Value
  method : String
  params : Option Json.Value

namespace Request

-- Optional members may be absent from an object, not from a list.
@[reducible] def record : Json.Record where
  title := "JsonRpcRequest"
  description := ""
  members :=
    [.required "jsonrpc" .text "",
     ⟨"id", .optionalValue, some none, none, ""⟩,
     .required "method" .text "",
     ⟨"params", .optionalValue, some none, none, ""⟩]

def ofSlots : Json.Slots record.members → Request
  | (_, id, method, params, ()) => ⟨id, method, params⟩

def parse (text : String) : Except Json.Fault Request := (record.parse text).map ofSlots

def notificationMark : String := "notifications/"

-- A notification has no id and gets no answer.
def isNotification (request : Request) : Bool :=
  request.id.isNone && Text.startsWith notificationMark request.method

end Request

structure Response where
  id : Option Json.Value
  outcome : Except Error Json.Value

namespace Response

def errorMembers (error : Error) : List (String × List Char) :=
  [("code", Json.writtenInt error.code.number), ("message", Json.writtenText error.message)]

def outcomeMember : Except Error Json.Value → String × List Char
  | .ok result => ("result", Json.writtenChars result)
  | .error error => ("error", Json.writtenMembers (errorMembers error))

def write (response : Response) : String :=
  String.ofList <| Json.writtenMembers
    [("jsonrpc", Json.writtenText "2.0"),
     ("id", Json.writtenChars (response.id.getD .null)),
     outcomeMember response.outcome]

end Response
end SpringSkeleton.Rpc
