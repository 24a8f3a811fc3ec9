import SpringSkeleton.Json.Record

namespace SpringSkeleton.Json

def textType : Value := Value.record [("type", .text "string")]

-- What a schema says about the values of a member.
def Shape.schema : Shape → List (String × Value)
  | text => [("type", .text "string")]
  | optionalText => [("type", .array [.text "string", .text "null"])]
  | textMap => [("type", .text "object"), ("additionalProperties", textType)]
  | textList => [("type", .text "array"), ("items", textType)]
  | classLists =>
    [("type", .array [.text "object", .text "null"]),
     ("additionalProperties", Value.record [("type", .text "array"), ("items", textType)])]
  | optionalValue => []

def Member.schema (member : Member) : Value :=
  let default := match member.absentInObject with
    | none => []
    | some value => [("default", member.shape.toValue value)]
  Value.record (("description", .text member.description) :: default ++ member.shape.schema)

def Record.requiredNames (record : Record) : List String :=
  Keyed.keys (Keyed.ofList ((record.members.filter fun member => member.absentInObject.isNone).map
    fun member => (member.name, ())))

def Record.schema (record : Record) : Value :=
  Value.record
    [("title", .text record.title),
     ("description", .text record.description),
     ("type", .text "object"),
     ("properties", Value.record (record.members.map fun member => (member.name, member.schema))),
     ("required", .array (record.requiredNames.map .text))]

end SpringSkeleton.Json
