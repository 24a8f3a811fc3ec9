import SpringSkeleton.Json.Record

namespace SpringSkeleton

structure TestRequest where
  className : String
  source : String
  deriving DecidableEq

namespace TestRequest

@[reducible] def record : Json.Record where
  title := "GenerateTestsRequest"
  description := "Arguments of the `generate_tests` tool."
  members :=
    [.required "className" .text "Simple name of the class to test, e.g. CustomerService",
     .required "sourceCode" .text "Full Java source text declaring the class"]

def ofSlots : Json.Slots record.members → TestRequest
  | (className, source, ()) => ⟨className, source⟩

def slots (request : TestRequest) : Json.Slots record.members :=
  (request.className, request.source, ())

def parse (text : String) : Except Json.Fault TestRequest := (record.parse text).map ofSlots

def ofJson (value : Json.Value) : Except Json.Complaint TestRequest :=
  (record.ofValue value).map ofSlots

def write (request : TestRequest) : String := record.write request.slots

def toJson (request : TestRequest) : Json.Value := record.toValue request.slots

end TestRequest
end SpringSkeleton
