import SpringSkeleton.Json.Record

namespace SpringSkeleton

structure ModuleRequest where
  entity : String
  fields : Keyed String
  methods : List String
  projectRoot : Option String
  deriving DecidableEq

namespace ModuleRequest

@[reducible] def record : Json.Record where
  title := "EnhanceDomainRequest"
  description := "Caller-facing arguments of the enhance-domain operation."
  members :=
    [.required "entityName" .text "Entity name, e.g. Customer",
     .withDefault "fields" .textMap [] "Field map in the form fieldName -> JavaType",
     .withDefault "repositoryMethods" .textList []
       "Repository method signatures, e.g. Optional<CustomerEntity> findByEmail(String email)",
     .withDefault "projectRootPath" .optionalText none
       "Project root; defaults to the server's working project"]

def ofSlots : Json.Slots record.members → ModuleRequest
  | (entity, fields, methods, root, ()) => ⟨entity, fields, methods, root⟩

def slots (request : ModuleRequest) : Json.Slots record.members :=
  (request.entity, request.fields, request.methods, request.projectRoot, ())

def parse (text : String) : Except Json.Fault ModuleRequest := (record.parse text).map ofSlots

def ofJson (value : Json.Value) : Except Json.Complaint ModuleRequest :=
  (record.ofValue value).map ofSlots

def write (request : ModuleRequest) : String := record.write request.slots

def toJson (request : ModuleRequest) : Json.Value := record.toValue request.slots

end ModuleRequest
end SpringSkeleton
