namespace SpringSkeleton

inductive Visibility where
  | publicAccess
  | protectedAccess
  | packageAccess
  | privateAccess
  deriving DecidableEq

structure FieldModel where
  name : String
  declaredType : String
  visibility : Visibility
  isStatic : Bool
  deriving DecidableEq

structure MethodModel where
  name : String
  visibility : Visibility
  deriving DecidableEq

-- Markers are the simple names of the annotations on the class, each once, in ascending order.
structure ClassModel where
  package : String
  name : String
  markers : List String
  fields : List FieldModel
  methods : List MethodModel
  deriving DecidableEq

namespace ClassModel

def publicMethods (model : ClassModel) : List MethodModel :=
  model.methods.filter fun method => method.visibility == .publicAccess

-- Static fields count too.
def privateFields (model : ClassModel) : List FieldModel :=
  model.fields.filter fun field => field.visibility == .privateAccess

end ClassModel

-- Which kind of test a class gets.
inductive Role where
  | plain
  | httpFacing
  deriving DecidableEq

-- The annotations that make a class face the web.
def controllerMarkers : List String := ["RestController", "Controller"]

-- Only the markers decide.
def ClassModel.role (model : ClassModel) : Role :=
  if controllerMarkers.any model.markers.contains then .httpFacing else .plain

end SpringSkeleton
