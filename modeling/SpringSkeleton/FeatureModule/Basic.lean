import SpringSkeleton.Keyed
import SpringSkeleton.Name.Basic
import SpringSkeleton.Text.Case

namespace SpringSkeleton

structure FeatureModule where
  entity : String
  fields : Keyed String
  methods : List String
  basePackage : String
  projectRoot : Path
  deriving DecidableEq

namespace FeatureModule

-- The name of the package, and of the directory, that holds the module.
def feature (spec : FeatureModule) : String := Text.lowercase spec.entity

def featurePackage (spec : FeatureModule) : String := Name.joinPackage spec.basePackage spec.feature

-- One given field joins those before it; two of one name are refused, not merged.
def addField (fields : Keyed String) (given : String × String) : Except NameProblem (Keyed String) :=
  match Name.checkFragment "field type" given.2 with
  | .error problem => .error problem
  | .ok () =>
    match Name.escapeField (Text.trim given.1) with
    | .error problem => .error problem
    | .ok field =>
      match Keyed.find? field fields with
      | some _ => .error (.fieldCollision (Text.trim given.1) field)
      | none => .ok (Keyed.insert field (Text.trim given.2) fields)

def addFields : Keyed String → List (String × String) → Except NameProblem (Keyed String)
  | fields, [] => .ok fields
  | fields, given :: rest =>
    match addField fields given with
    | .error problem => .error problem
    | .ok fields => addFields fields rest

def normalizeMethods : List String → Except NameProblem (List String)
  | [] => .ok []
  | method :: rest =>
    match Name.normalizeSignature method with
    | .error problem => .error problem
    | .ok method => match normalizeMethods rest with
      | .error problem => .error problem
      | .ok methods => .ok (method :: methods)

-- The names are checked first, then the fields in the order of their keys, then the methods.
def build (entity : String) (fields : Keyed String) (methods : List String) (basePackage : String)
    (projectRoot : Path) : Except NameProblem FeatureModule :=
  let entity := Text.trim entity
  match Name.checkTypeName entity with
  | .error problem => .error problem
  | .ok () =>
    match Name.checkPackage basePackage with
    | .error problem => .error problem
    | .ok () =>
      if Name.isReserved (Text.lowercase entity) then
        .error (.reservedFeature entity (Text.lowercase entity))
      else
        match addFields [] fields with
        | .error problem => .error problem
        | .ok fields =>
          match normalizeMethods methods with
          | .error problem => .error problem
          | .ok methods => .ok ⟨entity, fields, methods, basePackage, projectRoot⟩

end FeatureModule
end SpringSkeleton
