import SpringSkeleton.Extractor
import SpringSkeleton.Java.Failure
import SpringSkeleton.Keyed
import SpringSkeleton.Text.Pieces

namespace SpringSkeleton.ClassModel

-- The last of several access words counts.
def visibilityOf (modifiers : Java.Modifiers) : Visibility :=
  modifiers.words.foldl (fun found word => match word with
    | "public" => .publicAccess
    | "protected" => .protectedAccess
    | "private" => .privateAccess
    | _ => found) .packageAccess

def isStaticBy (modifiers : Java.Modifiers) : Bool := modifiers.words.contains "static"

-- What stands after the last dot of an annotation's name.
def simpleName (name : String) : String := ((Text.pieces '.' name).getLast?).getD name

def markersOf (program : Java.Program) (modifiers : Java.Modifiers) : List String :=
  Keyed.keys (Keyed.ofList
    (modifiers.annotations.map fun name => (simpleName (program.written name), ())))

def fieldsOf (program : Java.Program) : Java.Member → List FieldModel
  | .field declaration => declaration.names.map fun name =>
    { name := name.text
      declaredType := program.written declaration.type
      visibility := visibilityOf declaration.modifiers
      isStatic := isStaticBy declaration.modifiers }
  | _ => []

def methodsOf : Java.Member → List MethodModel
  | .method declaration => [⟨declaration.name.text, visibilityOf declaration.modifiers⟩]
  | _ => []

-- The first package that the source names, if it names one.
def packageOf? (program : Java.Program) : List Java.Item → Option String
  | [] => none
  | .package name :: _ => some (program.written name)
  | _ :: items => packageOf? program items

def classNamed? (name : String) : List Java.Item → Option Java.ClassDeclaration
  | [] => none
  | .classItem declaration :: items =>
    if declaration.name.text = name then some declaration else classNamed? name items
  | _ :: items => classNamed? name items

def ofDeclaration (program : Java.Program) (package : String) (declaration : Java.ClassDeclaration) :
    ClassModel :=
  { package
    name := declaration.name.text
    markers := markersOf program declaration.modifiers
    fields := declaration.members.flatMap (fieldsOf program)
    methods := declaration.members.flatMap methodsOf }

-- A source without a package of its own gets a given one.
def extract (fallback : String) : Extractor := fun query =>
  match Java.parse query.source with
  | .error line => .error (.badSource line)
  | .ok program =>
    match classNamed? query.className program.items with
    | none => .error (.classNotFound query.className)
    | some declaration =>
      .ok (ofDeclaration program ((packageOf? program program.items).getD fallback) declaration)

end SpringSkeleton.ClassModel
