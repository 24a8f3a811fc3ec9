namespace SpringSkeleton

inductive NameProblem where
  | notTypeName (name : String)
  | reservedTypeName (name : String)
  | badPackage (package segment : String)
  | notFieldName (name : String)
  | emptyFragment (role : String)
  | forbiddenCharacter (role text : String) (c : Char)
  | reservedFeature (entity feature : String)
  | fieldCollision (given field : String)
  | emptyProjectName
  | escapingProjectName (name : String)
  | emptyBasePackage
  deriving DecidableEq

-- A delimiter in quotes, with line breaks made visible.
def quotedDelimiter (c : Char) : String :=
  if c = '\n' then "'\\n'" else if c = '\r' then "'\\r'" else "'" ++ c.toString ++ "'"

def NameProblem.message : NameProblem → String
  | notTypeName name => "'" ++ name ++ "' is not a valid Java type name"
  | reservedTypeName name => "'" ++ name ++ "' is a reserved word and cannot name a type"
  | badPackage package segment =>
    "'" ++ package ++ "' is not a valid package name (bad segment '" ++ segment ++ "')"
  | notFieldName name => "'" ++ name ++ "' is not a valid Java field name"
  | emptyFragment role => role ++ " must not be empty"
  | forbiddenCharacter role text c =>
    role ++ " '" ++ text ++ "' contains forbidden character " ++ quotedDelimiter c
  | reservedFeature entity feature =>
    "entity '" ++ entity ++ "' would produce feature package '" ++ feature
      ++ "', which is a reserved word"
  | fieldCollision given field =>
    "field '" ++ given ++ "' collides with another field named '" ++ field ++ "'"
  | emptyProjectName => "project name must not be empty"
  | escapingProjectName name =>
    "project name '" ++ name ++ "' must be a relative path inside the workspace"
  | emptyBasePackage => "base package must not be empty"

end SpringSkeleton
