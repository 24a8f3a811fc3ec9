import SpringSkeleton.Path

namespace SpringSkeleton

inductive ArtifactKind where
  | entity
  | dto
  | mapper
  | repository
  | service
  | controller
  | test
  deriving DecidableEq

namespace ArtifactKind

-- The kinds that make up a feature module, in the order in which they are generated.
def ofModule : List ArtifactKind := [entity, dto, mapper, repository, service, controller]

def suffix : ArtifactKind → String
  | entity => "Entity"
  | dto => "Dto"
  | mapper => "Mapper"
  | repository => "Repository"
  | service => "Service"
  | controller => "Controller"
  | test => "Test"

def label : ArtifactKind → String
  | entity => "entity"
  | dto => "dto"
  | mapper => "mapper"
  | repository => "repository"
  | service => "service"
  | controller => "controller"
  | test => "test"

def typeName (kind : ArtifactKind) (subject : String) : String := subject ++ kind.suffix

def fileName (kind : ArtifactKind) (subject : String) : String := kind.typeName subject ++ ".java"

end ArtifactKind

-- The path is relative to the directory that the file is written below.
structure Artifact where
  kind : ArtifactKind
  path : Path
  content : String

def Artifact.fileName (artifact : Artifact) : String := artifact.path.fileName?.getD ""

-- The text of a file from its lines, each ended by a line feed.
def sourceText (lines : List String) : String :=
  String.ofList (lines.flatMap fun line => line.toList ++ ['\n'])

end SpringSkeleton
