import SpringSkeleton.Json.Problem
import SpringSkeleton.Name.Problem
import SpringSkeleton.Path
import SpringSkeleton.Toml.Problem
import SpringSkeleton.Tree.FileProblem

namespace SpringSkeleton

inductive ProblemKind where
  | namespaceNotFound
  | classNotFound
  | badSource
  | fileSystem
  | inputOutput
  | json
  | template
  | validation
  | settings
  deriving DecidableEq

-- The sentence begins with the kind; a problem of a file begins with its path instead.
def ProblemKind.introduction : ProblemKind → String
  | namespaceNotFound => "Cannot resolve base package: "
  | classNotFound => "Class not found in provided source code: "
  | badSource => "Parse error: "
  | fileSystem => ""
  | inputOutput => "IO error: "
  | json => "JSON error: "
  | template => "Template error: "
  | validation => "Validation error: "
  | settings => "Configuration error: "

def ProblemKind.describe (kind : ProblemKind) (details : String) : String :=
  kind.introduction ++ details

def fileDetails (path : Path) (cause : String) : String := path.text ++ ": " ++ cause

inductive Problem where
  | noSourceRoot (root : Path)
  | noAnchor (ending : String) (root : Path)
  | classNotFound (name : String)
  | badSource (line : Nat)
  | file (path : Path) (cause : FileProblem)
  | unlisted (directory : Path) (cause : FileProblem)
  | document (fault : Json.Fault)
  | invalid (cause : NameProblem)
  | settings (problem : Toml.Problem)

namespace Problem

def kind : Problem → ProblemKind
  | noSourceRoot _ => .namespaceNotFound
  | noAnchor _ _ => .namespaceNotFound
  | .classNotFound _ => .classNotFound
  | .badSource _ => .badSource
  | file _ _ => .fileSystem
  | unlisted _ _ => .inputOutput
  | document _ => .json
  | invalid _ => .validation
  | .settings _ => .settings

def details : Problem → String
  | noSourceRoot root => "source root " ++ root.text ++ " does not exist"
  | noAnchor ending root => "no *" ++ ending ++ " found under " ++ root.text
  | .classNotFound name => name
  | .badSource line => "invalid Java source near line " ++ toString line
  | file path cause => fileDetails path cause.message
  | unlisted directory cause => "IO error for operation on " ++ fileDetails directory cause.message
  | document fault => fault.message
  | invalid cause => cause.message
  | .settings problem => problem.render

def message (problem : Problem) : String := problem.kind.describe problem.details

end Problem
end SpringSkeleton
