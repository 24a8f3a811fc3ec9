import SpringSkeleton.Text.Pieces

namespace SpringSkeleton

-- A path keeps its text: joining and cutting never tidy what the caller wrote, so a path in a
-- message is the caller's own.
structure Path where
  text : String
  deriving DecidableEq, Inhabited

namespace Path

inductive Component where
  | root
  | here
  | up
  | name (text : String)
  deriving DecidableEq

def isAbsolute (path : Path) : Bool := path.text.toList.head? == some '/'

def join (base path : Path) : Path :=
  if path.isAbsolute || base.text == "" then path
  else if base.text.toList.getLast? == some '/' then ⟨base.text ++ path.text⟩
  else ⟨base.text ++ "/" ++ path.text⟩

def component? (piece : String) : Option Component :=
  if piece == "" || piece == "." then none
  else if piece == ".." then some .up
  else some (.name piece)

-- A dot counts only at the very beginning of a relative path.
def leadingComponents (pieces : List String) : List Component :=
  match pieces with
  | "" :: _ :: _ => [.root]
  | "." :: _ => [.here]
  | _ => []

def components (path : Path) : List Component :=
  let pieces := Text.pieces '/' path.text
  leadingComponents pieces ++ pieces.filterMap component?

def fileName? (path : Path) : Option String :=
  match path.components.getLast? with
  | some (.name text) => some text
  | _ => none

-- Pieces that name nothing are dropped from the end.
def trimPieces (pieces : List String) : List String :=
  (pieces.reverse.dropWhile fun piece => piece == "" || piece == ".").reverse

-- What stands before the body of a path, a leading slash or a leading dot, and the pieces of the body.
def split (path : Path) : String × List String :=
  match Text.pieces '/' path.text with
  | "" :: piece :: rest => ("/", piece :: rest)
  | "." :: rest => (".", if rest = [] then [] else "" :: rest)
  | pieces => ("", pieces)

-- A path without its last component; the root and the empty path have none.
def parent? (path : Path) : Option Path :=
  let (lead, pieces) := path.split
  match trimPieces pieces with
  | [] => if lead = "." then some ⟨""⟩ else none
  | body => some ⟨lead ++ Text.joined '/' (trimPieces body.dropLast)⟩

-- The last name is replaced; a path without one is extended.
def withFileName (path : Path) (name : String) : Path :=
  match path.fileName? with
  | some _ => (path.parent?.getD ⟨""⟩).join ⟨name⟩
  | none => path.join ⟨name⟩

def ofPieces (pieces : List String) : Path :=
  pieces.foldl (fun path piece => path.join ⟨piece⟩) ⟨""⟩

-- The path that goes on from another one by some names, one at a time.
def along (base : Path) (names : List String) : Path :=
  names.foldl (fun path name => path.join ⟨name⟩) base

def Component.path : Component → Path
  | root => ⟨"/"⟩
  | here => ⟨"."⟩
  | up => ⟨".."⟩
  | name text => ⟨text⟩

-- Where the components of an absolute form are gathered: exactly two leading slashes are kept.
def absoluteStart (workingDirectory path : Path) : Path × List Component :=
  match path.text.toList with
  | '/' :: '/' :: '/' :: _ => (⟨""⟩, path.components)
  | '/' :: '/' :: _ => (⟨"//"⟩, path.components.drop 1)
  | '/' :: _ => (⟨""⟩, path.components)
  | _ => (workingDirectory, path.components.filter (· ≠ .here))

-- The absolute form drops dots and repeated slashes and keeps `..` and a slash at the end.
def absolute (workingDirectory path : Path) : Path :=
  let (start, components) := absoluteStart workingDirectory path
  let body := components.foldl (fun gathered part => gathered.join part.path) start
  if path.text.toList.getLast? == some '/' then body.join ⟨""⟩ else body

theorem join_of_isAbsolute (base : Path) {path : Path} (h : path.isAbsolute = true) :
    base.join path = path := by
  simp [join, h]

end Path
end SpringSkeleton
