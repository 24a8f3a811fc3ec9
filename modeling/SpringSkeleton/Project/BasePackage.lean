import SpringSkeleton.Problem
import SpringSkeleton.Settings
import SpringSkeleton.Tree.Disk

namespace SpringSkeleton.Project

def anchorEnding (settings : Settings) : String := settings.anchorSuffix ++ ".java"

def isAnchor (settings : Settings) (entry : Entry) : Bool :=
  match entry.2, entry.1.getLast? with
  | .file _, some name => Text.endsWith (anchorEnding settings) name
  | _, _ => false

-- The path of a directory is that of the source root as it is written and the names on the way.
def isUnlistable (root : Path) (entry : Entry) : Bool :=
  entry.2 = .directory && longestPath < (root.along entry.1).text.utf8ByteSize

-- The directories on the way to a file, as a package.
def packageOf (location : Location) : String := Text.joined '.' location.dropLast

-- Every directory that comes before the application class is listed by its path, and one whose path
-- is too long ends the search.
def endsSearch (settings : Settings) (root : Path) (entry : Entry) : Bool :=
  isAnchor settings entry || isUnlistable root entry

-- What the search comes to at the entry that ends it, if any does.
def searchResult (settings : Settings) (root : Path) : Option Entry → Except Problem String
  | some (location, .directory) => .error (.unlisted (root.along location) .nameTooLong)
  | some (location, _) => .ok (packageOf location)
  | none => .error (.noAnchor (anchorEnding settings) root)

def basePackage (disk : Disk) (project : Path) (settings : Settings) : Except Problem String :=
  let root := project.join ⟨settings.sourceRoot⟩
  match disk.stat root with
  | .ok (place, .directory) =>
    searchResult settings root ((disk.entriesBelow place).find? (endsSearch settings root))
  | _ => .error (.noSourceRoot root)

end SpringSkeleton.Project
