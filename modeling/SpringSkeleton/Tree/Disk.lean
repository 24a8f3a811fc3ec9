import SpringSkeleton.Tree.Route

namespace SpringSkeleton

structure Disk where
  tree : Tree
  workingDirectory : Location

namespace Disk

def withTree (disk : Disk) (tree : Tree) : Disk := { disk with tree }

-- Irreducible, so that equations of its callers are not checked by walking along unknown paths.
@[irreducible] def findOn (disk : Disk) (follow : Bool) (path : Path) (route : Route) : Except FileProblem Tree.Spot :=
  if path.text.toList.contains '\x00' then .error .nulInPath
  else if path.text = "" then .error .missing
  else if path.text.utf8ByteSize > longestPath then .error .nameTooLong
  else disk.tree.spot follow mostLinks disk.workingDirectory route

def find (disk : Disk) (follow : Bool) (path : Path) : Except FileProblem Tree.Spot :=
  disk.findOn follow path (Route.ofText path.text)

-- Whatever stands at the end, a path that ends in a slash can only be that of a directory.
def findToWrite (disk : Disk) (path : Path) : Except FileProblem Tree.Spot :=
  let route := Route.ofText path.text
  disk.findOn true path (if route.ending = .slash then route.holder else route)

-- A link is in the way of a new directory, wherever it leads and with or without a slash behind it.
def findToMake (disk : Disk) (path : Path) : Except FileProblem Tree.Spot :=
  disk.findOn false path (Route.ofText path.text).bare

-- What stands at a path. A path that ends like a directory does not lead to a file.
def stat (disk : Disk) (path : Path) : Except FileProblem (Location × Node) :=
  match disk.find true path with
  | .error problem => .error problem
  | .ok ⟨_, none, _⟩ => .error .missing
  | .ok ⟨place, some .directory, _⟩ => .ok (place, .directory)
  | .ok ⟨place, some node, ending⟩ =>
    if ending = .plain then .ok (place, node) else .error .notDirectory

def pathExists (disk : Disk) (path : Path) : Bool := (disk.stat path).toBool

def isDirectory (disk : Disk) (path : Path) : Bool :=
  match disk.stat path with
  | .ok (_, .directory) => true
  | _ => false

def isFile (disk : Disk) (path : Path) : Bool :=
  match disk.stat path with
  | .ok (_, .file _) => true
  | _ => false

def readText (disk : Disk) (path : Path) : Except FileProblem String :=
  match disk.stat path with
  | .error problem => .error problem
  | .ok (_, .directory) => .error .isDirectory
  | .ok (_, .file (.text text)) => .ok text
  | .ok (_, .file (.bytes _)) => .error .notText
  | .ok (_, .link _) => .error .tooManyLinks

def makeDirectory (disk : Disk) (path : Path) : Except FileProblem Disk :=
  match disk.findToMake path with
  | .error problem => .error problem
  | .ok ⟨_, some _, _⟩ => .error .alreadyExists
  | .ok ⟨place, none, _⟩ => .ok (disk.withTree (disk.tree.put place .directory))

-- The path itself, its parent, and so on outwards.
def ancestors : Nat → Path → List Path
  | 0, _ => []
  | bound + 1, path => path :: match path.parent? with
    | none => []
    | some parent => ancestors bound parent

-- An operation that fails may have changed the tree: the directories made on the way stay.
-- Directories are made from the outermost missing one inwards.
def makeChain (disk : Disk) : List Path → Except FileProblem Unit × Disk
  | [] => (.error .missing, disk)
  | path :: outer =>
    if path.text = "" then (.ok (), disk)
    else match disk.makeDirectory path with
      | .ok made => (.ok (), made)
      | .error .missing =>
        match makeChain disk outer with
        | (.error problem, reached) => (.error problem, reached)
        | (.ok (), reached) =>
          match reached.makeDirectory path with
          | .ok made => (.ok (), made)
          | .error problem =>
            if reached.isDirectory path then (.ok (), reached) else (.error problem, reached)
      | .error problem =>
        if disk.isDirectory path then (.ok (), disk) else (.error problem, disk)

def makeDirectories (disk : Disk) (path : Path) : Except FileProblem Unit × Disk :=
  disk.makeChain (ancestors (path.text.length + 1) path)

-- Writing replaces what a file held, or makes a new file.
def writeFile (disk : Disk) (path : Path) (content : Content) : Except FileProblem Disk :=
  match disk.findToWrite path with
  | .error problem => .error problem
  | .ok ⟨_, some .directory, _⟩ => .error .isDirectory
  | .ok ⟨place, _, ending⟩ =>
    if ending = .plain then .ok (disk.withTree (disk.tree.put place (.file content)))
    else .error .isDirectory

def removeFile (disk : Disk) (path : Path) : Except FileProblem Disk :=
  match disk.find false path with
  | .error problem => .error problem
  | .ok ⟨_, none, _⟩ => .error .missing
  | .ok ⟨_, some .directory, _⟩ => .error .isDirectory
  | .ok ⟨place, some _, ending⟩ =>
    if ending = .plain then .ok (disk.withTree (disk.tree.drop place)) else .error .notDirectory

-- A file moves onto a free name or replaces the file or the link there, never a directory.
def renameFile (disk : Disk) (source target : Path) : Except FileProblem Disk :=
  let route := Route.ofText target.text
  match disk.find false source, disk.findOn false target route.holder with
  | .error problem, _ => .error problem
  | _, .error problem => .error problem
  | .ok ⟨place, node, _⟩, .ok _ =>
    if route.ending = .dots then .error .busy
    else match node with
      | none => .error .missing
      | some .directory => .error .isDirectory
      | some node =>
        if route.ending = .slash then .error .notDirectory
        else match disk.find false target with
          | .error problem => .error problem
          | .ok ⟨_, some .directory, _⟩ => .error .isDirectory
          | .ok ⟨goal, _, _⟩ =>
            if place = goal then .ok disk
            else .ok (disk.withTree ((disk.tree.drop place).put goal node))

-- Entries strictly below a directory, relative to it, in the order of the listing.
def entriesBelow (disk : Disk) (place : Location) : List Entry :=
  disk.tree.entries.filterMap fun entry =>
    match Location.below? place entry.1 with
    | none => none
    | some [] => none
    | some (name :: rest) => some (name :: rest, entry.2)

def workingPath (disk : Disk) : Path :=
  ⟨"/" ++ Text.joined '/' disk.workingDirectory⟩

end Disk
end SpringSkeleton
