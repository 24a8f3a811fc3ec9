import SpringSkeleton.CommandLine.Run
import SpringSkeleton.Tree.Changes

namespace SpringSkeleton.Main

def contentOf (bytes : ByteArray) : Content :=
  match String.fromUTF8? bytes with
  | some text => .text text
  | none => .bytes bytes.toList

def locationOf (path : String) : Location := (Text.pieces '/' path).filter (· ≠ "")

def pathOf (place : Location) : String := "/" ++ Text.joined '/' place

-- Devices and the like are not seen.
def readNode (entry : IO.FS.DirEntry) : IO (Option Node) := do
  match (← entry.path.symlinkMetadata).type with
  | .dir => return some .directory
  | .file => return some (.file (contentOf (← IO.FS.readBinFile entry.path)))
  | .symlink =>
    if ← entry.path.pathExists then return some (.link (← IO.FS.realPath entry.path).toString)
    else return none
  | .other => return none

partial def readEntries (place : Location) (entries : Array IO.FS.DirEntry) (tree : Tree) :
    IO Tree := do
  let mut tree := tree
  for entry in entries do
    if let some node ← readNode entry then
      let child := place ++ [entry.fileName]
      tree := tree.put child node
      if node = .directory then
        tree ← readEntries child (← entry.path.readDir) tree
  return tree

-- The directories above a place are there if the place is.
def withAncestors (tree : Tree) (place : Location) : Tree :=
  (List.range place.length).foldl
    (fun tree count => if (place.take count).isEmpty then tree else tree.put (place.take count) .directory)
    tree

-- What has been read of a directory before is forgotten.
def readPlace (tree : Tree) (path : Path) : IO Tree := do
  let here ← IO.currentDir
  let path := here / path.text
  if ← path.pathExists then
    let path ← IO.FS.realPath path
    let place := locationOf path.toString
    let tree := withAncestors tree place
    if ← path.isDir then readEntries place (← path.readDir) ((tree.dropBelow place).put place .directory)
    else return tree.put place (.file (contentOf (← IO.FS.readBinFile path)))
  else return tree

def readDisk (places : List Path) : IO Disk := do
  let here ← IO.FS.realPath (← IO.currentDir)
  let mut tree ← readPlace Tree.empty ⟨"."⟩
  for place in places do
    tree ← readPlace tree place
  return ⟨tree, locationOf here.toString⟩

def make : Tree.Change → IO Unit
  | .removed place => IO.FS.removeFile (pathOf place)
  | .placed place .directory => IO.FS.createDir (pathOf place)
  | .placed place (.file (.text text)) => IO.FS.writeFile (pathOf place) text
  | .placed place (.file (.bytes bytes)) => IO.FS.writeBinFile (pathOf place) ⟨bytes.toArray⟩
  | .placed _ (.link _) => return

def makeChanges (before after : Disk) : IO Unit := do
  for change in Tree.changes before.tree after.tree do
    make change

-- The session reads the file system anew for every line.
partial def serve (workspace : Workspace) (input output : IO.FS.Stream) : IO Unit := do
  let line ← input.getLine
  if line.isEmpty then return
  for text in Session.linesOf line do
    let before ← readDisk (workspace.root :: Session.placesNamed workspace text)
    let (response, after) := Session.answer workspace before text
    makeChanges before after
    if let some response := response then
      output.putStrLn response.write
      output.flush
  serve workspace input output

def placesOf (arguments : List String) : List Path :=
  match CommandLine.Invocation.parse arguments with
  | .ok invocation => invocation.places
  | .error _ => []

-- What the command line can reach is read into a tree, the command is carried out on the tree, and
-- the changes to the tree are made in the file system.
def run (arguments : List String) : IO UInt32 := do
  let before ← readDisk (placesOf arguments)
  let (progress, after) := CommandLine.begin before arguments
  makeChanges before after
  match progress with
  | .finished report =>
    IO.print report.output
    IO.eprint report.errors
    return report.code.toUInt32
  | .serving banner workspace =>
    IO.eprint banner
    serve workspace (← IO.getStdin) (← IO.getStdout)
    return 0

end SpringSkeleton.Main

def main (arguments : List String) : IO UInt32 := SpringSkeleton.Main.run arguments
