import SpringSkeleton.Artifact
import SpringSkeleton.Problem
import SpringSkeleton.Tree.Disk

namespace SpringSkeleton

inductive Step where
  | directory (path : Path)
  | file (path : Path) (content : String)

def Step.isFile : Step → Bool
  | directory _ => false
  | file _ _ => true

-- Written directly, files that precede a failure stay. Written by stages, each file is first written
-- under a hidden name beside its target, and moves to the target only when all have been written.
inductive WriteMode where
  | direct
  | staged
  deriving DecidableEq

namespace Disk

def makeDirectoriesFor (disk : Disk) (path : Path) : Except Problem Unit × Disk :=
  match disk.makeDirectories path with
  | (.ok (), disk) => (.ok (), disk)
  | (.error cause, disk) => (.error (.file path cause), disk)

-- The directory that a file goes into.
def makeParentFor (disk : Disk) (path : Path) : Except Problem Unit × Disk :=
  match path.parent? with
  | none => (.ok (), disk)
  | some parent => disk.makeDirectoriesFor parent

def perform (disk : Disk) : Step → Except Problem Unit × Disk
  | .directory path => disk.makeDirectoriesFor path
  | .file path content =>
    match disk.makeParentFor path with
    | (.error problem, disk) => (.error problem, disk)
    | (.ok (), disk) =>
      match disk.writeFile path (.text content) with
      | .ok written => (.ok (), written)
      | .error cause => (.error (.file path cause), disk)

-- The first failure ends the run.
def performAll (disk : Disk) : List Step → Except Problem Unit × Disk
  | [] => (.ok (), disk)
  | step :: rest =>
    match disk.perform step with
    | (.error problem, disk) => (.error problem, disk)
    | (.ok (), disk) => performAll disk rest

def targets (base : Path) (artifacts : List Artifact) : List Path :=
  artifacts.map fun artifact => base.join artifact.path

def writeDirect (disk : Disk) (base : Path) (artifacts : List Artifact) :
    Except Problem (List Path) × Disk :=
  let steps := artifacts.map fun artifact => Step.file (base.join artifact.path) artifact.content
  match disk.performAll steps with
  | (.error problem, disk) => (.error problem, disk)
  | (.ok (), disk) => (.ok (targets base artifacts), disk)

def stagingName (name : String) : String := "." ++ name ++ ".scaffold-tmp"

def stagingPath (target : Path) : Path :=
  target.withFileName (stagingName (target.fileName?.getD ""))

-- Staged files that will not be needed. One that cannot be removed stays.
def discard (disk : Disk) : List Path → Disk
  | [] => disk
  | target :: rest =>
    match disk.removeFile (stagingPath target) with
    | .ok removed => discard removed rest
    | .error _ => discard disk rest

-- Irreducible, so that equations of `stageAll` are not checked by computing unknown paths.
@[irreducible] def stage (disk : Disk) (target : Path) (content : String) : Except Problem Unit × Disk :=
  match disk.makeParentFor target with
  | (.error problem, disk) => (.error problem, disk)
  | (.ok (), disk) =>
    if disk.isDirectory target then (.error (.file target .targetIsDirectory), disk)
    else match disk.writeFile (stagingPath target) (.text content) with
      | .ok written => (.ok (), written)
      | .error cause => (.error (.file (stagingPath target) cause), disk)

-- A failure takes the files staged before it away again.
def stageAll (disk : Disk) (base : Path) (staged : List Path) : List Artifact → Except Problem Unit × Disk
  | [] => (.ok (), disk)
  | artifact :: rest =>
    let target := base.join artifact.path
    match disk.stage target artifact.content with
    | (.error problem, disk) => (.error problem, disk.discard staged)
    | (.ok (), disk) => stageAll disk base (staged ++ [target]) rest

def moveAll (disk : Disk) : List Path → Except Problem Unit × Disk
  | [] => (.ok (), disk)
  | target :: rest =>
    match disk.renameFile (stagingPath target) target with
    | .error cause => (.error (.file target cause), disk.discard (target :: rest))
    | .ok moved => moveAll moved rest

def writeStaged (disk : Disk) (base : Path) (artifacts : List Artifact) :
    Except Problem (List Path) × Disk :=
  match disk.stageAll base [] artifacts with
  | (.error problem, disk) => (.error problem, disk)
  | (.ok (), disk) =>
    match disk.moveAll (targets base artifacts) with
    | (.error problem, disk) => (.error problem, disk)
    | (.ok (), disk) => (.ok (targets base artifacts), disk)

-- Gives the paths written, in order.
def writeArtifacts (disk : Disk) (base : Path) (artifacts : List Artifact) :
    WriteMode → Except Problem (List Path) × Disk
  | .direct => disk.writeDirect base artifacts
  | .staged => disk.writeStaged base artifacts

end Disk
end SpringSkeleton
