import SpringSkeleton.CommandLine.Invocation
import SpringSkeleton.CommandLine.Report
import SpringSkeleton.SettingsFile

namespace SpringSkeleton.CommandLine

inductive Progress where
  | finished (report : Report)
  | serving (banner : String) (workspace : Workspace)

-- The log is a file in a directory that is made for it; the name of the file must be there.
def openLog (disk : Disk) (path : Path) : Except Report Unit × Disk :=
  let parent := path.parent?.getD ⟨""⟩
  let directory := if parent.text = "" then ⟨"."⟩ else parent
  match disk.makeDirectories directory with
  | (.error cause, disk) =>
    (.error (.failed [] ⟨"Failed to create log directory " ++ directory.text, [cause.message]⟩), disk)
  | (.ok (), disk) =>
    match path.fileName? with
    | none => (.error (.failed [] ⟨"Invalid log file path: " ++ path.text, []⟩), disk)
    | some name =>
      let file := directory.join ⟨name⟩
      if disk.isFile file then (.ok (), disk)
      else match disk.writeFile file (.text "") with
        | .ok disk => (.ok (), disk)
        | .error cause =>
          (.error ⟨101, "", unlines ["initializing rolling file appender failed: " ++ cause.message]⟩,
            disk)

def openLogs (disk : Disk) (options : GlobalOptions) : Except Report Unit × Disk :=
  match options.log with
  | none => (.ok (), disk)
  | some path => openLog disk path

def projectDirectory (disk : Disk) (options : GlobalOptions) : Path :=
  options.project.getD disk.workingPath

def loadSettings (disk : Disk) (options : GlobalOptions) : Except Failure Settings :=
  match options.settings with
  | some path =>
    (Settings.load disk path).mapError (Failure.within ("Failed to load config " ++ path.text))
  | none => (Settings.discover disk (projectDirectory disk options)).mapError Failure.ofProblem

def counted (fields methods : Nat) : String :=
  "(" ++ toString fields ++ " fields, " ++ toString methods ++ " repository methods)"

-- The status up to its first blank line, and what follows that.
def splitStatus : List Char → List Char × List Char
  | '\n' :: '\n' :: rest => ([], rest)
  | c :: rest => let (head, tail) := splitStatus rest; (c :: head, tail)
  | [] => ([], [])

def testReport (output : List String) (print : Bool) (status : String) : Report :=
  if Status.isFailure status then .ofStatus output status
  else
    let (headline, text) := splitStatus status.toList
    let shown := if print && text ≠ [] then ["", String.ofList text] else []
    .succeeded (output ++ [confirmed (String.ofList headline)] ++ shown)

def runGenerateTests (workspace : Workspace) (disk : Disk) (className : String) (source : Path)
    (print : Bool) : Report × Disk :=
  let path := workspace.root.join source
  match disk.readText path with
  | .error cause => (.failed [] ⟨"Failed to read " ++ path.text, [cause.message]⟩, disk)
  | .ok text =>
    let (status, disk) := Operation.generateTests workspace disk ⟨className, text⟩
    (testReport [announced ("Generating tests for " ++ className)] print status, disk)

def runEnhance (workspace : Workspace) (disk : Disk) (entity : String)
    (fields : List (String × String)) (methods : List String) (root : Option Path) : Report × Disk :=
  let (status, disk) := Operation.enhance workspace disk
    ⟨entity, Keyed.ofList fields, methods, root.map (·.text)⟩
  let step := "Generating feature module for " ++ entity ++ " " ++ counted fields.length methods.length
  (.ofStatus [announced step] status, disk)

def runBootstrap (workspace : Workspace) (disk : Disk) (request : ProjectRequest) : Report × Disk :=
  let (status, disk) := Operation.bootstrap workspace disk request
  (.ofStatus [announced ("Bootstrapping project: " ++ request.name)] status, disk)

def finishing (result : Report × Disk) : Progress × Disk := (.finished result.1, result.2)

def perform (workspace : Workspace) (disk : Disk) : Command → Progress × Disk
  | .bootstrap name package requirements spec =>
    finishing (runBootstrap workspace disk ⟨name, package, requirements, spec.map (·.text)⟩)
  | .enhance entity fields methods root =>
    finishing (runEnhance workspace disk entity fields methods root)
  | .generateTests className source print =>
    finishing (runGenerateTests workspace disk className source print)
  | .serve => (.serving (unlines (bannerLines workspace.root)) workspace, disk)
  | .describe =>
    (.finished (.succeeded (descriptionLines workspace.root workspace.settings)), disk)

-- The log comes first, then the settings, then the command.
def begin (disk : Disk) (arguments : List String) : Progress × Disk :=
  match Invocation.parse arguments with
  | .error halt => (.finished (.ofHalt halt), disk)
  | .ok invocation =>
    match openLogs disk invocation.options with
    | (.error report, disk) => (.finished report, disk)
    | (.ok (), disk) =>
      match loadSettings disk invocation.options with
      | .error failure => (.finished (.failed [] failure), disk)
      | .ok settings =>
        perform ⟨projectDirectory disk invocation.options, settings⟩ disk invocation.command

def serve (banner : String) (workspace : Workspace) (disk : Disk) (lines : List String) :
    Report × Disk :=
  let (responses, disk) := Session.answers workspace disk lines
  (⟨0, unlines (responses.map Rpc.Response.write), banner⟩, disk)

def run (disk : Disk) (arguments : List String) (input : String) : Report × Disk :=
  match begin disk arguments with
  | (.finished report, disk) => (report, disk)
  | (.serving banner workspace, disk) => serve banner workspace disk (Session.linesOf input)

end SpringSkeleton.CommandLine
