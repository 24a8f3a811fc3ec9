import SpringSkeleton.CommandLine.Option
import SpringSkeleton.Problem
import SpringSkeleton.Status
import SpringSkeleton.Tool.Session

namespace SpringSkeleton.CommandLine

structure Report where
  code : Nat
  output : String
  errors : String
  deriving DecidableEq

def unlines (lines : List String) : String :=
  String.ofList (lines.flatMap fun line => line.toList ++ ['\n'])

-- What went wrong, and what that was caused by, the nearest cause first.
structure Failure where
  message : String
  causes : List String
  deriving DecidableEq

-- A problem with a file is caused by what the file system says.
def causesOf : Problem → List String
  | .file _ cause => [cause.message]
  | _ => []

def Failure.ofProblem (problem : Problem) : Failure := ⟨problem.message, causesOf problem⟩

def Failure.within (context : String) (problem : Problem) : Failure :=
  ⟨context, problem.message :: causesOf problem⟩

def indented (first other text : String) : String :=
  first ++ String.ofList ((Text.joined '\n' (Text.pieces '\n' text)).toList.flatMap fun c =>
    if c = '\n' then '\n' :: other.toList else [c])

def numberedCauses : Nat → List String → List String
  | _, [] => []
  | number, cause :: causes =>
    indented ("    " ++ toString number ++ ": ") "       " cause :: numberedCauses (number + 1) causes

-- Causes are numbered only when there are several.
def causeTexts : List String → List String
  | [] => []
  | [cause] => [indented "    " "    " cause]
  | causes => numberedCauses 0 causes

def Failure.lines (failure : Failure) : List String :=
  ("Error: " ++ failure.message) :: match failure.causes with
    | [] => []
    | causes => "" :: "Caused by:" :: causeTexts causes

def Report.failed (output : List String) (failure : Failure) : Report :=
  ⟨1, unlines output, unlines failure.lines⟩

def Report.succeeded (output : List String) : Report := ⟨0, unlines output, ""⟩

def announced (text : String) : String := "→ " ++ text

def confirmed (text : String) : String := "✓ " ++ text

-- A status ends a run: a failure goes to the errors, anything else is confirmed.
def Report.ofStatus (output : List String) (status : String) : Report :=
  if Status.isFailure status then .failed output ⟨status, []⟩
  else .succeeded (output ++ [confirmed status])

def fact (text : String) : String := "  ▸ " ++ text

def toolCount : String := fact (toString Tool.all.length ++ " tools")

def workspaceFact (directory : Path) : String := fact ("workspace " ++ directory.text)

-- Shown when a session begins to listen.
def bannerLines (directory : Path) : List String :=
  ["  ● Scaffold MCP server running (stdio)", toolCount, workspaceFact directory,
   fact "Ctrl+C to stop", ""]

def toolLine (tool : Tool) : String := "    " ++ tool.name ++ " " ++ tool.description

def settingLine (setting : String × String) : String := "    " ++ setting.1 ++ " " ++ setting.2

def settingTexts (settings : Settings) : List (String × String) :=
  [("source_root", settings.sourceRoot),
   ("resources_root", settings.resourcesRoot),
   ("anchor_suffix", settings.anchorSuffix),
   ("fallback_package", settings.fallbackPackage),
   ("generated_tests_dir", settings.generatedTestsDirectory),
   ("atomic_writes", if settings.atomicWrites then "true" else "false")]

def clientEntryLines (directory : Path) : List String :=
  ["    \x7b",
   "      \"command\": \"scaffold\",",
   "      \"args\": [\"--project\", \"" ++ directory.text ++ "\", \"mcp\", \"stdio\"]",
   "    \x7d"]

-- What a session would offer, and how a client starts one.
def descriptionLines (directory : Path) (settings : Settings) : List String :=
  ["", "● Scaffold MCP Server Status", "", toolCount, workspaceFact directory, "", "  Tools", ""]
  ++ Tool.all.map toolLine
  ++ ["", "  Configuration", ""]
  ++ (settingTexts settings).map settingLine
  ++ ["", "  MCP client entry", ""]
  ++ clientEntryLines directory
  ++ [""]

def usageLine : String := "Usage: scaffold [OPTIONS] <COMMAND>"

def Report.ofHalt : Halt → Report
  | .misuse => ⟨2, "", unlines [usageLine]⟩
  | .version program => .succeeded [program ++ " " ++ Session.serverVersion]
  | .help => .succeeded [usageLine]

end SpringSkeleton.CommandLine
