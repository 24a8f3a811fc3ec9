import SpringSkeleton.CommandLine.Option
import SpringSkeleton.Path
import SpringSkeleton.Text.Blank

namespace SpringSkeleton.CommandLine

structure GlobalOptions where
  verbose : Bool
  project : Option Path
  settings : Option Path
  log : Option Path
  deriving DecidableEq

inductive Command where
  | bootstrap (name package : String) (requirements : Option String) (spec : Option Path)
  | enhance (entity : String) (fields : List (String × String)) (methods : List String)
      (root : Option Path)
  | generateTests (className : String) (source : Path) (print : Bool)
  | serve
  | describe
  deriving DecidableEq

structure Invocation where
  options : GlobalOptions
  command : Command
  deriving DecidableEq

-- `name:Type`, cut at the first colon; neither part may be blank.
def parseField? (text : String) : Option (String × String) :=
  match Text.splitFirst? ':' text.toList with
  | none => none
  | some (name, type) =>
    let name := Text.trim (String.ofList name)
    let type := Text.trim (String.ofList type)
    if name = "" ∨ type = "" then none else some (name, type)

def globalRules : List OptionRule :=
  [⟨"verbose", some 'v', .flag, anyValue⟩,
   ⟨"project", some 'p', .value, isFilled⟩,
   ⟨"config", some 'c', .value, isFilled⟩,
   ⟨"log-file", none, .value, isFilled⟩,
   helpRule, versionRule]

def bootstrapRules : List OptionRule :=
  [⟨"package", none, .value, anyValue⟩,
   ⟨"requirements", none, .value, anyValue⟩,
   ⟨"spec", none, .value, isFilled⟩]

def enhanceRules : List OptionRule :=
  [⟨"field", none, .values, fun value => (parseField? value).isSome⟩,
   ⟨"method", none, .values, anyValue⟩,
   ⟨"root", none, .value, isFilled⟩]

def generateTestsRules : List OptionRule :=
  [⟨"source", none, .value, isFilled⟩,
   ⟨"print", none, .flag, anyValue⟩]

def commandNames : List String := ["bootstrap", "enhance", "gen-tests", "mcp", "help"]

def sessionCommandNames : List String := ["stdio", "status", "help"]

-- What help can be asked about at the top level.
def helpTopics : List (List String) :=
  [] :: commandNames.map ([·]) ++ sessionCommandNames.map (["mcp", ·])

def programName : String := "scaffold"

-- Below a command the program is called by the names of the commands too.
def levelRules (path : List String) (own : List OptionRule) (commands : List String) : LevelRules :=
  ⟨Text.joined '-' (programName :: path), globalRules ++ own, commands⟩

def readCommand (rules : LevelRules) (arguments : List String) : Except Halt Level :=
  match readLevel rules arguments with
  | .error halt => .error halt
  | .ok level => if repeatsNothing rules.options level then .ok level else .error .misuse

def readOptions (path : List String) (own : List OptionRule) (arguments : List String) :
    Except Halt Level :=
  readCommand (levelRules path own []) arguments

-- A command that takes exactly one word.
def soleWord (level : Level) : Except Halt String :=
  match level.words with
  | [word] => .ok word
  | _ => .error .misuse

def needed (value : Option String) : Except Halt String :=
  match value with
  | some value => .ok value
  | none => .error .misuse

def pathOf (value : Option String) : Option Path := value.map Path.mk

def bootstrapCommand (level : Level) : Except Halt Command :=
  match soleWord level, needed (level.value? "package") with
  | .ok name, .ok package =>
    .ok (.bootstrap name package (level.value? "requirements") (pathOf (level.value? "spec")))
  | _, _ => .error .misuse

def enhanceCommand (level : Level) : Except Halt Command :=
  (soleWord level).map fun entity =>
    .enhance entity ((level.values "field").filterMap parseField?) (level.values "method")
      (pathOf (level.value? "root"))

def generateTestsCommand (level : Level) : Except Halt Command :=
  match soleWord level, needed (level.value? "source") with
  | .ok name, .ok source => .ok (.generateTests name ⟨source⟩ (level.value? "print").isSome)
  | _, _ => .error .misuse

-- A command without words of its own.
def wordless (command : Command) (level : Level) : Except Halt Command :=
  if level.words = [] then .ok command else .error .misuse

def helpAbout (topics : List (List String)) (topic : List String) : Halt :=
  if topics.contains topic then .help else .misuse

-- The levels from the outermost in, with the command that the innermost one gives.
def finish (levels : List Level) (make : Level → Except Halt Command) (read : Except Halt Level) :
    Except Halt (List Level × Command) :=
  match read with
  | .error halt => .error halt
  | .ok level => (make level).map fun command => (levels ++ [level], command)

def readSessionCommand (outer : Level) (arguments : List String) : Except Halt (List Level × Command) :=
  match readCommand (levelRules ["mcp"] [] sessionCommandNames) arguments with
  | .error halt => .error halt
  | .ok level =>
    match level.command with
    | some ("stdio", rest) => finish [outer, level] (wordless .serve) (readOptions ["mcp", "stdio"] [] rest)
    | some ("status", rest) =>
      finish [outer, level] (wordless .describe) (readOptions ["mcp", "status"] [] rest)
    | some ("help", rest) => .error (helpAbout ([] :: sessionCommandNames.map ([·])) rest)
    | _ => .error .misuse

def readLevels (arguments : List String) : Except Halt (List Level × Command) :=
  match readCommand (levelRules [] [] commandNames) arguments with
  | .error halt => .error halt
  | .ok level =>
    match level.command with
    | some ("bootstrap", rest) =>
      finish [level] bootstrapCommand (readOptions ["bootstrap"] bootstrapRules rest)
    | some ("enhance", rest) =>
      finish [level] enhanceCommand (readOptions ["enhance"] enhanceRules rest)
    | some ("gen-tests", rest) =>
      finish [level] generateTestsCommand (readOptions ["gen-tests"] generateTestsRules rest)
    | some ("mcp", rest) => readSessionCommand level rest
    | some ("help", rest) => .error (helpAbout helpTopics rest)
    | _ => .error .misuse

-- An option given at several levels has the value of the innermost one.
def globalValue? (levels : List Level) (option : String) : Option String :=
  (levels.filterMap fun level => level.value? option).getLast?

def globalOptions (levels : List Level) : GlobalOptions :=
  { verbose := (globalValue? levels "verbose").isSome
    project := pathOf (globalValue? levels "project")
    settings := pathOf (globalValue? levels "config")
    log := pathOf (globalValue? levels "log-file") }

def Command.places : Command → List Path
  | .bootstrap name _ _ spec => ⟨name⟩ :: spec.toList
  | .enhance _ _ _ root => root.toList
  | .generateTests _ source _ => [source]
  | .serve => []
  | .describe => []

-- Places that a command line names: those of the command lie in the project.
def Invocation.places (invocation : Invocation) : List Path :=
  let options := invocation.options
  let inProject := invocation.command.places.map fun place =>
    (options.project.getD ⟨""⟩).join place
  options.project.toList ++ options.settings.toList ++ options.log.toList ++ inProject

def Invocation.parse (arguments : List String) : Except Halt Invocation :=
  (readLevels arguments).map fun (levels, command) => ⟨globalOptions levels, command⟩

end SpringSkeleton.CommandLine
