import SpringSkeleton.Text.Pieces

namespace SpringSkeleton.CommandLine

inductive Arity where
  | flag
  | value
  | values
  deriving DecidableEq

structure OptionRule where
  long : String
  short : Option Char
  arity : Arity
  accepts : String → Bool

-- The line is no call of a command, or it asks about the program.
inductive Halt where
  | misuse
  | version (program : String)
  | help
  deriving DecidableEq

-- What a level admits, and what the program is called there.
structure LevelRules where
  program : String
  options : List OptionRule
  commands : List String

structure Given where
  option : String
  value : String
  deriving DecidableEq

-- What one level was given, and the command below it with what follows its name.
structure Level where
  given : List Given
  words : List String
  command : Option (String × List String)

namespace Level

def empty : Level := ⟨[], [], none⟩

def give (level : Level) (option value : String) : Level :=
  { level with given := ⟨option, value⟩ :: level.given }

def values (level : Level) (option : String) : List String :=
  (level.given.filter fun given => given.option == option).map (·.value)

def value? (level : Level) (option : String) : Option String := (level.values option).getLast?

end Level

def anyValue (_ : String) : Bool := true

def isFilled (value : String) : Bool := value ≠ ""

def versionRule : OptionRule := ⟨"version", some 'V', .flag, anyValue⟩

def helpRule : OptionRule := ⟨"help", some 'h', .flag, anyValue⟩

-- Asking for help or for the version ends the reading at once.
def haltOf? (program : String) (rule : OptionRule) : Option Halt :=
  match rule.long with
  | "version" => some (.version program)
  | "help" => some .help
  | _ => none

-- A value of its own does not look like an option.
def looksLikeOption (argument : String) : Bool :=
  match argument.toList with
  | '-' :: _ :: _ => true
  | _ => false

def giveValue (rule : OptionRule) (value : String) (level : Except Halt Level) : Except Halt Level :=
  if rule.accepts value then level.map fun level => level.give rule.long value
  else .error .misuse

-- How an argument begins: an option with or without a value of its own, or a word.
inductive Opening where
  | flags (rules : List OptionRule)
  | attached (flags : List OptionRule) (rule : OptionRule) (value : String)
  | awaiting (flags : List OptionRule) (rule : OptionRule)
  | separator
  | word
  | unknown

def openLong (rules : List OptionRule) (body : List Char) : Opening :=
  let (name, value) := match Text.splitFirst? '=' body with
    | none => (String.ofList body, none)
    | some (name, value) => (String.ofList name, some (String.ofList value))
  match rules.find? fun rule => rule.long == name, value with
  | none, _ => .unknown
  | some rule, none => if rule.arity = .flag then .flags [rule] else .awaiting [] rule
  | some rule, some value => if rule.arity = .flag then .unknown else .attached [] rule value

-- Flags of one letter can be written together; the last letter may take a value.
def openShort (rules : List OptionRule) : List Char → Opening
  | [] => .flags []
  | letter :: rest =>
    match rules.find? fun rule => rule.short == some letter with
    | none => .unknown
    | some rule =>
      if (haltOf? "" rule).isSome then .flags [rule]
      else if rule.arity = .flag then
        match openShort rules rest with
        | .flags flags => .flags (rule :: flags)
        | .attached flags last value => .attached (rule :: flags) last value
        | .awaiting flags last => .awaiting (rule :: flags) last
        | _ => .unknown
      else match rest with
        | [] => .awaiting [] rule
        | '=' :: value => .attached [] rule (String.ofList value)
        | value => .attached [] rule (String.ofList value)

def opening (rules : List OptionRule) (argument : String) : Opening :=
  match argument.toList with
  | ['-', '-'] => .separator
  | '-' :: '-' :: body => openLong rules body
  | '-' :: letter :: letters => openShort rules (letter :: letters)
  | _ => .word

def giveFlags (program : String) (flags : List OptionRule) (level : Except Halt Level) :
    Except Halt Level :=
  match flags with
  | [] => level
  | rule :: rest =>
    match haltOf? program rule with
    | some halt => .error halt
    | none => (giveFlags program rest level).map fun level => level.give rule.long ""

-- At a level with commands below it the first word names one of them.
def readLevel (rules : LevelRules) : List String → Except Halt Level
  | [] => .ok .empty
  | argument :: rest =>
    match opening rules.options argument with
    | .unknown => .error .misuse
    | .separator => .ok { Level.empty with words := rest }
    | .flags flags => giveFlags rules.program flags (readLevel rules rest)
    | .attached flags rule value =>
      giveFlags rules.program flags (giveValue rule value (readLevel rules rest))
    | .awaiting flags rule =>
      match rest with
      | [] => giveFlags rules.program flags (.error .misuse)
      | value :: rest =>
        giveFlags rules.program flags <|
          if looksLikeOption value then .error .misuse
          else giveValue rule value (readLevel rules rest)
    | .word =>
      if rules.commands = [] then
        (readLevel rules rest).map fun level => { level with words := argument :: level.words }
      else if rules.commands.contains argument then
        .ok { Level.empty with command := some (argument, rest) }
      else .error .misuse

-- Only an option that takes several values may be given more than once.
def repeatsNothing (rules : List OptionRule) (level : Level) : Bool :=
  rules.all fun rule => rule.arity = .values || (level.values rule.long).length ≤ 1

end SpringSkeleton.CommandLine
