import SpringSkeleton.Java.Token

namespace SpringSkeleton.Java

-- Rules look ahead rather than try and step back, so a failure is as far in the source as reading
-- can come. It is given as the number of tokens left there.
abbrev Tokens := List Token

abbrev Rule := Tokens → Except Nat Tokens

-- A rule that gives a value for what it reads.
abbrev Parse (α : Type) := Tokens → Except Nat (α × Tokens)

-- A stretch of a source: how many tokens are left where it begins and where it has ended.
structure Span where
  before : Nat
  after : Nat
  deriving DecidableEq

namespace Grammar

def failed {α : Type} (tokens : Tokens) : Except Nat α := .error tokens.length

def stuck : Rule := fun tokens => failed tokens

def isMark (mark : Mark) : Tokens → Bool
  | .mark found :: _ => found = mark
  | _ => false

def isKeyword (text : String) : Tokens → Bool
  | .word word :: _ => word.text = text
  | _ => false

def isGreater : Tokens → Bool
  | .greater _ :: _ => true
  | _ => false

def word? : Tokens → Option Word
  | .word word :: _ => some word
  | _ => none

def startsWord (tokens : Tokens) : Bool := (word? tokens).isSome

def isWordOf (texts : List String) : Tokens → Bool
  | .word word :: _ => texts.contains word.text
  | _ => false

-- The tokens after the next one.
def next (tokens : Tokens) : Tokens := tokens.drop 1

def mark (mark : Mark) : Rule := fun tokens =>
  if isMark mark tokens then .ok (next tokens) else failed tokens

def keyword (text : String) : Rule := fun tokens =>
  if isKeyword text tokens then .ok (next tokens) else failed tokens

def greater : Rule := fun tokens => if isGreater tokens then .ok (next tokens) else failed tokens

def word : Parse Word := fun tokens =>
  match word? tokens with
  | some found => .ok (found, next tokens)
  | none => failed tokens

def anyWord : Rule := fun tokens => (word tokens).map Prod.snd

def optional (starts : Tokens → Bool) (rule : Rule) : Rule := fun tokens =>
  if starts tokens then rule tokens else .ok tokens

-- One rule after another.
def sequence : List Rule → Rule
  | [], tokens => .ok tokens
  | rule :: rules, tokens => match rule tokens with
    | .error left => .error left
    | .ok tokens => sequence rules tokens

def repeatSteps (more : Tokens → Bool) (rule : Rule) : Nat → Rule
  | 0, tokens => .ok tokens
  | bound + 1, tokens =>
    if more tokens then
      match rule tokens with
      | .error left => .error left
      | .ok tokens => repeatSteps more rule bound tokens
    else .ok tokens

-- Every round reads a token at least.
def repeated (more : Tokens → Bool) (rule : Rule) : Rule := fun tokens =>
  repeatSteps more rule tokens.length tokens

def repeatedTo (close : Mark) (rule : Rule) : Rule :=
  repeated (fun tokens => !isMark close tokens) rule

def listed (rule : Rule) : Rule :=
  sequence [rule, repeated (isMark .comma) (sequence [mark .comma, rule])]

-- A list that may be empty, up to a closing mark, which is left.
def listedUpTo (close : Mark) (rule : Rule) : Rule := fun tokens =>
  if isMark close tokens then .ok tokens else listed rule tokens

-- A list that may be empty and may end in a comma.
def looseListSteps (close : Mark) (rule : Rule) : Nat → Rule
  | 0, tokens => .ok tokens
  | bound + 1, tokens =>
    if isMark close tokens then .ok tokens
    else match rule tokens with
      | .error left => .error left
      | .ok tokens =>
        if isMark .comma tokens then looseListSteps close rule bound (next tokens)
        else .ok tokens

def looseList (close : Mark) (rule : Rule) : Rule := fun tokens =>
  if isMark .comma tokens then .ok (next tokens)
  else looseListSteps close rule tokens.length tokens

def between (opening closing : Mark) (rule : Rule) : Rule :=
  sequence [mark opening, rule, mark closing]

def collectSteps {α : Type} (more : Tokens → Bool) (parse : Parse α) : Nat → Parse (List α)
  | 0, tokens => .ok ([], tokens)
  | bound + 1, tokens =>
    if more tokens then
      match parse tokens with
      | .error left => .error left
      | .ok (found, tokens) =>
        match collectSteps more parse bound tokens with
        | .error left => .error left
        | .ok (others, tokens) => .ok (found :: others, tokens)
    else .ok ([], tokens)

def collect {α : Type} (more : Tokens → Bool) (parse : Parse α) : Parse (List α) := fun tokens =>
  collectSteps more parse tokens.length tokens

-- A rule with the stretch that it reads.
def spanOf (rule : Rule) : Parse Span := fun tokens =>
  match rule tokens with
  | .error left => .error left
  | .ok rest => .ok (⟨tokens.length, rest.length⟩, rest)

-- What a rule would leave, if it succeeds.
def tried (rule : Rule) (tokens : Tokens) : Option Tokens := (rule tokens).toOption

end Grammar

-- The rules that are defined by each other. Each gives what it leaves of the tokens; an expression
-- may be one in which an arrow ends the expression instead of making a lambda.
structure Rules where
  annotationUse : Rule
  type : Rule
  value : Rule
  initializer : Rule
  pattern : Rule
  expression : (arrows : Bool) → Rule
  block : Rule
  statement : Rule
  declaration : Rule
  body : Rule

-- Rules that admit nothing.
def Rules.empty : Rules :=
  ⟨Grammar.stuck, Grammar.stuck, Grammar.stuck, Grammar.stuck, Grammar.stuck,
   fun _ => Grammar.stuck, Grammar.stuck, Grammar.stuck, Grammar.stuck, Grammar.stuck⟩

end SpringSkeleton.Java
