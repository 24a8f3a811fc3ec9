import SpringSkeleton.Java.Type

namespace SpringSkeleton.Java.Grammar

def canTakeApart (form : TypeForm) : Bool := form = .simpleName || form = .generic

def isPlaceholder (tokens : Tokens) : Bool :=
  isKeyword "_" tokens && (isMark .comma (next tokens) || isMark .closeRound (next tokens))

def component (rules : Rules) : Rule := fun tokens =>
  if isPlaceholder tokens then .ok (next tokens)
  else match plainType rules tokens with
    | .error left => .error left
    | .ok (form, tokens) =>
      if canTakeApart form && isMark .openRound tokens then rules.pattern tokens
      else anyWord tokens

-- The components of a record, from the opening bracket on.
def components (rules : Rules) : Rule :=
  between .openRound .closeRound (listedUpTo .closeRound (component rules))

def startsPatternName (tokens : Tokens) : Bool :=
  startsWord tokens && !isKeyword "instanceof" tokens

-- What an operand is compared with: a type, with or without a name, or a record.
def testedPattern (rules : Rules) : Rule := fun tokens =>
  match sequence [optional (isKeyword "final") anyWord, annotations rules] tokens with
  | .error left => .error left
  | .ok tokens =>
    match plainType rules tokens with
    | .error left => .error left
    | .ok (form, tokens) =>
      if canTakeApart form && isMark .openRound tokens then components rules tokens
      else optional startsPatternName anyWord tokens

def endsLabel (tokens : Tokens) : Bool :=
  isMark .colon tokens || isMark .arrow tokens || isKeyword "when" tokens

-- A pattern in a label, which an expression could stand in place of.
def labelPattern? (rules : Rules) (tokens : Tokens) : Option Tokens :=
  match typeAhead? rules tokens with
  | none => none
  | some (form, rest) =>
    if startsPatternName rest && !isKeyword "when" rest then some (next rest)
    else if canTakeApart form then
      match tried (components rules) rest with
      | some after => if endsLabel after then some after else none
      | none => none
    else none

end SpringSkeleton.Java.Grammar
