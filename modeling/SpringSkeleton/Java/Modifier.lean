import SpringSkeleton.Java.Grammar

namespace SpringSkeleton.Java

-- The names of the annotations, and the other modifiers, each in the order of the source.
structure Modifiers where
  annotations : List Span
  words : List String
  deriving DecidableEq

namespace Modifiers

def none : Modifiers := ⟨[], []⟩

def annotated (modifiers : Modifiers) (name : Span) : Modifiers :=
  { modifiers with annotations := name :: modifiers.annotations }

def marked (modifiers : Modifiers) (word : String) : Modifiers :=
  { modifiers with words := word :: modifiers.words }

end Modifiers

namespace Grammar

def continuesName (tokens : Tokens) : Bool := isMark .dot tokens && startsWord (next tokens)

-- A name of several words, with a dot between two words.
def qualifiedName : Rule :=
  sequence [anyWord, repeated continuesName (sequence [mark .dot, anyWord])]

def pair (rules : Rules) : Rule := sequence [anyWord, mark .equals, rules.value]

def startsPair (tokens : Tokens) : Bool := startsWord tokens && isMark .equals (next tokens)

-- Named values, or one value without a name.
def annotationArguments (rules : Rules) : Rule := fun tokens =>
  if isMark .closeRound tokens then .ok tokens
  else if startsPair tokens then listed (pair rules) tokens
  else rules.value tokens

def annotationUse (rules : Rules) : Parse Span := fun tokens =>
  match sequence [mark .sign] tokens with
  | .error left => .error left
  | .ok tokens =>
    match spanOf qualifiedName tokens with
    | .error left => .error left
    | .ok (name, tokens) =>
      (optional (isMark .openRound)
        (between .openRound .closeRound (annotationArguments rules)) tokens).map fun rest => (name, rest)

def annotations (rules : Rules) : Rule := repeated (isMark .sign) rules.annotationUse

-- The value of an annotation's element.
def value (rules : Rules) : Rule := fun tokens =>
  if isMark .openBrace tokens then
    between .openBrace .closeBrace (looseList .closeBrace rules.value) tokens
  else if isMark .sign tokens then rules.annotationUse tokens
  else rules.expression true tokens

def startsModifier (tokens : Tokens) : Bool :=
  isMark .sign tokens || isMark .nonSealed tokens || isWordOf modifierWords tokens

def modifierSteps (rules : Rules) : Nat → Parse Modifiers
  | 0, tokens => .ok (.none, tokens)
  | bound + 1, tokens =>
    if isMark .sign tokens then
      match annotationUse rules tokens with
      | .error left => .error left
      | .ok (name, tokens) =>
        (modifierSteps rules bound tokens).map fun (others, rest) => (others.annotated name, rest)
    else if isMark .nonSealed tokens then
      (modifierSteps rules bound (next tokens)).map fun (others, rest) => (others.marked "non-sealed", rest)
    else if isWordOf modifierWords tokens then
      match word tokens with
      | .error left => .error left
      | .ok (found, tokens) =>
        (modifierSteps rules bound tokens).map fun (others, rest) => (others.marked found.text, rest)
    else .ok (.none, tokens)

def modifiers (rules : Rules) : Parse Modifiers := fun tokens =>
  modifierSteps rules tokens.length tokens

def skipModifiers (rules : Rules) : Rule := fun tokens => (modifiers rules tokens).map Prod.snd

end Grammar
end SpringSkeleton.Java
