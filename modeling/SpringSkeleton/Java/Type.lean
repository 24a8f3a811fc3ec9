import SpringSkeleton.Java.Modifier

namespace SpringSkeleton.Java

-- What kind of type was read. Only names are expressions too.
inductive TypeForm where
  | primitive
  | simpleName
  | scopedName
  | generic
  | array
  deriving DecidableEq

namespace Grammar

def startsDimension (tokens : Tokens) : Bool :=
  isMark .openSquare tokens && isMark .closeSquare (next tokens)

def dimension (rules : Rules) : Rule :=
  sequence [annotations rules, mark .openSquare, mark .closeSquare]

-- Annotations belong to a dimension only if one follows them.
def meetsDimension (rules : Rules) (tokens : Tokens) : Bool :=
  startsDimension tokens
    || (isMark .sign tokens && (tried (dimension rules) tokens).isSome)

def dimensions (rules : Rules) : Rule := repeated (meetsDimension rules) (dimension rules)

def wildcardBound (rules : Rules) : Rule :=
  optional (isWordOf ["extends", "super"]) (sequence [anyWord, rules.type])

def typeArgument (rules : Rules) : Rule := fun tokens =>
  match annotations rules tokens with
  | .error left => .error left
  | .ok tokens =>
    if isMark .question tokens then wildcardBound rules (next tokens) else rules.type tokens

def typeArguments (rules : Rules) : Rule := fun tokens =>
  if isMark .less tokens && isGreater (next tokens) then .ok (next (next tokens))
  else sequence [mark .less, listed (typeArgument rules), greater] tokens

def continuesType (tokens : Tokens) : Bool :=
  isMark .dot tokens &&
    (isMark .sign (next tokens)
      || (startsWord (next tokens) && !isWordOf memberWords (next tokens)))

-- After a word of a type: its arguments, and the words inside it.
def typeNameSteps (rules : Rules) : Nat → TypeForm → Parse TypeForm
  | 0, form, tokens => .ok (form, tokens)
  | bound + 1, form, tokens =>
    let arguments : Except Nat (TypeForm × Tokens) :=
      if isMark .less tokens then (typeArguments rules tokens).map fun rest => (.generic, rest)
      else .ok (form, tokens)
    match arguments with
    | .error left => .error left
    | .ok (form, tokens) =>
      if continuesType tokens then
        match sequence [mark .dot, annotations rules, anyWord] tokens with
        | .error left => .error left
        | .ok tokens => typeNameSteps rules bound .scopedName tokens
      else .ok (form, tokens)

def typeName (rules : Rules) : Parse TypeForm := fun tokens =>
  match anyWord tokens with
  | .error left => .error left
  | .ok rest =>
    if isWordOf primitiveTypes tokens then .ok (.primitive, rest)
    else typeNameSteps rules rest.length .simpleName rest

-- A type without annotations before it.
def plainType (rules : Rules) : Parse TypeForm := fun tokens =>
  match typeName rules tokens with
  | .error left => .error left
  | .ok (form, tokens) =>
    if meetsDimension rules tokens then (dimensions rules tokens).map fun rest => (.array, rest)
    else .ok (form, tokens)

def skipPlainType (rules : Rules) : Rule := fun tokens => (plainType rules tokens).map Prod.snd

def type (rules : Rules) : Rule := sequence [annotations rules, skipPlainType rules]

def statementWords : List String :=
  ["if", "while", "do", "for", "assert", "break", "continue", "return", "throw", "try", "import",
   "package", "class", "interface", "enum"]

-- Where an expression may stand too, these words begin no type.
def typelessWords : List String :=
  statementWords ++ modifierWords ++ halfReservedWords ++ operandWords

-- A type that is to be read where an expression may stand as well.
def typeAhead? (rules : Rules) (tokens : Tokens) : Option (TypeForm × Tokens) :=
  if startsWord tokens && !isWordOf typelessWords tokens then (plainType rules tokens).toOption
  else none

-- What follows the type of a declared variable, if there is one ahead.
def declaredAhead? (rules : Rules) (tokens : Tokens) : Option Tokens :=
  match typeAhead? rules tokens with
  | some (_, rest) =>
    if startsWord rest && !isKeyword "instanceof" rest then some rest else none
  | none => none

def typeBound (rules : Rules) : Rule :=
  optional (isKeyword "extends")
    (sequence [anyWord, rules.type, repeated (isMark .ampersand) (sequence [mark .ampersand, rules.type])])

def typeParameter (rules : Rules) : Rule := sequence [annotations rules, anyWord, typeBound rules]

def typeParameters (rules : Rules) : Rule :=
  sequence [mark .less, listed (typeParameter rules), greater]

def optionalTypeParameters (rules : Rules) : Rule := optional (isMark .less) (typeParameters rules)

-- The name of a variable, with dimensions of its own.
def variable_ (rules : Rules) : Parse Word := fun tokens =>
  match word tokens with
  | .error left => .error left
  | .ok (name, tokens) => (dimensions rules tokens).map fun rest => (name, rest)

def initialized (rules : Rules) : Rule :=
  optional (isMark .equals) (sequence [mark .equals, rules.initializer])

def declarator (rules : Rules) : Parse Word := fun tokens =>
  match variable_ rules tokens with
  | .error left => .error left
  | .ok (name, tokens) => (initialized rules tokens).map fun rest => (name, rest)

def skipDeclarator (rules : Rules) : Rule := fun tokens => (declarator rules tokens).map Prod.snd

def otherDeclarator (rules : Rules) : Parse Word := fun tokens =>
  match mark .comma tokens with
  | .error left => .error left
  | .ok tokens => declarator rules tokens

-- The names of one or more variables.
def declarators (rules : Rules) : Parse (List Word) := fun tokens =>
  match declarator rules tokens with
  | .error left => .error left
  | .ok (name, tokens) =>
    (collect (isMark .comma) (otherDeclarator rules) tokens).map fun (names, rest) =>
      (name :: names, rest)

def skipDeclarators (rules : Rules) : Rule := fun tokens => (declarators rules tokens).map Prod.snd

-- Values of an array in braces, or an expression.
def initializer (rules : Rules) : Rule := fun tokens =>
  if isMark .openBrace tokens then
    between .openBrace .closeBrace (looseList .closeBrace rules.initializer) tokens
  else rules.expression true tokens

-- A method can name the object that it is called on before its parameters.
def receiverPath : Rule :=
  sequence [repeated (fun tokens => isMark .dot (next tokens)) (sequence [anyWord, mark .dot]),
    keyword "this"]

def parameterName (rules : Rules) (first : Bool) : Rule := fun tokens =>
  if isMark .ellipsis tokens then
    sequence [mark .ellipsis, annotations rules, skipDeclarator rules] tokens
  else if first && startsWord tokens && isMark .dot (next tokens) then receiverPath tokens
  else sequence [anyWord, dimensions rules] tokens

def parameter (rules : Rules) (first : Bool) : Rule :=
  sequence [skipModifiers rules, skipPlainType rules, parameterName rules first]

def parameterList (rules : Rules) : Rule := fun tokens =>
  if isMark .closeRound tokens then .ok tokens
  else sequence
    [parameter rules true,
     repeated (isMark .comma) (sequence [mark .comma, parameter rules false])] tokens

def parameters (rules : Rules) : Rule := between .openRound .closeRound (parameterList rules)

end Grammar
end SpringSkeleton.Java
