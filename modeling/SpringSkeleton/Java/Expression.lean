import SpringSkeleton.Java.Pattern

namespace SpringSkeleton.Java

-- What an operand is: only the first three can be assigned to.
inductive OperandForm where
  | name
  | member
  | element
  | other
  deriving DecidableEq

namespace Grammar

def isText : Tokens → Bool
  | .text :: _ => true
  | _ => false

def isTextStart : Tokens → Bool
  | .textStart :: _ => true
  | _ => false

def isTextMiddle : Tokens → Bool
  | .textMiddle :: _ => true
  | _ => false

def isLiteral : Tokens → Bool
  | .literal :: _ => true
  | _ => false

def textEnd : Rule := fun tokens =>
  match tokens with
  | .textEnd :: rest => .ok rest
  | _ => failed tokens

-- A text with expressions inside, from its beginning on.
def interruptedText (rules : Rules) : Rule := fun tokens =>
  sequence
    [rules.expression true,
     repeated isTextMiddle (fun tokens => rules.expression true (next tokens)),
     textEnd] (next tokens)

def startsText (tokens : Tokens) : Bool := isText tokens || isTextStart tokens

def anyText (rules : Rules) : Rule := fun tokens =>
  if isText tokens then .ok (next tokens) else interruptedText rules tokens

def arguments (rules : Rules) : Rule :=
  between .openRound .closeRound (listedUpTo .closeRound (rules.expression true))

def optionalTypeArguments (rules : Rules) : Rule := optional (isMark .less) (typeArguments rules)

def createdType (rules : Rules) : Rule := fun tokens => (typeName rules tokens).map Prod.snd

def createdObject (rules : Rules) : Rule :=
  sequence [arguments rules, optional (isMark .openBrace) rules.body]

def sizedDimension (rules : Rules) : Rule :=
  sequence [annotations rules, between .openSquare .closeSquare (rules.expression true)]

def meetsSizedDimension (rules : Rules) (tokens : Tokens) : Bool :=
  (isMark .openSquare tokens || isMark .sign tokens) && !meetsDimension rules tokens

def bracedValues (rules : Rules) : Rule := fun tokens =>
  if isMark .openBrace tokens then rules.initializer tokens else failed tokens

-- An array is given its sizes or its values.
def createdArray (rules : Rules) : Rule := fun tokens =>
  if meetsDimension rules tokens then
    sequence [dimensions rules, bracedValues rules] tokens
  else
    sequence
      [sizedDimension rules, repeated (meetsSizedDimension rules) (sizedDimension rules),
       dimensions rules] tokens

-- What follows `new`.
def creation (rules : Rules) : Rule := fun tokens =>
  match sequence
    [annotations rules, optionalTypeArguments rules, annotations rules, createdType rules] tokens with
  | .error left => .error left
  | .ok tokens =>
    if isMark .openRound tokens then createdObject rules tokens else createdArray rules tokens

def referenceTarget (rules : Rules) : Rule :=
  sequence [mark .doubleColon, optionalTypeArguments rules, anyWord]

-- A name, and what it is called with if it is called.
def calledName (rules : Rules) : Tokens → Except Nat (OperandForm × Tokens) := fun tokens =>
  match anyWord tokens with
  | .error left => .error left
  | .ok rest =>
    if isMark .openRound rest then (arguments rules rest).map fun after => (.other, after)
    else .ok (.member, rest)

-- What follows a dot after `super`: a member, perhaps of an enclosing type's ancestor.
def inheritedMember (rules : Rules) : Tokens → Except Nat (OperandForm × Tokens) := fun tokens =>
  match optional (isKeyword "super") (sequence [anyWord, mark .dot]) tokens with
  | .error left => .error left
  | .ok tokens =>
    if isMark .less tokens then
      (sequence [typeArguments rules, anyWord, arguments rules] tokens).map fun rest => (.other, rest)
    else calledName rules tokens

-- A call of a constructor of the superclass is no expression.
def startsConstructorCall (rules : Rules) (tokens : Tokens) : Bool :=
  let afterArguments := if isMark .less tokens then tried (typeArguments rules) tokens else some tokens
  match afterArguments with
  | some rest => isKeyword "super" rest && isMark .openRound (next rest)
  | none => false

-- What follows a dot after an operand.
def selected (rules : Rules) (form : OperandForm) : Tokens → Except Nat (OperandForm × Tokens) :=
  fun tokens =>
    if startsText tokens then (anyText rules tokens).map fun rest => (.other, rest)
    else if isMark .less tokens then
      (sequence [typeArguments rules, anyWord, arguments rules] tokens).map fun rest => (.other, rest)
    else if isKeyword "class" tokens then
      if form = .name || form = .member then .ok (.other, next tokens) else failed tokens
    else if isKeyword "new" tokens then (creation rules (next tokens)).map fun rest => (.other, rest)
    else if isKeyword "super" tokens then
      match sequence [anyWord, mark .dot] tokens with
      | .error left => .error left
      | .ok tokens => inheritedMember rules tokens
    else if isKeyword "this" tokens then .ok (.member, next tokens)
    else calledName rules tokens

def selectors (rules : Rules) : Nat → OperandForm → Tokens → Except Nat (OperandForm × Tokens)
  | 0, form, tokens => .ok (form, tokens)
  | bound + 1, form, tokens =>
    if isMark .dot tokens then
      if startsConstructorCall rules (next tokens) then .ok (form, tokens)
      else match selected rules form (next tokens) with
        | .error left => .error left
        | .ok (form, tokens) => selectors rules bound form tokens
    else if isMark .openSquare tokens then
      match between .openSquare .closeSquare (rules.expression true) tokens with
      | .error left => .error left
      | .ok tokens => selectors rules bound .element tokens
    else if isMark .doubleColon tokens then
      match referenceTarget rules tokens with
      | .error left => .error left
      | .ok tokens => selectors rules bound .other tokens
    else .ok (form, tokens)

-- A type that stands in an expression is followed by `::` or by `.class`.
def typeUse (rules : Rules) : Rule := fun tokens =>
  if isMark .dot tokens then sequence [mark .dot, keyword "class"] tokens
  else referenceTarget rules tokens

def startsTypeUse (tokens : Tokens) : Bool :=
  isMark .doubleColon tokens || (isMark .dot tokens && isKeyword "class" (next tokens))

-- A type with arguments or dimensions is no name.
def usedTypeAhead? (rules : Rules) (tokens : Tokens) : Option Tokens :=
  match typeAhead? rules tokens with
  | some (form, rest) =>
    if (form = .generic || form = .array) && startsTypeUse rest then some rest else none
  | none => none

def namedOperand (rules : Rules) : Tokens → Except Nat (OperandForm × Tokens) := fun tokens =>
  match usedTypeAhead? rules tokens with
  | some rest => (typeUse rules rest).map fun after => (.other, after)
  | none =>
    match calledName rules tokens with
    | .error left => .error left
    | .ok (.member, rest) => .ok (.name, rest)
    | .ok found => .ok found

def superOperand (rules : Rules) : Tokens → Except Nat (OperandForm × Tokens) := fun tokens =>
  if isMark .doubleColon tokens then (referenceTarget rules tokens).map fun rest => (.other, rest)
  else match mark .dot tokens with
    | .error left => .error left
    | .ok tokens => inheritedMember rules tokens

def wordOperand (rules : Rules) (word : Word) : Tokens → Except Nat (OperandForm × Tokens) :=
  fun tokens =>
    if primitiveTypes.contains word.text then
      (sequence [skipPlainType rules, typeUse rules] tokens).map fun rest => (.other, rest)
    else match word.text with
      | "new" => (creation rules (next tokens)).map fun rest => (.other, rest)
      | "super" => superOperand rules (next tokens)
      | "this" => .ok (.other, next tokens)
      | "true" => .ok (.other, next tokens)
      | "false" => .ok (.other, next tokens)
      | "null" => .ok (.other, next tokens)
      | _ => namedOperand rules tokens

-- An operand without its selectors.
def bareOperand (rules : Rules) : Tokens → Except Nat (OperandForm × Tokens) := fun tokens =>
  match word? tokens with
  | some word => wordOperand rules word tokens
  | none =>
    if isLiteral tokens then .ok (.other, next tokens)
    else if startsText tokens then (anyText rules tokens).map fun rest => (.other, rest)
    else if isMark .openRound tokens then
      (between .openRound .closeRound (rules.expression true) tokens).map fun rest => (.other, rest)
    else if isMark .sign tokens then
      (sequence [rules.type, referenceTarget rules] tokens).map fun rest => (.other, rest)
    else if isMark .nonSealed tokens then .ok (.name, next tokens)
    else failed tokens

def operand (rules : Rules) : Tokens → Except Nat (OperandForm × Tokens) := fun tokens =>
  match bareOperand rules tokens with
  | .error left => .error left
  | .ok (form, tokens) => selectors rules tokens.length form tokens

-- From inside a bracket to behind the bracket that closes it.
def pastBracket : Nat → Tokens → Option Tokens
  | _, [] => none
  | depth, .mark .openRound :: rest => pastBracket (depth + 1) rest
  | 0, .mark .closeRound :: rest => some rest
  | depth + 1, .mark .closeRound :: rest => pastBracket depth rest
  | depth, _ :: rest => pastBracket depth rest

def startsShortLambda (tokens : Tokens) : Bool :=
  startsWord tokens && !isWordOf operandWords tokens && isMark .arrow (next tokens)

def startsBracketLambda (tokens : Tokens) : Bool :=
  isMark .openRound tokens && (pastBracket 0 (next tokens)).any (isMark .arrow)

def startsBareNames (tokens : Tokens) : Bool :=
  startsWord tokens && (isMark .comma (next tokens) || isMark .closeRound (next tokens))

-- Parameters of a lambda: names alone, or with their types.
def lambdaParameters (rules : Rules) : Rule := fun tokens =>
  if startsWord tokens then .ok (next tokens)
  else if startsBareNames (next tokens) then
    between .openRound .closeRound (listed anyWord) tokens
  else parameters rules tokens

def lambda (rules : Rules) (arrows : Bool) : Rule := fun tokens =>
  match sequence [lambdaParameters rules, mark .arrow] tokens with
  | .error left => .error left
  | .ok tokens =>
    if isMark .openBrace tokens then rules.block tokens else rules.expression arrows tokens

def startsOperand (tokens : Tokens) : Bool :=
  (startsWord tokens && !isKeyword "instanceof" tokens) || isLiteral tokens || startsText tokens
    || isMark .openRound tokens || isMark .negation tokens

def castTypes (rules : Rules) : Rule :=
  sequence [rules.type, repeated (isMark .ampersand) (sequence [mark .ampersand, rules.type])]

-- A name in brackets is no cast before an operator that could join it to what follows.
def castsBefore (named : Bool) (tokens : Tokens) : Bool :=
  startsOperand tokens
    || (isMark .plusOrMinus tokens && !named)
    || (isMark .increment tokens && (startsOperand (next tokens) || !named))

def isPlainName (form : TypeForm) : Bool := form = .simpleName || form = .scopedName

def namesOnly (rules : Rules) (tokens : Tokens) : Bool :=
  match plainType rules tokens with
  | .ok (form, rest) => isPlainName form && isMark .closeRound rest
  | .error _ => false

-- What a cast is applied to, if there is a cast ahead.
def castAhead? (rules : Rules) (tokens : Tokens) : Option Tokens :=
  if isMark .openRound tokens && !isWordOf (operandWords ++ halfReservedWords) (next tokens) then
    match tried (castTypes rules) (next tokens) with
    | none => none
    | some rest =>
      let named := namesOnly rules (next tokens)
      if isMark .closeRound rest && castsBefore named (next rest) then some (next rest) else none
  else none

-- Operators that begin with a closing angle bracket are several tokens.
inductive AngleOperator where
  | binary (rest : Tokens)
  | assignment (rest : Tokens)

def angleOperator? : Tokens → Option AngleOperator
  | .greater true :: .greater true :: .greater true :: .mark .equals :: rest => some (.assignment rest)
  | .greater true :: .greater true :: .mark .equals :: rest => some (.assignment rest)
  | .greater true :: .mark .equals :: rest => some (.binary rest)
  | .greater true :: .greater true :: .greater _ :: rest => some (.binary rest)
  | .greater true :: .greater _ :: rest => some (.binary rest)
  | .greater _ :: rest => some (.binary rest)
  | _ => none

def operatorMarks : List Mark := [.less, .plusOrMinus, .star, .ampersand, .bar, .operator]

def pastBinary? (tokens : Tokens) : Option Tokens :=
  match angleOperator? tokens with
  | some (.binary rest) => some rest
  | some (.assignment _) => none
  | none => if operatorMarks.any (fun mark => isMark mark tokens) then some (next tokens) else none

def pastAssignment? (tokens : Tokens) : Option Tokens :=
  match angleOperator? tokens with
  | some (.assignment rest) => some rest
  | some (.binary _) => none
  | none =>
    if isMark .equals tokens || isMark .assignment tokens then some (next tokens) else none

-- What stands to the right of an operator is a whole expression, so the binding strength of
-- operators plays no part.
-- What can follow an operand: operators behind it, tests, and the rest of an expression.
def continuation (rules : Rules) (arrows : Bool) : Nat → OperandForm → Rule
  | 0, _, tokens => .ok tokens
  | bound + 1, form, tokens =>
    if isMark .increment tokens then continuation rules arrows bound .other (next tokens)
    else if isKeyword "instanceof" tokens then
      match testedPattern rules (next tokens) with
      | .error left => .error left
      | .ok tokens => continuation rules arrows bound .other tokens
    else if isMark .question tokens then
      sequence [mark .question, rules.expression true, mark .colon, rules.expression arrows] tokens
    else match pastBinary? tokens with
      | some rest => rules.expression arrows rest
      | none =>
        match pastAssignment? tokens with
        | some rest => if form = .other then .ok tokens else rules.expression arrows rest
        | none => .ok tokens

def continued (rules : Rules) (arrows : Bool) (form : OperandForm) : Rule := fun tokens =>
  continuation rules arrows tokens.length form tokens

end Grammar
end SpringSkeleton.Java
