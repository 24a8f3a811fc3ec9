import SpringSkeleton.Java.Switch

namespace SpringSkeleton.Java.Grammar

def block (rules : Rules) : Rule :=
  between .openBrace .closeBrace (repeatedTo .closeBrace rules.statement)

def ifStatement (rules : Rules) : Rule :=
  sequence
    [keyword "if", bracketed rules, rules.statement,
     optional (isKeyword "else") (sequence [anyWord, rules.statement])]

def whileStatement (rules : Rules) : Rule :=
  sequence [keyword "while", bracketed rules, rules.statement]

def doStatement (rules : Rules) : Rule :=
  sequence
    [keyword "do", rules.statement, keyword "while", bracketed rules, mark .semicolon]

-- From the name of the first variable on, to the end of the declaration.
def declaratorsEnded (rules : Rules) : Rule := ended (skipDeclarators rules)

def forTail (rules : Rules) : Rule :=
  sequence
    [fun tokens => if isMark .semicolon tokens then .ok tokens else rules.expression true tokens,
     mark .semicolon,
     listedUpTo .closeRound (rules.expression true),
     mark .closeRound,
     rules.statement]

def forEachTail (rules : Rules) : Rule :=
  sequence [mark .colon, rules.expression true, mark .closeRound, rules.statement]

-- A variable in the head of a loop runs over the values of an expression, or has its own start.
def forVariable (rules : Rules) : Rule := fun tokens =>
  match variable_ rules tokens with
  | .error left => .error left
  | .ok (_, rest) =>
    if isMark .colon rest then forEachTail rules rest
    else sequence [declaratorsEnded rules, forTail rules] tokens

def forHead (rules : Rules) : Rule := fun tokens =>
  if startsModifier tokens then
    sequence [skipModifiers rules, skipPlainType rules, forVariable rules] tokens
  else match declaredAhead? rules tokens with
    | some rest => forVariable rules rest
    | none => sequence [listedUpTo .semicolon (rules.expression true), mark .semicolon, forTail rules] tokens

def forStatement (rules : Rules) : Rule :=
  sequence [keyword "for", mark .openRound, forHead rules]

def assertStatement (rules : Rules) : Rule :=
  ended <| sequence
    [keyword "assert", rules.expression true,
     optional (isMark .colon) (sequence [mark .colon, rules.expression true])]

-- `break` and `continue`, perhaps to a label.
def jumpStatement : Rule := ended (sequence [anyWord, optional startsWord anyWord])

def returnStatement (rules : Rules) : Rule := fun tokens =>
  if isMark .semicolon (next tokens) then .ok (next (next tokens))
  else sequence [keyword "return", expressionStatement rules] tokens

-- `yield` can be a name too; what follows tells.
def yieldsAhead (rules : Rules) (tokens : Tokens) : Bool :=
  if isMark .openRound tokens then (tried (expressionStatement rules) tokens).isSome
  else startsOperand tokens || isMark .plusOrMinus tokens || isMark .sign tokens
    || (isMark .increment tokens && startsOperand (next tokens))

def yieldStatement (rules : Rules) : Rule := fun tokens =>
  if yieldsAhead rules (next tokens) then expressionStatement rules (next tokens)
  else expressionStatement rules tokens

def synchronizedStatement (rules : Rules) : Rule :=
  sequence [keyword "synchronized", bracketed rules, rules.block]

def switchStatement (rules : Rules) : Rule := fun tokens =>
  match switch rules tokens with
  | .error left => .error left
  | .ok rest =>
    if isMark .plusOrMinus rest || isMark .increment rest then .ok rest
    else match continued rules true .other rest with
      | .error left => .error left
      | .ok after => if after.length = rest.length then .ok rest else mark .semicolon after

def caughtTypes (rules : Rules) : Rule :=
  sequence
    [skipPlainType rules,
     repeated (isMark .bar) (sequence [mark .bar, skipPlainType rules])]

def catchClause (rules : Rules) : Rule :=
  sequence
    [keyword "catch", mark .openRound, skipModifiers rules, caughtTypes rules, anyWord,
     dimensions rules, mark .closeRound, rules.block]

def finallyClause (rules : Rules) : Rule := sequence [keyword "finally", rules.block]

def tryEnd (rules : Rules) : Rule :=
  sequence
    [repeated (isKeyword "catch") (catchClause rules),
     optional (isKeyword "finally") (finallyClause rules)]

def declaredResource (rules : Rules) : Rule :=
  sequence [anyWord, dimensions rules, mark .equals, rules.expression true]

-- A resource is declared, or it is a variable or a member that is there already.
def resource (rules : Rules) : Rule := fun tokens =>
  if startsModifier tokens then
    sequence [skipModifiers rules, skipPlainType rules, declaredResource rules] tokens
  else match declaredAhead? rules tokens with
    | some rest => declaredResource rules rest
    | none =>
      match operand rules tokens with
      | .error left => .error left
      | .ok (form, rest) => if form = .name || form = .member then .ok rest else failed rest

def resourceStep (rules : Rules) : Rule := fun tokens =>
  if isMark .semicolon tokens && isMark .closeRound (next tokens) then .ok (next tokens)
  else sequence [mark .semicolon, resource rules] tokens

def resources (rules : Rules) : Rule :=
  between .openRound .closeRound
    (sequence [resource rules, repeated (isMark .semicolon) (resourceStep rules)])

-- Without resources there must be something to do after the block.
def tryStatement (rules : Rules) : Rule := fun tokens =>
  if isMark .openRound (next tokens) then
    sequence [keyword "try", resources rules, rules.block, tryEnd rules] tokens
  else match sequence [keyword "try", rules.block] tokens with
    | .error left => .error left
    | .ok rest =>
      if isWordOf ["catch", "finally"] rest then tryEnd rules rest else failed rest

def continuesImport (tokens : Tokens) : Bool := isMark .dot tokens && isMark .star (next tokens)

def importDeclaration : Rule :=
  ended <| sequence
    [keyword "import", optional (isKeyword "static") anyWord, qualifiedName,
     optional continuesImport (sequence [mark .dot, mark .star])]

-- The name that follows `package`.
def packageName : Parse Span := fun tokens =>
  match keyword "package" tokens with
  | .error left => .error left
  | .ok tokens =>
    match spanOf qualifiedName tokens with
    | .error left => .error left
    | .ok (name, tokens) => (mark .semicolon tokens).map fun rest => (name, rest)

def packageDeclaration : Rule := fun tokens => (packageName tokens).map Prod.snd

def directiveTargets (word : String) : Rule :=
  optional (isKeyword word) (sequence [anyWord, listed qualifiedName])

-- One line of a module: what it needs, shows, uses and provides.
def directive : Rule := fun tokens =>
  match word? tokens with
  | none => failed tokens
  | some word => match word.text with
    | "requires" =>
      ended (sequence
        [repeated (isWordOf ["transitive", "static"]) anyWord, qualifiedName]) (next tokens)
    | "exports" => ended (sequence [qualifiedName, directiveTargets "to"]) (next tokens)
    | "opens" => ended (sequence [qualifiedName, directiveTargets "to"]) (next tokens)
    | "uses" => ended qualifiedName (next tokens)
    | "provides" =>
      ended (sequence [qualifiedName, keyword "with", listed qualifiedName]) (next tokens)
    | _ => failed tokens

def moduleDeclaration : Rule :=
  sequence
    [optional (isKeyword "open") anyWord, keyword "module", qualifiedName,
     between .openBrace .closeBrace (repeatedTo .closeBrace directive)]

def startsModule (tokens : Tokens) : Bool :=
  (isKeyword "module" tokens && startsWord (next tokens) && !isKeyword "instanceof" (next tokens))
    || (isKeyword "open" tokens && isKeyword "module" (next tokens))

-- A type is declared after its modifiers.
def startsDeclaration (tokens : Tokens) : Bool :=
  isMark .signInterface tokens || isWordOf ["class", "interface", "enum", "record"] tokens

def startsRecord (tokens : Tokens) : Bool :=
  isKeyword "record" tokens && startsWord (next tokens) && !isKeyword "instanceof" (next tokens)

def startsSealed (tokens : Tokens) : Bool :=
  isKeyword "sealed" tokens &&
    ((startsWord (next tokens) && !isKeyword "instanceof" (next tokens))
      || isMark .sign (next tokens) || isMark .signInterface (next tokens)
      || isMark .nonSealed (next tokens))

def startsSynchronized (tokens : Tokens) : Bool :=
  isKeyword "synchronized" tokens && isMark .openRound (next tokens)

-- A statement that begins with modifiers declares something.
def startsModified (tokens : Tokens) : Bool :=
  startsModifier tokens && !startsSynchronized tokens
    && (!isKeyword "sealed" tokens || startsSealed tokens)

-- Packages and modules may have annotations, but no other modifiers.
def afterModifiers (rules : Rules) (modifiers : Modifiers) : Rule := fun tokens =>
  if startsDeclaration tokens then rules.declaration tokens
  else if modifiers.words.isEmpty && isKeyword "package" tokens then packageDeclaration tokens
  else if modifiers.words.isEmpty && startsModule tokens then moduleDeclaration tokens
  else sequence [skipPlainType rules, declaratorsEnded rules] tokens

def modifiedStatement (rules : Rules) : Rule := fun tokens =>
  match modifiers rules tokens with
  | .error left => .error left
  | .ok (found, rest) => afterModifiers rules found rest

def isLabelled (tokens : Tokens) : Bool :=
  startsWord tokens && !isWordOf (operandWords ++ halfReservedWords) tokens
    && isMark .colon (next tokens)

-- A declaration of variables, or an expression.
def plainStatement (rules : Rules) : Rule := fun tokens =>
  if isLabelled tokens then rules.statement (next (next tokens))
  else match declaredAhead? rules tokens with
    | some rest => declaratorsEnded rules rest
    | none => expressionStatement rules tokens

def wordStatement (rules : Rules) (word : Word) : Rule := fun tokens =>
  match word.text with
  | "if" => ifStatement rules tokens
  | "while" => whileStatement rules tokens
  | "do" => doStatement rules tokens
  | "for" => forStatement rules tokens
  | "assert" => assertStatement rules tokens
  | "break" => jumpStatement tokens
  | "continue" => jumpStatement tokens
  | "return" => returnStatement rules tokens
  | "yield" => yieldStatement rules tokens
  | "throw" => throwStatement rules tokens
  | "switch" => switchStatement rules tokens
  | "synchronized" => synchronizedStatement rules tokens
  | "try" => tryStatement rules tokens
  | "import" => importDeclaration tokens
  | "package" => packageDeclaration tokens
  | "class" => rules.declaration tokens
  | "interface" => rules.declaration tokens
  | "enum" => rules.declaration tokens
  | _ =>
    if startsRecord tokens then rules.declaration tokens
    else if startsModule tokens then moduleDeclaration tokens
    else plainStatement rules tokens

def statement (rules : Rules) : Rule := fun tokens =>
  if startsModified tokens then modifiedStatement rules tokens
  else match word? tokens with
    | some word => wordStatement rules word tokens
    | none =>
      if isMark .openBrace tokens then rules.block tokens
      else if isMark .semicolon tokens then .ok (next tokens)
      else if isMark .signInterface tokens then rules.declaration tokens
      else expressionStatement rules tokens

end SpringSkeleton.Java.Grammar
