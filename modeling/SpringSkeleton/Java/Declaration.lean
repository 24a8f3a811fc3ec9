import SpringSkeleton.Java.Statement

namespace SpringSkeleton.Java

-- One declaration can declare several variables of the same written type.
structure FieldDeclaration where
  modifiers : Modifiers
  type : Span
  names : List Word
  deriving DecidableEq

structure MethodDeclaration where
  modifiers : Modifiers
  name : Word
  deriving DecidableEq

inductive Member where
  | field (declaration : FieldDeclaration)
  | method (declaration : MethodDeclaration)
  | other
  deriving DecidableEq

structure ClassDeclaration where
  modifiers : Modifiers
  name : Word
  members : List Member
  deriving DecidableEq

namespace Grammar

def typeList (rules : Rules) : Rule := listed rules.type

def clause (rules : Rules) (word : String) : Rule :=
  optional (isKeyword word) (sequence [anyWord, typeList rules])

def throwsClause (rules : Rules) : Rule := clause rules "throws"

def methodEnd (rules : Rules) : Rule := fun tokens =>
  if isMark .openBrace tokens then rules.block tokens else mark .semicolon tokens

-- From the parameters on.
def methodTail (rules : Rules) : Rule :=
  sequence [parameters rules, dimensions rules, throwsClause rules, methodEnd rules]

-- The call of another constructor, of the class itself or of its superclass.
def ownConstructorCall (rules : Rules) : Rule :=
  ended (sequence [optionalTypeArguments rules, anyWord, arguments rules])

def startsOwnConstructorCall (rules : Rules) (tokens : Tokens) : Bool :=
  let target := if isMark .less tokens then tried (typeArguments rules) tokens else some tokens
  match target with
  | some rest => isWordOf ["this", "super"] rest && isMark .openRound (next rest)
  | none => false

def outerConstructorCall (rules : Rules) : Rule := fun tokens =>
  match operand rules tokens with
  | .error left => .error left
  | .ok (_, rest) =>
    ended (sequence
      [mark .dot, optionalTypeArguments rules, keyword "super", arguments rules]) rest

def constructorCall (rules : Rules) : Rule := fun tokens =>
  if startsOwnConstructorCall rules tokens then ownConstructorCall rules tokens
  else match tried (outerConstructorCall rules) tokens with
    | some rest => .ok rest
    | none => .ok tokens

def constructorBody (rules : Rules) : Rule :=
  between .openBrace .closeBrace
    (sequence [constructorCall rules, repeatedTo .closeBrace rules.statement])

-- From the parameters on.
def constructorTail (rules : Rules) : Rule :=
  sequence [parameters rules, throwsClause rules, constructorBody rules]

def isCalled (tokens : Tokens) : Bool := startsWord tokens && isMark .openRound (next tokens)

def isCompact (tokens : Tokens) : Bool := startsWord tokens && isMark .openBrace (next tokens)

-- A method or the fields of one declaration: a type, then a name that parameters follow or not.
def typedMember (rules : Rules) (modifiers : Modifiers) : Parse Member := fun tokens =>
  match spanOf (skipPlainType rules) tokens with
  | .error left => .error left
  | .ok (type, tokens) =>
    if isCalled tokens then
      match word tokens with
      | .error left => .error left
      | .ok (name, tokens) =>
        (methodTail rules tokens).map fun rest => (.method ⟨modifiers, name⟩, rest)
    else match declarators rules tokens with
      | .error left => .error left
      | .ok (names, tokens) =>
        (mark .semicolon tokens).map fun rest => (.field ⟨modifiers, type, names⟩, rest)

-- A method after its type parameters, or a constructor.
def genericMember (rules : Rules) (modifiers : Modifiers) : Parse Member := fun tokens =>
  match sequence [typeParameters rules, annotations rules] tokens with
  | .error left => .error left
  | .ok tokens =>
    if isCalled tokens then (constructorTail rules (next tokens)).map fun rest => (.other, rest)
    else match sequence [skipPlainType rules] tokens with
      | .error left => .error left
      | .ok tokens =>
        match word tokens with
        | .error left => .error left
        | .ok (name, tokens) =>
          (methodTail rules tokens).map fun rest => (.method ⟨modifiers, name⟩, rest)

def asOther (rule : Rule) : Parse Member := fun tokens =>
  (rule tokens).map fun rest => (.other, rest)

def isStaticAlone (modifiers : Modifiers) : Bool :=
  modifiers.words = ["static"] && modifiers.annotations.isEmpty

def modifiedMember (rules : Rules) (modifiers : Modifiers) : Parse Member := fun tokens =>
  if startsDeclaration tokens then asOther rules.declaration tokens
  else if isStaticAlone modifiers && isMark .openBrace tokens then asOther rules.block tokens
  else if isMark .less tokens then genericMember rules modifiers tokens
  else if isCalled tokens then asOther (constructorTail rules) (next tokens)
  else if isCompact tokens then asOther rules.block (next tokens)
  else typedMember rules modifiers tokens

-- A member of a class, a record or an enumeration.
def member (rules : Rules) : Parse Member := fun tokens =>
  if isMark .semicolon tokens then .ok (.other, next tokens)
  else if isMark .openBrace tokens then asOther rules.block tokens
  else match modifiers rules tokens with
    | .error left => .error left
    | .ok (found, rest) => modifiedMember rules found rest

def skipMember (rules : Rules) : Rule := fun tokens => (member rules tokens).map Prod.snd

def members (rules : Rules) : Parse (List Member) :=
  collect (fun tokens => !isMark .closeBrace tokens) (member rules)

def classBody (rules : Rules) : Parse (List Member) := fun tokens =>
  match mark .openBrace tokens with
  | .error left => .error left
  | .ok tokens =>
    match members rules tokens with
    | .error left => .error left
    | .ok (found, tokens) => (mark .closeBrace tokens).map fun rest => (found, rest)

def body (rules : Rules) : Rule := fun tokens => (classBody rules tokens).map Prod.snd

def superclass (rules : Rules) : Rule :=
  optional (isKeyword "extends") (sequence [anyWord, rules.type])

-- What stands between the name of a class and its body.
def classHead (rules : Rules) : Rule :=
  sequence
    [optionalTypeParameters rules, superclass rules, clause rules "implements",
     clause rules "permits"]

def classDeclaration (rules : Rules) (modifiers : Modifiers) : Parse ClassDeclaration := fun tokens =>
  match keyword "class" tokens with
  | .error left => .error left
  | .ok tokens =>
    match word tokens with
    | .error left => .error left
    | .ok (name, tokens) =>
      match classHead rules tokens with
      | .error left => .error left
      | .ok tokens =>
        (classBody rules tokens).map fun (found, rest) => (⟨modifiers, name, found⟩, rest)

def skipClassDeclaration (rules : Rules) : Rule := fun tokens =>
  (classDeclaration rules .none tokens).map Prod.snd

def recordDeclaration (rules : Rules) : Rule :=
  sequence
    [keyword "record", anyWord, optionalTypeParameters rules, parameters rules,
     clause rules "implements", rules.body]

-- An interface has no constructors and no blocks.
def interfaceMember (rules : Rules) : Rule := fun tokens =>
  if isMark .semicolon tokens then .ok (next tokens)
  else match modifiers rules tokens with
    | .error left => .error left
    | .ok (found, rest) =>
      if startsDeclaration rest then rules.declaration rest
      else if isMark .less rest then
        sequence
          [typeParameters rules, annotations rules, skipPlainType rules, anyWord, methodTail rules] rest
      else (typedMember rules found rest).map Prod.snd

def interfaceDeclaration (rules : Rules) : Rule :=
  sequence
    [keyword "interface", anyWord, optionalTypeParameters rules, clause rules "extends",
     clause rules "permits",
     between .openBrace .closeBrace (repeatedTo .closeBrace (interfaceMember rules))]

def enumConstant (rules : Rules) : Rule :=
  sequence
    [skipModifiers rules, anyWord, optional (isMark .openRound) (arguments rules),
     optional (isMark .openBrace) rules.body]

def endsConstants (tokens : Tokens) : Bool := isMark .semicolon tokens || isMark .closeBrace tokens

def enumConstantSteps (rules : Rules) : Nat → Rule
  | 0, tokens => .ok tokens
  | bound + 1, tokens =>
    if endsConstants tokens then .ok tokens
    else match enumConstant rules tokens with
      | .error left => .error left
      | .ok tokens =>
        if isMark .comma tokens then enumConstantSteps rules bound (next tokens) else .ok tokens

-- The list of constants may be empty, and may end in a comma.
def enumConstants (rules : Rules) : Rule := fun tokens =>
  if isMark .comma tokens then .ok (next tokens)
  else enumConstantSteps rules tokens.length tokens

def enumBody (rules : Rules) : Rule :=
  sequence
    [enumConstants rules,
     optional (isMark .semicolon)
       (sequence [mark .semicolon, repeatedTo .closeBrace (skipMember rules)])]

def enumDeclaration (rules : Rules) : Rule :=
  sequence
    [keyword "enum", anyWord, clause rules "implements",
     between .openBrace .closeBrace (enumBody rules)]

-- The default value of an element of an annotation.
def elementDefault (rules : Rules) : Rule :=
  optional (isKeyword "default") (sequence [anyWord, rules.value])

def elementTail (rules : Rules) : Rule :=
  ended (sequence
    [anyWord, mark .openRound, mark .closeRound, dimensions rules, elementDefault rules])

def annotationMember (rules : Rules) : Rule := fun tokens =>
  if isMark .semicolon tokens then .ok (next tokens)
  else match modifiers rules tokens with
    | .error left => .error left
    | .ok (_, rest) =>
      if startsDeclaration rest && !isKeyword "record" rest then rules.declaration rest
      else match skipPlainType rules rest with
        | .error left => .error left
        | .ok rest =>
          if isCalled rest then elementTail rules rest else declaratorsEnded rules rest

def annotationDeclaration (rules : Rules) : Rule :=
  sequence
    [mark .signInterface, anyWord,
     between .openBrace .closeBrace (repeatedTo .closeBrace (annotationMember rules))]

-- A declaration of a type, after its modifiers.
def declaration (rules : Rules) : Rule := fun tokens =>
  if isMark .signInterface tokens then annotationDeclaration rules tokens
  else if isKeyword "class" tokens then skipClassDeclaration rules tokens
  else if isKeyword "interface" tokens then interfaceDeclaration rules tokens
  else if isKeyword "enum" tokens then enumDeclaration rules tokens
  else recordDeclaration rules tokens

end Grammar
end SpringSkeleton.Java
