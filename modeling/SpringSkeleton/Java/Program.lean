import SpringSkeleton.Java.Declaration
import SpringSkeleton.Java.Lexeme

namespace SpringSkeleton.Java

inductive Item where
  | package (name : Span)
  | classItem (declaration : ClassDeclaration)
  | other
  deriving DecidableEq

namespace Grammar

-- Every rule in terms of the rules one level further down.
def deeper (rules : Rules) : Rules where
  annotationUse := fun tokens => (annotationUse rules tokens).map Prod.snd
  type := type rules
  value := value rules
  initializer := initializer rules
  pattern := components rules
  expression := expression rules
  block := block rules
  statement := statement rules
  declaration := declaration rules
  body := body rules

-- Rules that admit nesting up to a depth.
def rulesTo (depth : Nat) : Rules := Nat.repeat deeper depth Rules.empty

def itemOther (rule : Rule) : Parse Item := fun tokens =>
  (rule tokens).map fun rest => (.other, rest)

def itemClass (rules : Rules) (modifiers : Modifiers) : Parse Item := fun tokens =>
  (classDeclaration rules modifiers tokens).map fun (found, rest) => (.classItem found, rest)

def itemPackage : Parse Item := fun tokens =>
  (packageName tokens).map fun (name, rest) => (.package name, rest)

-- Outside of classes a method may stand among the statements.
def methodAfterType (rules : Rules) : Rule := sequence [anyWord, methodTail rules]

def genericMethod (rules : Rules) : Rule :=
  sequence
    [typeParameters rules, annotations rules, skipPlainType rules, methodAfterType rules]

def modifiedItem (rules : Rules) (modifiers : Modifiers) : Parse Item := fun tokens =>
  if isKeyword "class" tokens then itemClass rules modifiers tokens
  else if modifiers.words.isEmpty && isKeyword "package" tokens then itemPackage tokens
  else if isMark .less tokens then itemOther (genericMethod rules) tokens
  else match tried (skipPlainType rules) tokens with
    | some rest =>
      if !startsDeclaration tokens && isCalled rest then itemOther (methodAfterType rules) rest
      else itemOther (afterModifiers rules modifiers) tokens
    | none => itemOther (afterModifiers rules modifiers) tokens

def item (rules : Rules) : Parse Item := fun tokens =>
  if startsModified tokens then
    match modifiers rules tokens with
    | .error left => .error left
    | .ok (found, rest) => modifiedItem rules found rest
  else if isKeyword "class" tokens then itemClass rules .none tokens
  else if isKeyword "package" tokens then itemPackage tokens
  else if isMark .less tokens then itemOther (genericMethod rules) tokens
  else match declaredAhead? rules tokens with
    | some rest =>
      if isCalled rest then itemOther (methodAfterType rules) rest
      else itemOther (statement rules) tokens
    | none => itemOther (statement rules) tokens

def itemSteps (rules : Rules) : Nat → Tokens → Except Nat (List Item)
  | _, [] => .ok []
  | 0, tokens => failed tokens
  | bound + 1, tokens =>
    match item rules tokens with
    | .error left => .error left
    | .ok (found, rest) => (itemSteps rules bound rest).map (found :: ·)

-- How many tokens are left where the first item begins that cannot be read.
def unreadSteps (rules : Rules) : Nat → Tokens → Nat
  | 0, tokens => tokens.length
  | bound + 1, tokens =>
    match item rules tokens with
    | .error _ => tokens.length
    | .ok (_, rest) => unreadSteps rules bound rest

-- Each level of nesting takes a few rules and at least one token.
def depthOf (tokens : Tokens) : Nat := 12 * tokens.length + 24

def items (tokens : Tokens) : Except Nat (List Item) :=
  itemSteps (rulesTo (depthOf tokens)) tokens.length tokens

def unread (tokens : Tokens) : Nat :=
  unreadSteps (rulesTo (depthOf tokens)) tokens.length tokens

end Grammar

-- A source that follows the grammar, with the lexemes that it consists of.
structure Program where
  lexemes : List Lexeme
  items : List Item

def tokensOf (lexemes : List Lexeme) : Tokens := lexemes.map (·.token)

-- The text of a stretch as it stands in the source.
def Program.written (program : Program) (span : Span) : String :=
  Java.written ((program.lexemes.drop (program.lexemes.length - span.before)).take
    (span.before - span.after))

end SpringSkeleton.Java
