import SpringSkeleton.Java.Expression

namespace SpringSkeleton.Java.Grammar

def bracketed (rules : Rules) : Rule := between .openRound .closeRound (rules.expression true)

def ended (rule : Rule) : Rule := sequence [rule, mark .semicolon]

def expressionStatement (rules : Rules) : Rule := ended (rules.expression true)

def throwStatement (rules : Rules) : Rule := sequence [keyword "throw", expressionStatement rules]

def startsDefault (tokens : Tokens) : Bool :=
  isKeyword "default" tokens && (isMark .colon (next tokens) || isMark .arrow (next tokens))

def startsLabel (tokens : Tokens) : Bool := isKeyword "case" tokens || startsDefault tokens

def labelGuard (rules : Rules) : Rule :=
  optional (isKeyword "when") (sequence [anyWord, rules.expression false])

def labelItems (rules : Rules) : Rule := fun tokens =>
  match labelPattern? rules tokens with
  | some rest => .ok rest
  | none => listed (rules.expression false) tokens

def label (rules : Rules) : Rule := fun tokens =>
  if startsDefault tokens then .ok (next tokens)
  else sequence [keyword "case", labelItems rules, labelGuard rules] tokens

-- What a label with an arrow leads to.
def labelledResult (rules : Rules) : Rule := fun tokens =>
  if isKeyword "throw" tokens then throwStatement rules tokens
  else if isMark .openBrace tokens then rules.block tokens
  else expressionStatement rules tokens

def switchRule (rules : Rules) : Rule := sequence [label rules, mark .arrow, labelledResult rules]

def switchStep (rules : Rules) : Rule := fun tokens =>
  if startsLabel tokens then sequence [label rules, mark .colon] tokens
  else rules.statement tokens

-- All labels of a switch have arrows, or none has.
def switchItems (rules : Rules) : Rule := fun tokens =>
  if isMark .closeBrace tokens then .ok tokens
  else match label rules tokens with
    | .error left => .error left
    | .ok rest =>
      if isMark .arrow rest then repeatedTo .closeBrace (switchRule rules) tokens
      else sequence [mark .colon, repeatedTo .closeBrace (switchStep rules)] rest

def switch (rules : Rules) : Rule :=
  sequence [keyword "switch", bracketed rules, between .openBrace .closeBrace (switchItems rules)]

def startsPrefix (tokens : Tokens) : Bool :=
  isMark .negation tokens || isMark .plusOrMinus tokens || isMark .increment tokens

def expression (rules : Rules) (arrows : Bool) : Rule := fun tokens =>
  if startsPrefix tokens then rules.expression arrows (next tokens)
  else if arrows && (startsShortLambda tokens || startsBracketLambda tokens) then
    sequence [lambda rules arrows, continued rules arrows .other] tokens
  else if isKeyword "switch" tokens then
    sequence [switch rules, continued rules arrows .other] tokens
  else match castAhead? rules tokens with
    | some rest => rules.expression arrows rest
    | none =>
      match operand rules tokens with
      | .error left => .error left
      | .ok (form, tokens) => continued rules arrows form tokens

end SpringSkeleton.Java.Grammar
