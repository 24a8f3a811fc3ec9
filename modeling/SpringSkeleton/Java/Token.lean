import SpringSkeleton.Java.Word

namespace SpringSkeleton.Java

-- Marks that play the same part in the grammar are one mark: all compound assignments, all other
-- operators between two operands, and so on.
inductive Mark where
  | openRound
  | closeRound
  | openBrace
  | closeBrace
  | openSquare
  | closeSquare
  | semicolon
  | comma
  | dot
  | ellipsis
  | sign
  | signInterface
  | equals
  | less
  | question
  | colon
  | doubleColon
  | arrow
  | negation
  | increment
  | plusOrMinus
  | star
  | ampersand
  | bar
  | operator
  | assignment
  | nonSealed
  deriving DecidableEq

-- Closing angle brackets come one by one: whether one is joined to the next character tells a shift
-- from the end of two argument lists.
inductive Token where
  | word (word : Word)
  | mark (mark : Mark)
  | greater (joined : Bool)
  | literal
  | text
  | textStart
  | textMiddle
  | textEnd
  | stray
  deriving DecidableEq

-- Longer marks come before the marks that they begin with.
def markTexts : List (String × Mark) :=
  [("@interface", .signInterface), ("non-sealed", .nonSealed),
   ("<<=", .assignment), ("...", .ellipsis),
   ("->", .arrow), ("::", .doubleColon), ("++", .increment), ("--", .increment),
   ("==", .operator), ("!=", .operator), ("<=", .operator), ("&&", .operator), ("||", .operator),
   ("<<", .operator),
   ("+=", .assignment), ("-=", .assignment), ("*=", .assignment), ("/=", .assignment),
   ("%=", .assignment), ("&=", .assignment), ("|=", .assignment), ("^=", .assignment),
   ("(", .openRound), (")", .closeRound), ("\x7b", .openBrace), ("\x7d", .closeBrace),
   ("[", .openSquare), ("]", .closeSquare), (";", .semicolon), (",", .comma), (".", .dot),
   ("@", .sign), ("=", .equals), ("<", .less), ("?", .question), (":", .colon),
   ("!", .negation), ("~", .negation), ("+", .plusOrMinus), ("-", .plusOrMinus), ("*", .star),
   ("&", .ampersand), ("|", .bar), ("/", .operator), ("%", .operator), ("^", .operator)]

def findMark? (cs : List Char) : List (String × Mark) → Option (Mark × Nat)
  | [] => none
  | (text, mark) :: rest =>
    if text.toList.isPrefixOf cs then some (mark, text.toList.length) else findMark? cs rest

-- The longest mark at the beginning, with its length.
def Mark.read? (cs : List Char) : Option (Mark × Nat) := findMark? cs markTexts

end SpringSkeleton.Java
