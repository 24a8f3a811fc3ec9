import SpringSkeleton.Java.Program

namespace SpringSkeleton.Java

-- Tokens are taken out from one index to another, or one is put in between.
structure Repair where
  start : Nat
  stop : Nat
  inserted : List Token

namespace Repair

def applied (repair : Repair) (tokens : Tokens) : Tokens :=
  tokens.take repair.start ++ repair.inserted ++ tokens.drop repair.stop

-- Reading must come past the token after the repair; at the end there is none.
def helps (repair : Repair) (tokens : Tokens) : Bool :=
  match Grammar.items (repair.applied tokens) with
  | .ok _ => true
  | .error left =>
    left < tokens.length - repair.stop || (repair.stop = tokens.length && !repair.inserted.isEmpty)

end Repair

def lineBreaks (cs : List Char) : Nat := cs.count '\n'

-- The line on which lexemes end that begin on the first line.
def linesOf (lexemes : List Lexeme) : Nat :=
  lexemes.foldl (fun line lexeme => line + lineBreaks lexeme.gap + lineBreaks lexeme.text) 1

-- The line on which what follows some lexemes begins.
def startLine (before after : List Lexeme) : Nat :=
  match after with
  | [] => linesOf before
  | lexeme :: _ => linesOf before + lineBreaks lexeme.gap

-- Each repair has a price; what is taken out counts by tokens, characters and lines.
def insertionCost : Nat := 610

def removalCost : Nat := 500

def removedCost : List Lexeme → Nat
  | [] => 0
  | lexeme :: rest =>
    100 + lexeme.text.length + 30 * lineBreaks lexeme.text
      + (match rest with
        | [] => 0
        | next :: _ => next.gap.length + 30 * lineBreaks next.gap)
      + removedCost rest

def Repair.removed (repair : Repair) (lexemes : List Lexeme) : List Lexeme :=
  (lexemes.drop repair.start).take (repair.stop - repair.start)

def Repair.cost (repair : Repair) (lexemes : List Lexeme) : Nat :=
  if repair.inserted.isEmpty then removalCost + removedCost (repair.removed lexemes) else insertionCost

def Repair.line (repair : Repair) (lexemes : List Lexeme) : Nat :=
  let before := lexemes.take repair.start
  if repair.inserted.isEmpty || before.isEmpty then startLine before (lexemes.drop repair.start)
  else linesOf before

def aName : Word := ⟨"a", by decide⟩

-- Tokens that can end what comes before them.
def closingTokens : List Token :=
  [.word aName, .mark .semicolon, .mark .closeRound, .mark .closeBrace, .mark .closeSquare,
   .greater false]

-- How far around the place of a failure tokens are taken out.
def reachBefore : Nat := 12
def reachAfter : Nat := 4

def insertions (index : Nat) : List Repair :=
  closingTokens.map fun token => ⟨index, index, [token]⟩

def removalsFrom (index count : Nat) (start : Nat) : List Repair :=
  ((List.range (reachAfter + 1)).map fun length => Repair.mk start (index + length) []).filter
    fun repair => repair.start < repair.stop && repair.stop ≤ count

def removals (index count : Nat) : List Repair :=
  (List.range (reachBefore + 1)).flatMap fun length =>
    if length ≤ index then removalsFrom index count (index - length) else []

def repairs (index count : Nat) : List Repair := insertions index ++ removals index count

-- Of two repairs of one price the one that is thought of first is taken.
def byCost (lexemes : List Lexeme) (candidates : List Repair) : List Repair :=
  candidates.mergeSort fun a b => a.cost lexemes ≤ b.cost lexemes

-- The line on which the first item begins that cannot be read.
def itemLine (lexemes : List Lexeme) : Nat :=
  let index := lexemes.length - Grammar.unread (tokensOf lexemes)
  startLine (lexemes.take index) (lexemes.drop index)

-- The place of a failure is that of the cheapest repair that lets reading go on: a token put in
-- stands at the end of what comes before it, tokens taken out stand where the first of them begins.
-- The line of a failure before the lexeme at an index.
def failureLine (lexemes : List Lexeme) (index : Nat) : Nat :=
  let tokens := tokensOf lexemes
  match (byCost lexemes (repairs index lexemes.length)).find? (·.helps tokens) with
  | some repair => repair.line lexemes
  | none => itemLine lexemes

-- A failure is told by its line.
def parse (source : String) : Except Nat Program :=
  let lexemes := lexemes source
  match Grammar.items (tokensOf lexemes) with
  | .ok items => .ok ⟨lexemes, items⟩
  | .error left => .error (failureLine lexemes (lexemes.length - left))

end SpringSkeleton.Java
