import SpringSkeleton.Java.Quoted
import SpringSkeleton.Java.Token

namespace SpringSkeleton.Java

-- Only the tokens matter to the grammar; the texts and the gaps between them are what a name or a
-- type looks like as it was written.
structure Lexeme where
  gap : List Char
  token : Token
  text : List Char
  deriving DecidableEq

def isGapChar (c : Char) : Bool :=
  c == ' ' || c == '\t' || c == '\n' || c == '\x0b' || c == '\x0c' || c == '\x0d'

def pastLine : List Char → List Char
  | [] => []
  | c :: rest => if c = '\n' then c :: rest else pastLine rest

-- A comment that is not closed is no comment.
def pastComment? : List Char → Option (List Char)
  | [] => none
  | '*' :: '/' :: rest => some rest
  | _ :: rest => pastComment? rest

def pastGap : Nat → List Char → List Char
  | 0, cs => cs
  | _ + 1, [] => []
  | bound + 1, c :: rest =>
    match c, rest with
    | '/', '/' :: after => pastGap bound (pastLine after)
    | '/', '*' :: after =>
      match pastComment? after with
      | some after => pastGap bound after
      | none => c :: rest
    | _, _ => if isGapChar c then pastGap bound rest else c :: rest

-- An expression inside a text: the quote that the text goes on to, and how many braces are open.
structure Interruption where
  quote : Quote
  depth : Nat

structure Reading where
  token : Token
  rest : List Char
  interruptions : List Interruption

def readText (quote : Quote) (whole part : Token) (outer : List Interruption) (cs : List Char) :
    Option Reading :=
  (quote.read? cs).map fun
    | (.closed, rest) => ⟨whole, rest, outer⟩
    | (.interrupted, rest) => ⟨part, rest, ⟨quote, 0⟩ :: outer⟩
    | (.unclosed, rest) => ⟨.stray, rest, outer⟩

def readStartOfText (outer : List Interruption) (cs : List Char) : Option Reading :=
  match cs with
  | '"' :: '"' :: '"' :: rest => readText .triple .text .textStart outer rest
  | '"' :: rest => readText .single .text .textStart outer rest
  | _ => none

-- Braces inside an interruption are counted, so that the one that ends it is known.
def afterMark (mark : Mark) (interruptions : List Interruption) : List Interruption :=
  match mark, interruptions with
  | .openBrace, ⟨quote, depth⟩ :: outer => ⟨quote, depth + 1⟩ :: outer
  | .closeBrace, ⟨quote, depth⟩ :: outer => ⟨quote, depth - 1⟩ :: outer
  | _, interruptions => interruptions

def isJoined : List Char → Bool
  | '>' :: _ => true
  | '=' :: _ => true
  | _ => false

def startsNumber : List Char → Bool
  | '.' :: c :: _ => Number.isDigit c
  | c :: _ => Number.isDigit c
  | [] => false

def readPlain (interruptions : List Interruption) (cs : List Char) : Option Reading :=
  if startsNumber cs then (Number.read? cs).map fun rest => ⟨.literal, rest, interruptions⟩
  else match Mark.read? cs with
    | some (mark, length) => some ⟨.mark mark, cs.drop length, afterMark mark interruptions⟩
    | none => (Word.read? cs).map fun (word, rest) => ⟨.word word, rest, interruptions⟩

def readToken? (interruptions : List Interruption) (cs : List Char) : Option Reading :=
  match cs, interruptions with
  | '\x7d' :: rest, ⟨quote, 0⟩ :: outer => readText quote .textEnd .textMiddle outer rest
  | '"' :: _, _ => readStartOfText interruptions cs
  | '\'' :: rest, _ => (characterRest? rest).map fun rest => ⟨.literal, rest, interruptions⟩
  | '>' :: rest, _ => some ⟨.greater (isJoined rest), rest, interruptions⟩
  | _, _ => readPlain interruptions cs

-- A character that begins no token is a token of its own, which no rule admits.
def readToken (interruptions : List Interruption) (cs : List Char) : Reading :=
  (readToken? interruptions cs).getD ⟨.stray, cs.drop 1, interruptions⟩

-- What was read to get from some characters to the rest of them.
def taken (cs rest : List Char) : List Char := cs.take (cs.length - rest.length)

def lexemesFrom : Nat → List Interruption → List Char → List Lexeme
  | 0, _, _ => []
  | bound + 1, interruptions, cs =>
    match pastGap (cs.length + 1) cs with
    | [] => []
    | c :: after =>
      let reading := readToken interruptions (c :: after)
      ⟨taken cs (c :: after), reading.token, taken (c :: after) reading.rest⟩
        :: lexemesFrom bound reading.interruptions reading.rest

def byteOrderMark : Char := '\ufeff'

def withoutByteOrderMark : List Char → List Char
  | [] => []
  | c :: rest => if c = byteOrderMark then rest else c :: rest

def lexemes (source : String) : List Lexeme :=
  let cs := withoutByteOrderMark source.toList
  lexemesFrom (cs.length + 1) [] cs

-- Lexemes as they stand in the source, without the gap before the first of them.
def written : List Lexeme → String
  | [] => ""
  | first :: rest =>
    String.ofList (first.text ++ rest.flatMap fun lexeme => lexeme.gap ++ lexeme.text)

end SpringSkeleton.Java
