import SpringSkeleton.Java.Number

namespace SpringSkeleton.Java

-- A text ends at one quote, a text block at three.
inductive Quote where
  | single
  | triple
  deriving DecidableEq

-- A text goes on to its closing quote, to an expression inside it, or to the end of the source.
inductive TextStop where
  | closed
  | interrupted
  | unclosed
  deriving DecidableEq

def hexDigits : Nat → Number.Form
  | 0, cs => some cs
  | count + 1, c :: rest => if Number.isHexDigit c then hexDigits count rest else none
  | _ + 1, [] => none

def codePointInBraces (cs : List Char) : Option (List Char) :=
  match cs.span Number.isHexDigit with
  | (_ :: _, '\x7d' :: rest) => some rest
  | _ => none

-- What follows an escape, from after its backslash. Further octal digits are like any text.
def escapeRest? : List Char → Option (List Char)
  | [] => none
  | 'x' :: rest => hexDigits 2 rest
  | 'u' :: '\x7b' :: rest => codePointInBraces rest
  | 'u' :: rest => hexDigits 4 rest
  | _ :: rest => some rest

def readSingle : Nat → List Char → Option (TextStop × List Char)
  | 0, _ => none
  | _ + 1, [] => some (.unclosed, [])
  | bound + 1, c :: rest =>
    match c, rest with
    | '"', _ => some (.closed, rest)
    | '\\', '\x7b' :: after => some (.interrupted, after)
    | '\\', _ => (escapeRest? rest).bind (readSingle bound)
    | _, _ => readSingle bound rest

-- In a block any character may stand after a backslash.
def readTriple : Nat → List Char → Option (TextStop × List Char)
  | 0, _ => none
  | _ + 1, [] => some (.unclosed, [])
  | bound + 1, c :: rest =>
    match c, rest with
    | '"', '"' :: '"' :: after => some (.closed, after)
    | '\\', '\x7b' :: after => some (.interrupted, after)
    | '\\', _ :: after => readTriple bound after
    | _, _ => readTriple bound rest

def Quote.read? (quote : Quote) (cs : List Char) : Option (TextStop × List Char) :=
  match quote with
  | .single => readSingle (cs.length + 1) cs
  | .triple => readTriple (cs.length + 1) cs

-- The inside of a character literal from its second character on.
def readCharacterRest : List Char → Option (List Char)
  | [] => none
  | '\'' :: rest => some rest
  | '\n' :: _ => none
  | '\\' :: _ :: rest => readCharacterRest rest
  | '\\' :: [] => none
  | _ :: rest => readCharacterRest rest

-- From after the opening quote; something must stand between the quotes.
def characterRest? : List Char → Option (List Char)
  | '\'' :: _ => none
  | cs => readCharacterRest cs

end SpringSkeleton.Java
