import SpringSkeleton.Toml.Cursor

namespace SpringSkeleton.Toml

def isHexDigit (c : Char) : Bool :=
  ('0' ≤ c && c ≤ '9') || ('a' ≤ c && c ≤ 'f') || ('A' ≤ c && c ≤ 'F')

def hexValue (c : Char) : Nat :=
  if c ≤ '9' then c.toNat - '0'.toNat
  else if c ≤ 'F' then c.toNat - 'A'.toNat + 10
  else c.toNat - 'a'.toNat + 10

def isScalarValue (code : Nat) : Bool := code < 0xD800 || (0xE000 ≤ code && code < 0x110000)

-- A code point of exactly so many hexadecimal digits.
def codePoint (count : Nat) (cursor : Cursor) : Parse Char :=
  let (digits, after) := cursor.run isHexDigit count
  if digits.length ≠ count then cursor.fails
  else
    let code := digits.foldl (fun value c => value * 16 + hexValue c) 0
    if isScalarValue code then .ok (Char.ofNat code, after) else cursor.failsWith .outOfRange

def unknownEscape (cursor : Cursor) : Parse Char :=
  ["`b`", "`f`", "`n`", "`r`", "`t`", "`u`", "`U`", "`\\`", "`\"`"].foldl
    (fun form what => expecting what form) (labelled "escape sequence" (final cursor.fails))

-- What follows a backslash.
def escape (cursor : Cursor) : Parse Char :=
  match cursor.rest with
  | [] => cursor.fails
  | 'b' :: _ => .ok ('\x08', cursor.next)
  | 'f' :: _ => .ok ('\x0c', cursor.next)
  | 'n' :: _ => .ok ('\n', cursor.next)
  | 'r' :: _ => .ok ('\r', cursor.next)
  | 't' :: _ => .ok ('\t', cursor.next)
  | '\\' :: _ => .ok ('\\', cursor.next)
  | '"' :: _ => .ok ('"', cursor.next)
  | 'u' :: _ => labelled "unicode 4-digit hex code" (final (codePoint 4 cursor.next))
  | 'U' :: _ => labelled "unicode 8-digit hex code" (final (codePoint 8 cursor.next))
  | c :: _ => unknownEscape (if isBeyondAscii c then cursor else cursor.next)

def isBasicChar (c : Char) : Bool :=
  (c == '\t' || (' ' ≤ c && c ≤ '~') || isBeyondAscii c) && c != '"' && c != '\\'

def isLiteralChar (c : Char) : Bool :=
  (c == '\t' || (' ' ≤ c && c ≤ '~') || isBeyondAscii c) && c != '\''

-- Up to the first character that belongs to no text of this form.
def basicBody : Nat → Cursor → Parse (List Char)
  | 0, cursor => .ok ([], cursor)
  | bound + 1, cursor =>
    let step : Parse (Option Char) := match cursor.rest with
      | '\\' :: _ => optional cursor (escape cursor.next)
      | c :: _ => if isBasicChar c then .ok (some c, cursor.next) else .ok (none, cursor)
      | [] => .ok (none, cursor)
    match step with
    | .error stop => .error stop
    | .ok (none, cursor) => .ok ([], cursor)
    | .ok (some c, cursor) =>
      match basicBody bound cursor with
      | .error stop => .error stop
      | .ok (cs, cursor) => .ok (c :: cs, cursor)

def basicText (cursor : Cursor) : Parse String :=
  match literal "\"" cursor with
  | .error stop => .error stop
  | .ok (_, cursor) =>
    match basicBody cursor.rest.length cursor with
    | .error stop => .error stop
    | .ok (cs, cursor) =>
      match labelled "basic string" (final (literal "\"" cursor)) with
      | .error stop => .error stop
      | .ok (_, cursor) => .ok (String.ofList cs, cursor)

def literalText (cursor : Cursor) : Parse String :=
  match labelled "literal string" (literal "'" cursor) with
  | .error stop => .error stop
  | .ok (_, cursor) =>
    let (cs, cursor) := cursor.run isLiteralChar cursor.rest.length
    match labelled "literal string" (final (literal "'" cursor)) with
    | .error stop => .error stop
    | .ok (_, cursor) => .ok (String.ofList cs, cursor)

def isBlankOrBreak : List Char → Bool
  | '\r' :: '\n' :: _ => true
  | c :: _ => isBlank c || c == '\n'
  | [] => false

def pastBlankLines : Nat → Cursor → Cursor
  | 0, cursor => cursor
  | bound + 1, cursor =>
    if isBlankOrBreak cursor.rest then pastBlankLines bound cursor.next else cursor

-- A backslash at the end of a line takes the line break and all blanks after it away.
def joinedLine? (cursor : Cursor) : Option Cursor :=
  match cursor.rest with
  | '\\' :: _ =>
    match newline (pastBlanks cursor.next) with
    | .ok (_, after) => some (pastBlankLines after.rest.length after)
    | .error _ => none
  | _ => none

-- One piece of a text on several lines that is no quote.
def basicPiece (cursor : Cursor) : Parse (List Char) :=
  match cursor.rest with
  | [] => cursor.fails
  | '\\' :: _ =>
    match joinedLine? cursor with
    | some after => .ok ([], after)
    | none => (escape cursor.next).map fun (c, after) => ([c], after)
  | c :: _ =>
    if isBasicChar c then .ok ([c], cursor.next)
    else (newline cursor).map fun (_, after) => (['\n'], after)

def literalPiece (cursor : Cursor) : Parse (List Char) :=
  match cursor.rest with
  | [] => cursor.fails
  | c :: _ =>
    if isLiteralChar c then .ok ([c], cursor.next)
    else (newline cursor).map fun (_, after) => (['\n'], after)

-- One or two quotes belong to the text if it goes on behind them.
def innerQuotes (quote : Char) (piece : Cursor → Parse (List Char)) (cursor : Cursor) :
    Parse (List Char) :=
  let behind (count : Nat) : Parse (List Char) :=
    if (cursor.rest.take count).length = count ∧ (cursor.rest.take count).all (· == quote) then
      match piece (cursor.advance count) with
      | .error stop => .error stop
      | .ok _ => .ok (List.replicate count quote, cursor.advance count)
    else cursor.fails
  orElse (behind 2) fun _ => behind 1

-- One or two quotes before the closing three belong to the text.
def lastQuotes (quote : Char) (cursor : Cursor) : List Char × Cursor :=
  let count := (cursor.rest.takeWhile (· == quote)).length
  if 5 ≤ count then ([quote, quote], cursor.advance 2)
  else if count = 4 then ([quote], cursor.advance 1)
  else ([], cursor)

def longBody (quote : Char) (piece : Cursor → Parse (List Char)) : Nat → Cursor → Parse (List Char)
  | 0, cursor => .ok ([], cursor)
  | bound + 1, cursor =>
    match optional cursor (orElse (piece cursor) fun _ => innerQuotes quote piece cursor) with
    | .error stop => .error stop
    | .ok (none, cursor) => .ok (lastQuotes quote cursor)
    | .ok (some cs, cursor) =>
      match longBody quote piece bound cursor with
      | .error stop => .error stop
      | .ok (more, cursor) => .ok (cs ++ more, cursor)

-- A line break right behind the opening quotes is no part of the text.
def longText (quote : Char) (label : String) (piece : Cursor → Parse (List Char)) (cursor : Cursor) :
    Parse String :=
  let marks := String.ofList [quote, quote, quote]
  match literal marks cursor with
  | .error stop => .error stop
  | .ok (_, cursor) =>
    match optional cursor (newline cursor) with
    | .error stop => .error stop
    | .ok (_, cursor) =>
      match labelled label (longBody quote piece (cursor.rest.length + 1) cursor) with
      | .error stop => .error stop
      | .ok (cs, cursor) =>
        match labelled label (final (literal marks cursor)) with
        | .error stop => .error stop
        | .ok (_, cursor) => .ok (String.ofList cs, cursor)

def text (cursor : Cursor) : Parse String :=
  orElse (longText '"' "multiline basic string" basicPiece cursor) fun _ =>
  orElse (basicText cursor) fun _ =>
  orElse (longText '\'' "multiline literal string" literalPiece cursor) fun _ =>
  literalText cursor

end SpringSkeleton.Toml
