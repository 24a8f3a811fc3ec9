import SpringSkeleton.Json.Cursor

namespace SpringSkeleton.Json

def hexValue? (c : Char) : Option Nat :=
  if '0' ≤ c ∧ c ≤ '9' then some (c.toNat - '0'.toNat)
  else if 'a' ≤ c ∧ c ≤ 'f' then some (c.toNat - 'a'.toNat + 10)
  else if 'A' ≤ c ∧ c ≤ 'F' then some (c.toNat - 'A'.toNat + 10)
  else none

def hexNumber? : List Char → Nat → Option Nat
  | [], value => some value
  | c :: rest, value => match hexValue? c with
    | none => none
    | some digit => hexNumber? rest (value * 16 + digit)

def utf8Length (cs : List Char) : Nat := cs.foldl (fun total c => total + c.utf8Size) 0

-- Four bytes are read before they are looked at.
def readUnit (cursor : Cursor) : Read Nat :=
  if utf8Length (cursor.rest.take 4) < 4 then
    .error ((Cursor.pastBytes 4 cursor.rest cursor).here .endInText)
  else
    let after := Cursor.pastBytes 4 cursor.rest cursor
    match hexNumber? (cursor.rest.take 4) 0 with
    | some unit => .ok (unit, after)
    | none => .error (after.here .badEscape)

def isLeading (unit : Nat) : Bool := 0xD800 ≤ unit && unit ≤ 0xDBFF

def isTrailing (unit : Nat) : Bool := 0xDC00 ≤ unit && unit ≤ 0xDFFF

def readMark (mark : Char) (cursor : Cursor) : Except Fault Cursor :=
  match cursor.rest with
  | [] => .error (cursor.here .endInText)
  | c :: _ => if c = mark then .ok cursor.next else .error (cursor.ahead .unfinishedSurrogate)

def readSecondUnit (leading : Nat) (cursor : Cursor) : Read Char :=
  match readMark '\\' cursor with
  | .error fault => .error fault
  | .ok cursor =>
    match readMark 'u' cursor with
    | .error fault => .error fault
    | .ok cursor =>
      match readUnit cursor with
      | .error fault => .error fault
      | .ok (trailing, cursor) =>
        if isTrailing trailing then
          .ok (Char.ofNat ((leading - 0xD800) * 0x400 + (trailing - 0xDC00) + 0x10000), cursor)
        else .error (cursor.here .loneSurrogate)

def readCodePoint (cursor : Cursor) : Read Char :=
  match readUnit cursor with
  | .error fault => .error fault
  | .ok (unit, cursor) =>
    if isTrailing unit then .error (cursor.here .loneSurrogate)
    else if isLeading unit then readSecondUnit unit cursor
    else .ok (Char.ofNat unit, cursor)

def plainEscape? : Char → Option Char
  | '"' => some '"'
  | '\\' => some '\\'
  | '/' => some '/'
  | 'b' => some '\x08'
  | 'f' => some '\x0c'
  | 'n' => some '\n'
  | 'r' => some '\r'
  | 't' => some '\t'
  | _ => none

-- What follows a backslash.
def readEscape (cursor : Cursor) : Read Char :=
  match cursor.rest with
  | [] => .error (cursor.here .endInText)
  | 'u' :: _ => readCodePoint cursor.next
  | c :: _ => match plainEscape? c with
    | some meant => .ok (meant, cursor.next)
    | none => .error (cursor.ahead .badEscape)

def readTextUpTo : Nat → Cursor → Read (List Char)
  | 0, cursor => .error (cursor.here .endInText)
  | bound + 1, cursor =>
    match cursor.rest with
    | [] => .error (cursor.here .endInText)
    | '"' :: _ => .ok ([], cursor.next)
    | '\\' :: _ =>
      match readEscape cursor.next with
      | .error fault => .error fault
      | .ok (c, after) =>
        match readTextUpTo bound after with
        | .error fault => .error fault
        | .ok (cs, after) => .ok (c :: cs, after)
    | c :: _ =>
      if c.toNat < 32 then .error (cursor.ahead .controlCharacter)
      else match readTextUpTo bound cursor.next with
        | .error fault => .error fault
        | .ok (cs, after) => .ok (c :: cs, after)

-- From after the opening quote to after the closing one.
def readText (cursor : Cursor) : Read String :=
  match readTextUpTo (cursor.rest.length + 1) cursor with
  | .error fault => .error fault
  | .ok (cs, after) => .ok (String.ofList cs, after)

-- A text that is not kept may hold any code unit.
def skipEscape (cursor : Cursor) : Except Fault Cursor :=
  match cursor.rest with
  | [] => .error (cursor.here .endInText)
  | 'u' :: _ => (readUnit cursor.next).map Prod.snd
  | c :: _ => match plainEscape? c with
    | some _ => .ok cursor.next
    | none => .error (cursor.ahead .badEscape)

def skipTextUpTo : Nat → Cursor → Except Fault Cursor
  | 0, cursor => .error (cursor.here .endInText)
  | bound + 1, cursor =>
    match cursor.rest with
    | [] => .error (cursor.here .endInText)
    | '"' :: _ => .ok cursor.next
    | '\\' :: _ =>
      match skipEscape cursor.next with
      | .error fault => .error fault
      | .ok after => skipTextUpTo bound after
    | c :: _ =>
      if c.toNat < 32 then .error (cursor.here .controlCharacter) else skipTextUpTo bound cursor.next

def skipText (cursor : Cursor) : Except Fault Cursor :=
  skipTextUpTo (cursor.rest.length + 1) cursor

end SpringSkeleton.Json
