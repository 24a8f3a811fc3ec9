import SpringSkeleton.Toml.Cursor

namespace SpringSkeleton.Toml

def isDigit (c : Char) : Bool := '0' ≤ c && c ≤ '9'

def oneOf (p : Char → Bool) (cursor : Cursor) : Parse Char :=
  match cursor.rest with
  | c :: _ => if p c then .ok (c, cursor.next) else cursor.fails
  | [] => cursor.fails

-- An underscore stands between two digits only.
def moreDigits (p : Char → Bool) : Nat → Cursor → Parse Unit
  | 0, cursor => .ok ((), cursor)
  | bound + 1, cursor =>
    match cursor.rest with
    | '_' :: _ =>
      match expecting "digit" (final (oneOf p cursor.next)) with
      | .error stop => .error stop
      | .ok (_, cursor) => moreDigits p bound cursor
    | c :: _ => if p c then moreDigits p bound cursor.next else .ok ((), cursor)
    | [] => .ok ((), cursor)

def digitGroup (p : Char → Bool) (cursor : Cursor) : Parse Unit :=
  match oneOf p cursor with
  | .error stop => .error stop
  | .ok (_, cursor) => moreDigits p cursor.rest.length cursor

def pastSign (cursor : Cursor) : Cursor :=
  match cursor.rest with
  | '+' :: _ => cursor.next
  | '-' :: _ => cursor.next
  | _ => cursor

-- No zero stands before other digits.
def decimalForm (cursor : Cursor) : Parse Unit :=
  labelled "integer" <|
    let cursor := pastSign cursor
    match cursor.rest with
    | '0' :: _ => .ok ((), cursor.next)
    | _ => digitGroup isDigit cursor

def exponentForm (cursor : Cursor) : Parse Unit :=
  match oneOf (fun c => c == 'e' || c == 'E') cursor with
  | .error stop => .error stop
  | .ok (_, cursor) => final (digitGroup isDigit (pastSign cursor))

def fractionForm (cursor : Cursor) : Parse Unit :=
  match literal "." cursor with
  | .error stop => .error stop
  | .ok (_, cursor) => expecting "digit" (final (digitGroup isDigit cursor))

def realForm (cursor : Cursor) : Parse Unit :=
  match decimalForm cursor with
  | .error stop => .error stop
  | .ok (_, cursor) =>
    orElse (exponentForm cursor) fun _ =>
      match fractionForm cursor with
      | .error stop => .error stop
      | .ok (_, cursor) => (optional cursor (exponentForm cursor)).map fun (_, after) => ((), after)

-- The characters of a form without underscores.
def spelled (start stop : Cursor) : List Char :=
  (start.rest.take (start.rest.length - stop.rest.length)).filter (· != '_')

def natOf (base : Nat) (digit : Char → Nat) (digits : List Char) : Nat :=
  digits.foldl (fun value c => value * base + digit c) 0

def decimalDigit (c : Char) : Nat := c.toNat - '0'.toNat

def intOf (digits : List Char) : Int :=
  match digits with
  | '-' :: rest => -(natOf 10 decimalDigit rest : Int)
  | '+' :: rest => natOf 10 decimalDigit rest
  | rest => natOf 10 decimalDigit rest

-- Exponents far out of the range of binary fractions need no exact power.
def realOf (spelling : List Char) : Float :=
  let negative := spelling.head? == some '-'
  let body := spelling.dropWhile fun c => c == '+' || c == '-'
  let isMark (c : Char) : Bool := c == 'e' || c == 'E'
  let mantissa := body.takeWhile fun c => !isMark c
  let whole := mantissa.takeWhile (· != '.')
  let decimals := (mantissa.dropWhile (· != '.')).drop 1
  let significand := natOf 10 decimalDigit (whole ++ decimals)
  let exponent := intOf ((body.dropWhile fun c => !isMark c).drop 1) - decimals.length
  let magnitude : Int := exponent + (Nat.toDigits 10 significand).length
  let value : Float :=
    if significand = 0 ∨ magnitude < -400 then 0.0
    else if magnitude > 400 then 1.0 / 0.0
    else if 0 ≤ exponent then Float.ofScientific significand false exponent.toNat
    else Float.ofScientific significand true (-exponent).toNat
  if negative then -value else value

def specialReal (cursor : Cursor) : Parse Scalar :=
  let negative := cursor.rest.head? == some '-'
  let cursor := pastSign cursor
  if cursor.startsWith "inf" then
    .ok (.real (if negative then -1.0 / 0.0 else 1.0 / 0.0), cursor.advance 3)
  else if cursor.startsWith "nan" then .ok (.real (0.0 / 0.0), cursor.advance 3)
  else cursor.fails

def plainReal (cursor : Cursor) : Parse Scalar :=
  match realForm cursor with
  | .error stop => .error stop
  | .ok (_, after) =>
    let value := realOf (spelled cursor after)
    if value.isInf && 0 < value then final cursor.fails else .ok (.real value, after)

def real (cursor : Cursor) : Parse Scalar :=
  labelled "floating-point number" (orElse (plainReal cursor) fun _ => specialReal cursor)

-- Whole numbers lie below this bound, and not below its negative.
def wholeBound : Nat := Nat.pow 2 63

def wholeNumber (start after : Cursor) (value : Int) : Parse Scalar :=
  if (wholeBound : Int) ≤ value then final (start.failsWith .integerTooLarge)
  else if value < -(wholeBound : Int) then final (start.failsWith .integerTooSmall)
  else .ok (.integer value, after)

def radixDigit (c : Char) : Nat :=
  if c ≤ '9' then c.toNat - '0'.toNat
  else if c ≤ 'F' then c.toNat - 'A'.toNat + 10
  else c.toNat - 'a'.toNat + 10

def radixNumber (label : String) (base : Nat) (p : Char → Bool) (cursor : Cursor) : Parse Scalar :=
  let digits := cursor.advance 2
  match labelled label (final (digitGroup p digits)) with
  | .error stop => .error stop
  | .ok (_, after) => wholeNumber cursor after (natOf base radixDigit (spelled digits after))

def isRadixDigit (c : Char) : Bool :=
  isDigit c || ('a' ≤ c && c ≤ 'f') || ('A' ≤ c && c ≤ 'F')

def integer (cursor : Cursor) : Parse Scalar :=
  if cursor.startsWith "0x" then radixNumber "hexadecimal integer" 16 isRadixDigit cursor
  else if cursor.startsWith "0o" then
    radixNumber "octal integer" 8 (fun c => '0' ≤ c && c ≤ '7') cursor
  else if cursor.startsWith "0b" then
    radixNumber "binary integer" 2 (fun c => c == '0' || c == '1') cursor
  else match decimalForm cursor with
    | .error stop => .error stop
    | .ok (_, after) => wholeNumber cursor after (intOf (spelled cursor after))

-- A field of a date or a time: so many digits, and a value within bounds.
def field (digits least most : Nat) (cursor : Cursor) : Parse Nat :=
  let (found, after) := cursor.run isDigit digits
  if found.length ≠ digits then cursor.fails
  else
    let value := natOf 10 decimalDigit found
    if least ≤ value ∧ value ≤ most then .ok (value, after) else cursor.failsWith .outOfRange

def daysOf (year month : Nat) : Nat :=
  if month = 2 then
    if year % 4 = 0 ∧ (year % 100 ≠ 0 ∨ year % 400 = 0) then 29 else 28
  else if month = 4 ∨ month = 6 ∨ month = 9 ∨ month = 11 then 30
  else 31

def date (cursor : Cursor) : Parse Unit :=
  match field 4 0 9999 cursor with
  | .error stop => .error stop
  | .ok (year, cursor) =>
  match literal "-" cursor with
  | .error stop => .error stop
  | .ok (_, cursor) =>
  match final (field 2 1 12 cursor) with
  | .error stop => .error stop
  | .ok (month, cursor) =>
  match final (literal "-" cursor) with
  | .error stop => .error stop
  | .ok (_, cursor) =>
  match final (field 2 1 31 cursor) with
  | .error stop => .error stop
  | .ok (day, after) =>
    if daysOf year month < day then final (cursor.failsWith .outOfRange) else .ok ((), after)

-- The fraction of a second, if a digit follows the point.
def pastFraction (cursor : Cursor) : Cursor :=
  match cursor.rest with
  | '.' :: c :: _ => if isDigit c then Cursor.skipWhile isDigit cursor.next.rest cursor.next else cursor
  | _ => cursor

def time (cursor : Cursor) : Parse Unit :=
  match field 2 0 23 cursor with
  | .error stop => .error stop
  | .ok (_, cursor) =>
  match literal ":" cursor with
  | .error stop => .error stop
  | .ok (_, cursor) =>
  match final (field 2 0 59 cursor) with
  | .error stop => .error stop
  | .ok (_, cursor) =>
  match final (literal ":" cursor) with
  | .error stop => .error stop
  | .ok (_, cursor) =>
  match final (field 2 0 60 cursor) with
  | .error stop => .error stop
  | .ok (_, cursor) => .ok ((), pastFraction cursor)

def timeOffset (cursor : Cursor) : Parse Unit :=
  labelled "time offset" <|
    match cursor.rest with
    | 'Z' :: _ => .ok ((), cursor.next)
    | 'z' :: _ => .ok ((), cursor.next)
    | c :: _ =>
      if c ≠ '+' ∧ c ≠ '-' then cursor.fails
      else match final (field 2 0 23 cursor.next) with
        | .error stop => .error stop
        | .ok (_, cursor) =>
        match final (literal ":" cursor) with
        | .error stop => .error stop
        | .ok (_, cursor) => (final (field 2 0 59 cursor)).map fun (_, after) => ((), after)
    | [] => cursor.fails

def timeOfDay (cursor : Cursor) : Parse Unit :=
  match oneOf (fun c => c == 'T' || c == 't' || c == ' ') cursor with
  | .error stop => .error stop
  | .ok (_, cursor) =>
  match time cursor with
  | .error stop => .error stop
  | .ok (_, cursor) => (optional cursor (timeOffset cursor)).map fun (_, after) => ((), after)

def dateTime (cursor : Cursor) : Parse Scalar :=
  let dated : Parse Scalar := labelled "date-time" <|
    match date cursor with
    | .error stop => .error stop
    | .ok (_, after) =>
      (optional after (timeOfDay after)).map fun (_, after) => (.datetime, after)
  orElse dated fun _ =>
    (labelled "time" (time cursor)).map fun (_, after) => (.datetime, after)

-- What begins like several forms is tried as a date first, then as a fraction, then as a whole
-- number.
def number (cursor : Cursor) : Parse Scalar :=
  orElse (dateTime cursor) fun _ => orElse (real cursor) fun _ => integer cursor

end SpringSkeleton.Toml
