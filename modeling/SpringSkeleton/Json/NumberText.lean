import SpringSkeleton.Json.Cursor

namespace SpringSkeleton.Json

def isDigit (c : Char) : Bool := '0' ≤ c && c ≤ '9'

def digitValue (c : Char) : Nat := c.toNat - '0'.toNat

def wordLimit : Nat := Nat.pow 2 64

def exponentLimit : Nat := Nat.pow 2 31

def skipDigits : List Char → Cursor → Cursor
  | [], cursor => cursor
  | c :: rest, cursor => if isDigit c then skipDigits rest cursor.next else cursor

def countDigits : List Char → Nat
  | [] => 0
  | c :: rest => if isDigit c then countDigits rest + 1 else 0

def startsWithDigit (cursor : Cursor) : Bool :=
  match cursor.rest with
  | c :: _ => isDigit c
  | [] => false

def startsWithExponent (cursor : Cursor) : Bool :=
  match cursor.rest with
  | c :: _ => c == 'e' || c == 'E'
  | [] => false

-- Digits are gathered as long as their number stays below a limit; they are counted too.
def gather (limit : Nat) : List Char → Nat → Cursor → Nat × Nat × Cursor
  | [], value, cursor => (value, 0, cursor)
  | c :: rest, value, cursor =>
    if isDigit c && value * 10 + digitValue c < limit then
      let (value, count, cursor) := gather limit rest (value * 10 + digitValue c) cursor.next
      (value, count + 1, cursor)
    else (value, 0, cursor)

def powerOfTen (exponent : Nat) : Float := Float.ofScientific 1 false exponent

-- Powers beyond the range of binary fractions are divided out in steps.
def scaled : Nat → Float → Int → Option Float
  | 0, value, _ => some value
  | steps + 1, value, exponent =>
    if exponent.natAbs ≤ 308 then
      if 0 ≤ exponent then
        let result := value * powerOfTen exponent.natAbs
        if result.isInf then none else some result
      else some (value / powerOfTen exponent.natAbs)
    else if value == 0.0 then some value
    else if 0 ≤ exponent then none
    else scaled steps (value / powerOfTen 308) (exponent + 308)

def wordFloat (significand : Nat) : Float := significand.toUInt64.toFloat

def realNumber (negative : Bool) (significand : Nat) (exponent : Int) (cursor : Cursor) : Read Number :=
  match scaled 5 (wordFloat significand) exponent with
  | none => .error (cursor.here .numberTooLarge)
  | some value => .ok (.real (if negative then -value else value), cursor)

def signedZero (negative : Bool) : Number := .real (if negative then -0.0 else 0.0)

-- After the sign of an exponent; one digit must be there.
def readExponentDigits (negative : Bool) (significand : Nat) (start : Int) (down : Bool)
    (cursor : Cursor) : Read Number :=
  match cursor.rest with
  | [] => .error (cursor.here .endInValue)
  | c :: _ =>
    if !isDigit c then .error (cursor.ahead .badNumber)
    else
      let (exponent, _, after) := gather exponentLimit cursor.rest 0 cursor
      if !startsWithDigit after then
        realNumber negative significand (if down then start - exponent else start + exponent) after
      else if significand ≠ 0 ∧ down = false then .error (after.next.here .numberTooLarge)
      else .ok (signedZero negative, skipDigits after.rest after)

def readExponent (negative : Bool) (significand : Nat) (start : Int) (cursor : Cursor) : Read Number :=
  let cursor := cursor.next
  match cursor.rest with
  | '+' :: _ => readExponentDigits negative significand start false cursor.next
  | '-' :: _ => readExponentDigits negative significand start true cursor.next
  | _ => readExponentDigits negative significand start false cursor

-- From the decimal point on; digits that no longer fit are passed over.
def readDecimal (negative : Bool) (significand : Nat) (start : Int) (cursor : Cursor) : Read Number :=
  let cursor := cursor.next
  let (value, count, after) := gather wordLimit cursor.rest significand cursor
  if count = 0 ∧ !startsWithDigit after then
    .error (match after.rest with
      | [] => after.ahead .endInValue
      | _ => after.ahead .badNumber)
  else
    let after := skipDigits after.rest after
    let exponent := start - count
    if startsWithExponent after then readExponent negative value exponent after
    else realNumber negative value exponent after

-- A whole part that does not fit: the other digits only count.
def readLong (negative : Bool) (significand : Nat) (cursor : Cursor) : Read Number :=
  let skipped : Int := countDigits cursor.rest
  let after := skipDigits cursor.rest cursor
  match after.rest with
  | '.' :: _ => readDecimal negative significand skipped after
  | _ =>
    if startsWithExponent after then readExponent negative significand skipped after
    else realNumber negative significand skipped after

def wholeNumber (negative : Bool) (significand : Nat) : Number :=
  if !negative then .whole significand
  else if significand = 0 ∨ significand > Nat.pow 2 63 then .real (-(wordFloat significand))
  else .whole (-(significand : Int))

def readFraction (negative : Bool) (significand : Nat) (cursor : Cursor) : Read Number :=
  match cursor.rest with
  | '.' :: _ => readDecimal negative significand 0 cursor
  | _ =>
    if startsWithExponent cursor then readExponent negative significand 0 cursor
    else .ok (wholeNumber negative significand, cursor)

-- A whole number of 64 bits is exact. Any other number becomes a binary fraction: its leading
-- digits, as many as fit 64 bits, are scaled by powers of ten one after the other.
-- After the sign.
def readNumber (negative : Bool) (cursor : Cursor) : Read Number :=
  match cursor.rest with
  | [] => .error (cursor.here .endInValue)
  | '0' :: _ =>
    if startsWithDigit cursor.next then .error (cursor.next.ahead .badNumber)
    else readFraction negative 0 cursor.next
  | c :: _ =>
    if !isDigit c then .error (cursor.ahead .badNumber)
    else
      let (value, _, after) := gather wordLimit cursor.rest 0 cursor
      if startsWithDigit after then readLong negative value after
      else readFraction negative value after

-- A number that is not kept is only checked for its form.
def skipExponent (cursor : Cursor) : Except Fault Cursor :=
  let cursor := cursor.next
  let cursor := match cursor.rest with
    | '+' :: _ => cursor.next
    | '-' :: _ => cursor.next
    | _ => cursor
  if startsWithDigit cursor then .ok (skipDigits cursor.rest cursor)
  else .error (cursor.ahead .badNumber)

def skipFraction (cursor : Cursor) : Except Fault Cursor :=
  match cursor.rest with
  | '.' :: _ =>
    let cursor := cursor.next
    if !startsWithDigit cursor then .error (cursor.ahead .badNumber)
    else
      let after := skipDigits cursor.rest cursor
      if startsWithExponent after then skipExponent after else .ok after
  | _ => if startsWithExponent cursor then skipExponent cursor else .ok cursor

def skipNumber (cursor : Cursor) : Except Fault Cursor :=
  match cursor.rest with
  | '0' :: _ =>
    if startsWithDigit cursor.next then .error (cursor.next.ahead .badNumber)
    else skipFraction cursor.next
  | _ =>
    if startsWithDigit cursor then skipFraction (skipDigits cursor.rest cursor)
    else .error (cursor.ahead .badNumber)

end SpringSkeleton.Json
