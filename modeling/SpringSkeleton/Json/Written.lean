import SpringSkeleton.Decimal.Shortest
import SpringSkeleton.Json.Value

namespace SpringSkeleton.Json

-- Only quotes, backslashes and control characters are escaped.
def escapedChar (c : Char) : List Char :=
  match c with
  | '"' => ['\\', '"']
  | '\\' => ['\\', '\\']
  | '\n' => ['\\', 'n']
  | '\r' => ['\\', 'r']
  | '\t' => ['\\', 't']
  | '\x08' => ['\\', 'b']
  | '\x0c' => ['\\', 'f']
  | c =>
    if c.toNat < 32 then
      ['\\', 'u', '0', '0', Nat.digitChar (c.toNat / 16), Nat.digitChar (c.toNat % 16)]
    else [c]

def writtenText (s : String) : List Char := '"' :: s.toList.flatMap escapedChar ++ ['"']

def digitChars (n : Nat) : List Char := Nat.toDigits 10 n

def writtenInt (value : Int) : List Char :=
  if value < 0 then '-' :: digitChars value.natAbs else digitChars value.natAbs

-- A point or an exponent always shows that a number is no whole number.
def layout (s : Decimal.Scientific) : List Char :=
  let digits := digitChars s.digits
  let length : Int := digits.length
  let point := length + s.exponent
  if 0 ≤ s.exponent ∧ point ≤ 16 then digits ++ List.replicate s.exponent.toNat '0' ++ ['.', '0']
  else if 0 < point ∧ point ≤ 16 then digits.take point.toNat ++ '.' :: digits.drop point.toNat
  else if -5 < point ∧ point ≤ 0 then ['0', '.'] ++ List.replicate (-point).toNat '0' ++ digits
  else
    let mantissa := match digits with
      | [] => []
      | [digit] => [digit]
      | digit :: rest => digit :: '.' :: rest
    let exponent := point - 1
    mantissa ++ 'e' :: (if exponent < 0 then '-' else '+') :: digitChars exponent.natAbs

def writtenFloat (x : Float) : List Char :=
  match Decimal.ofFloat x with
  | none => "null".toList
  | some (negative, s) => (if negative then ['-'] else []) ++ layout s

def writtenNumber : Number → List Char
  | .whole value => writtenInt value
  | .real value => writtenFloat value

def commaSeparated : List (List Char) → List Char
  | [] => []
  | [part] => part
  | part :: parts => part ++ ',' :: commaSeparated parts

-- Members in the order in which they are given.
def writtenMembers (members : List (String × List Char)) : List Char :=
  '\x7b' :: commaSeparated (members.map fun member => writtenText member.1 ++ ':' :: member.2)
    ++ ['\x7d']

mutual
def writtenChars : Value → List Char
  | .null => "null".toList
  | .boolean true => "true".toList
  | .boolean false => "false".toList
  | .number value => writtenNumber value
  | .text value => writtenText value
  | .array items => '[' :: commaSeparated (writtenItems items) ++ [']']
  | .object members => '\x7b' :: commaSeparated (writtenPairs members) ++ ['\x7d']

def writtenItems : List Value → List (List Char)
  | [] => []
  | item :: items => writtenChars item :: writtenItems items

def writtenPairs : List (String × Value) → List (List Char)
  | [] => []
  | (key, value) :: members => (writtenText key ++ ':' :: writtenChars value) :: writtenPairs members
end

def written (value : Value) : String := String.ofList (writtenChars value)

end SpringSkeleton.Json
