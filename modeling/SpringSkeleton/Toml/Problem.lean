import SpringSkeleton.Decimal.Shortest
import SpringSkeleton.Text.Pieces
import SpringSkeleton.Text.Quoted

namespace SpringSkeleton.Toml

structure Span where
  start : Nat
  stop : Nat
  deriving DecidableEq

-- What a value is, as far as a message needs it.
inductive Scalar where
  | text (value : String)
  | boolean (value : Bool)
  | integer (value : Int)
  | real (value : Float)
  | datetime
  | array
  | inlineTable

def Scalar.kind : Scalar → String
  | text _ => "string"
  | boolean _ => "boolean"
  | integer _ => "integer"
  | real _ => "float"
  | datetime => "datetime"
  | array => "array"
  | inlineTable => "inline table"

-- All digits are written out, with at least one behind the point.
def positional (s : Decimal.Scientific) : List Char :=
  let digits := Nat.toDigits 10 s.digits
  let point : Int := digits.length + s.exponent
  if 0 ≤ s.exponent then digits ++ List.replicate s.exponent.toNat '0' ++ ['.', '0']
  else if 0 < point then digits.take point.toNat ++ '.' :: digits.drop point.toNat
  else ['0', '.'] ++ List.replicate (-point).toNat '0' ++ digits

def realText (x : Float) : String :=
  match Decimal.ofFloat x with
  | some (negative, s) => String.ofList ((if negative then ['-'] else []) ++ positional s)
  | none => if x.isNaN then "NaN" else if x < 0 then "-inf" else "inf"

def Scalar.found : Scalar → String
  | text value => "string " ++ Text.quoted value
  | boolean value => "boolean `" ++ (if value then "true" else "false") ++ "`"
  | integer value => "integer `" ++ toString value ++ "`"
  | real value => "floating point `" ++ realText value ++ "`"
  | datetime => "map"
  | array => "sequence"
  | inlineTable => "map"

inductive Cause where
  | duplicateKey (key : String) (table : Option (List String))
  | wrongExtension (key : List String) (actual : String)
  | outOfRange
  | tooDeep
  | integerTooLarge
  | integerTooSmall
  | wrongKind (found expected : String)

def Cause.message : Cause → String
  | duplicateKey key none => "duplicate key `" ++ key ++ "`"
  | duplicateKey key (some []) => "duplicate key `" ++ key ++ "` in document root"
  | duplicateKey key (some table) =>
    "duplicate key `" ++ key ++ "` in table `" ++ Text.joined '.' table ++ "`"
  | wrongExtension key actual =>
    "dotted key `" ++ Text.joined '.' key ++ "` attempted to extend non-table type (" ++ actual ++ ")"
  | outOfRange => "value is out of range"
  | tooDeep => "recursion limit exceeded"
  | integerTooLarge => "number too large to fit in target type"
  | integerTooSmall => "number too small to fit in target type"
  | wrongKind found expected => "invalid type: " ++ found ++ ", expected " ++ expected

-- The innermost construct that failed, what could have stood there, and a cause beyond the form.
structure Trouble where
  offset : Nat
  label : Option String := none
  expected : List String := []
  cause : Option Cause := none

def Trouble.lines (trouble : Trouble) : List String :=
  (trouble.label.map ("invalid " ++ ·)).toList
  ++ (if trouble.expected = [] then []
      else ["expected " ++ ", ".intercalate trouble.expected])
  ++ (trouble.cause.map Cause.message).toList

def Trouble.message (trouble : Trouble) : String := "\n".intercalate trouble.lines

structure Problem where
  source : String
  span : Span
  message : String

-- Bytes of a text up to and with the given number of bytes, in whole characters.
def wholeChars : Nat → List Char → Option Nat
  | 0, _ => some 0
  | _ + 1, [] => none
  | bytes + 1, c :: rest =>
    if c.utf8Size ≤ bytes + 1 then (wholeChars (bytes + 1 - c.utf8Size) rest).map (· + 1) else none

def byteLength (cs : List Char) : Nat := cs.foldl (fun total c => total + c.utf8Size) 0

-- The lines before the one that holds an offset, the offset in its line, and that line to its end.
def lineAt : Nat → List (List Char) → Nat × Nat × List Char
  | offset, [] => (0, offset, [])
  | offset, [line] => (0, offset, line)
  | offset, line :: rest =>
    let length := byteLength line
    if offset ≤ length then (0, offset, line)
    else
      let (count, inLine, found) := lineAt (offset - length - 1) rest
      (count + 1, inLine, found)

-- Line and column, from zero. Behind the end of the text the column goes on in the last line.
def position (source : String) (offset : Nat) : Nat × Nat × List Char :=
  let length := source.utf8ByteSize
  let lines := Text.cut '\n' source.toList
  if length = 0 then (0, offset, [])
  else
    let safe := min offset (length - 1)
    let (line, inLine, content) := lineAt safe lines
    let column := match wholeChars (inLine + 1) (content ++ ['\n']) with
      | some count => count - 1
      | none => inLine
    (line, column + (offset - safe), content)

def Problem.render (problem : Problem) : String :=
  let (line, column, content) := position problem.source problem.span.start
  let number := toString (line + 1)
  let gutter := String.ofList (List.replicate (number.length + 1) ' ')
  let width := min (problem.span.stop - problem.span.start) (byteLength content - column)
  "TOML parse error at line " ++ number ++ ", column " ++ toString (column + 1) ++ "\n"
    ++ gutter ++ "|\n"
    ++ number ++ " | " ++ String.ofList content ++ "\n"
    ++ gutter ++ "|" ++ String.ofList (List.replicate (column + 1) ' ')
    ++ "^" ++ String.ofList (List.replicate (width - 1) '^') ++ "\n"
    ++ problem.message ++ "\n"

-- A fault of form is shown at the one character where reading stopped.
def charWidthAt : Nat → List Char → Nat
  | _, [] => 0
  | 0, c :: _ => c.utf8Size
  | offset + 1, c :: rest => charWidthAt (offset + 1 - c.utf8Size) rest

def Problem.ofTrouble (source : String) (trouble : Trouble) : Problem :=
  { source
    span := ⟨trouble.offset, trouble.offset + charWidthAt trouble.offset source.toList⟩
    message := trouble.message }

end SpringSkeleton.Toml
