namespace SpringSkeleton.Java.Number

-- A form of text at the beginning of some characters: what follows it, if it is there.
abbrev Form := List Char → Option (List Char)

def isDigit (c : Char) : Bool := '0' ≤ c && c ≤ '9'

def isHexDigit (c : Char) : Bool := isDigit c || ('a' ≤ c && c ≤ 'f') || ('A' ≤ c && c ≤ 'F')

def isOctalDigit (c : Char) : Bool := '0' ≤ c && c ≤ '7'

def isBinaryDigit (c : Char) : Bool := c == '0' || c == '1'

def oneOf (choices : List Char) : Form
  | [] => none
  | c :: rest => if choices.contains c then some rest else none

def optionally (form : Form) : Form := fun cs => some ((form cs).getD cs)

def sequence (first second : Form) : Form := fun cs => (first cs).bind second

-- Digits in groups; one underscore stands between two groups.
def groups (isPart : Char → Bool) : Form
  | [] => none
  | c :: rest =>
    if isPart c then
      match groups isPart rest with
      | some after => some after
      | none => match rest with
        | '_' :: more => some ((groups isPart more).getD rest)
        | _ => some rest
    else none

-- A whole number in base ten begins with zero only if it is zero.
def whole : Form
  | [] => none
  | '0' :: rest => some rest
  | c :: rest =>
    if isDigit c then
      match rest with
      | '_' :: more => some ((groups isDigit more).getD rest)
      | _ => some ((groups isDigit rest).getD rest)
    else none

def longMark : Form := optionally (oneOf ['l', 'L'])

def floatMark : Form := oneOf ['f', 'F', 'd', 'D']

def signed (form : Form) : Form := sequence (optionally (oneOf ['+', '-'])) form

def exponent (marks : List Char) : Form := sequence (oneOf marks) (signed (groups isDigit))

def hexStart : Form := sequence (oneOf ['0']) (oneOf ['x', 'X'])

def decimalWhole : Form := sequence whole longMark

def hexWhole : Form := sequence hexStart (sequence (groups isHexDigit) longMark)

def octalStart : Form := sequence (oneOf ['0']) (optionally (oneOf ['o', 'O']))

def octalWhole : Form := sequence octalStart (sequence (groups isOctalDigit) longMark)

def binaryWhole : Form :=
  sequence (oneOf ['0']) <| sequence (oneOf ['b', 'B']) <|
    sequence (groups isBinaryDigit) longMark

def fractionEnd : Form :=
  sequence (optionally (exponent ['e', 'E'])) (optionally floatMark)

def pointInside : Form :=
  sequence (groups isDigit) <| sequence (oneOf ['.']) <|
    sequence (optionally (groups isDigit)) fractionEnd

def pointFirst : Form := sequence (oneOf ['.']) (sequence (groups isDigit) fractionEnd)

def scaledWhole : Form :=
  sequence whole (sequence (exponent ['e', 'E', 'p', 'P']) (optionally floatMark))

def markedWhole : Form :=
  sequence whole (sequence (optionally (exponent ['e', 'E'])) floatMark)

def hexScale : Form :=
  optionally (sequence (exponent ['e', 'E', 'p', 'P']) (optionally floatMark))

def hexPointLast : Form :=
  sequence hexStart (sequence (groups isHexDigit) (sequence (optionally (oneOf ['.'])) hexScale))

def hexPointInside : Form :=
  sequence hexStart <| sequence (optionally (groups isHexDigit)) <|
    sequence (oneOf ['.']) (sequence (groups isHexDigit) hexScale)

def forms : List Form :=
  [decimalWhole, hexWhole, octalWhole, binaryWhole, pointInside, pointFirst, scaledWhole,
   markedWhole, hexPointLast, hexPointInside]

-- The longer literal leaves less behind.
def longer (a b : Option (List Char)) : Option (List Char) :=
  match a, b with
  | none, b => b
  | a, none => a
  | some a, some b => some (if b.length < a.length then b else a)

-- Every form gives what follows the longest literal of that form; a literal ends where the longest
-- of all forms ends.
def read? (cs : List Char) : Option (List Char) :=
  forms.foldr (fun form found => longer (form cs) found) none

end SpringSkeleton.Java.Number
