import SpringSkeleton.Text.Cased
import SpringSkeleton.Text.CaseIgnorable
import SpringSkeleton.Text.UpperTable
import SpringSkeleton.Text.LowerTable

namespace SpringSkeleton.Text

-- Entries of several characters win over runs; a character in neither table stays as it is.
def mapCase (runs : List CaseRun) (expansions : List (Nat × List Nat)) (c : Char) : List Char :=
  match expansions.lookup c.toNat with
  | some codes => codes.map Char.ofNat
  | none => match runImage? runs c.toNat with
    | some code => [Char.ofNat code]
    | none => [c]

def upperChar (c : Char) : List Char := mapCase upperRuns upperExpansions c

def lowerChar (c : Char) : List Char := mapCase lowerRuns lowerExpansions c

def upperChars (cs : List Char) : List Char := cs.flatMap upperChar

def capitalSigma : Char := 'Σ'

-- The next character that is not looked through is a cased one.
def meetsCased (cs : List Char) : Bool :=
  match cs.dropWhile caseIgnorable.contains with
  | [] => false
  | c :: _ => cased.contains c

-- A capital sigma at the end of a word becomes the final form.
-- The characters before the current one come nearest first.
def lowerAfter (before : List Char) : List Char → List Char
  | [] => []
  | c :: rest =>
    let image :=
      if c = capitalSigma then
        if meetsCased before && !meetsCased rest then ['ς'] else ['σ']
      else lowerChar c
    image ++ lowerAfter (c :: before) rest

def uppercase (s : String) : String := String.ofList (upperChars s.toList)

def lowercase (s : String) : String := String.ofList (lowerAfter [] s.toList)

-- Only the first character changes.
def capitalize (s : String) : String :=
  match s.toList with
  | [] => ""
  | c :: rest => String.ofList (upperChar c ++ rest)

end SpringSkeleton.Text
