namespace SpringSkeleton.Text

def cut (separator : Char) : List Char → List (List Char)
  | [] => [[]]
  | c :: rest =>
    if c = separator then [] :: cut separator rest
    else match cut separator rest with
      | [] => [[c]]
      | piece :: pieces => (c :: piece) :: pieces

def glue (separator : Char) : List (List Char) → List Char
  | [] => []
  | [piece] => piece
  | piece :: pieces => piece ++ separator :: glue separator pieces

theorem cut_ne_nil (separator : Char) (cs : List Char) : cut separator cs ≠ [] := by
  cases cs with
  | nil => simp [cut]
  | cons c rest =>
    unfold cut
    split
    · simp
    · split <;> simp

theorem glue_cut (separator : Char) (cs : List Char) : glue separator (cut separator cs) = cs := by
  induction cs with
  | nil => rfl
  | cons c rest ih =>
    unfold cut
    split
    · rename_i same
      cases pieces : cut separator rest with
      | nil => exact absurd pieces (cut_ne_nil separator rest)
      | cons piece more => simp [glue, ← pieces, ih, same]
    · cases pieces : cut separator rest with
      | nil => exact absurd pieces (cut_ne_nil separator rest)
      | cons piece more =>
        cases more with
        | nil => simpa [pieces, glue] using ih
        | cons next others => simpa [pieces, glue] using ih

def pieces (separator : Char) (s : String) : List String :=
  (cut separator s.toList).map String.ofList

def joined (separator : Char) (parts : List String) : String :=
  String.ofList (glue separator (parts.map String.toList))

-- The part before the first occurrence and the part after it.
def splitFirst? (separator : Char) : List Char → Option (List Char × List Char)
  | [] => none
  | c :: rest =>
    if c = separator then some ([], rest)
    else (splitFirst? separator rest).map fun parts => (c :: parts.1, parts.2)

def startsWith (start s : String) : Bool := start.toList.isPrefixOf s.toList

def endsWith (ending s : String) : Bool := ending.toList.isSuffixOf s.toList

-- The text without an ending that it has.
def withoutEnding? (ending s : String) : Option String :=
  if endsWith ending s then
    some (String.ofList (s.toList.take (s.toList.length - ending.toList.length)))
  else none

end SpringSkeleton.Text
