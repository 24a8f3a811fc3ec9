import SpringSkeleton.Toml.Problem

namespace SpringSkeleton.Toml

structure Cursor where
  rest : List Char
  offset : Nat

-- A form that does not fit leaves room for another one; a fault inside a form that has begun is
-- final.
structure Stop where
  final : Bool
  trouble : Trouble

abbrev Parse (α : Type) := Except Stop (α × Cursor)

namespace Cursor

def ofText (text : String) : Cursor := ⟨text.toList, 0⟩

def next (cursor : Cursor) : Cursor :=
  match cursor.rest with
  | [] => cursor
  | c :: rest => ⟨rest, cursor.offset + c.utf8Size⟩

def advance : Nat → Cursor → Cursor
  | 0, cursor => cursor
  | count + 1, cursor => advance count cursor.next

def startsWith (cursor : Cursor) (word : String) : Bool := word.toList.isPrefixOf cursor.rest

def skipWhile (p : Char → Bool) : List Char → Cursor → Cursor
  | [], cursor => cursor
  | c :: rest, cursor => if p c then skipWhile p rest cursor.next else cursor

-- The longest run of characters of a class, cut off at a length.
def run (p : Char → Bool) (most : Nat) (cursor : Cursor) : List Char × Cursor :=
  let taken := (cursor.rest.takeWhile p).take most
  (taken, cursor.advance taken.length)

def fails {α : Type} (cursor : Cursor) : Parse α := .error ⟨false, { offset := cursor.offset }⟩

def failsWith {α : Type} (cursor : Cursor) (cause : Cause) : Parse α :=
  .error ⟨false, { offset := cursor.offset, cause := some cause }⟩

end Cursor

section
variable {α : Type}

def labelled (label : String) : Parse α → Parse α
  | .ok found => .ok found
  | .error stop =>
    .error { stop with trouble := { stop.trouble with label := stop.trouble.label.or (some label) } }

def expecting (what : String) : Parse α → Parse α
  | .ok found => .ok found
  | .error stop =>
    .error { stop with trouble := { stop.trouble with expected := stop.trouble.expected ++ [what] } }

def final : Parse α → Parse α
  | .ok found => .ok found
  | .error stop => .error { stop with final := true }

-- The second form is tried where the first does not fit.
def orElse (first : Parse α) (second : Unit → Parse α) : Parse α :=
  match first with
  | .ok found => .ok found
  | .error stop => if stop.final then .error stop else second ()

-- A form that may be absent leaves the cursor where it was.
def optional (cursor : Cursor) (form : Parse α) : Parse (Option α) :=
  match form with
  | .ok (found, after) => .ok (some found, after)
  | .error stop => if stop.final then .error stop else .ok (none, cursor)

end

def literal (word : String) (cursor : Cursor) : Parse Unit :=
  if cursor.startsWith word then .ok ((), cursor.advance word.length) else cursor.fails

def isBlank (c : Char) : Bool := c == ' ' || c == '\t'

def pastBlanks (cursor : Cursor) : Cursor := Cursor.skipWhile isBlank cursor.rest cursor

def newline (cursor : Cursor) : Parse Unit :=
  match cursor.rest with
  | '\n' :: _ => .ok ((), cursor.next)
  | '\r' :: '\n' :: _ => .ok ((), cursor.next.next)
  | '\r' :: _ => cursor.next.fails
  | _ => cursor.fails

def isBeyondAscii (c : Char) : Bool := c.toNat ≥ 128

-- What a comment may hold: no control character but the tab.
def isCommentChar (c : Char) : Bool :=
  c == '\t' || (' ' ≤ c && c ≤ '~') || isBeyondAscii c

def comment (cursor : Cursor) : Parse Unit :=
  match cursor.rest with
  | '#' :: rest => .ok ((), Cursor.skipWhile isCommentChar rest cursor.next)
  | _ => cursor.fails

def lineEnd (cursor : Cursor) : Parse Unit :=
  match newline cursor with
  | .ok found => .ok found
  | .error _ => if cursor.rest = [] then .ok ((), cursor) else cursor.fails

-- What may follow on a line: blanks and a comment.
def lineTrailing (cursor : Cursor) : Parse Unit :=
  let cursor := pastBlanks cursor
  match optional cursor (comment cursor) with
  | .error stop => .error stop
  | .ok (_, cursor) => lineEnd cursor

-- Blanks, line breaks and comments between the items of an array.
def pastFiller : Nat → Cursor → Cursor
  | 0, cursor => cursor
  | bound + 1, cursor =>
    match cursor.rest with
    | ' ' :: _ => pastFiller bound cursor.next
    | '\t' :: _ => pastFiller bound cursor.next
    | '\n' :: _ => pastFiller bound cursor.next
    | '\r' :: '\n' :: _ => pastFiller bound cursor.next.next
    | '#' :: rest => pastFiller bound (Cursor.skipWhile isCommentChar rest cursor.next)
    | _ => cursor

def filler (cursor : Cursor) : Cursor := pastFiller cursor.rest.length cursor

end SpringSkeleton.Toml
