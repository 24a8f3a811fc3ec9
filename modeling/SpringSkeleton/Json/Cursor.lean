import SpringSkeleton.Json.Problem

namespace SpringSkeleton.Json

-- Lines count from one, columns are the bytes read since the last line break.
structure Cursor where
  rest : List Char
  line : Nat
  column : Nat

abbrev Read (α : Type) := Except Fault (α × Cursor)

namespace Cursor

def ofText (text : String) : Cursor := ⟨text.toList, 1, 0⟩

def next (cursor : Cursor) : Cursor :=
  match cursor.rest with
  | [] => cursor
  | c :: rest =>
    if c = '\n' then ⟨rest, cursor.line + 1, 0⟩
    else ⟨rest, cursor.line, cursor.column + c.utf8Size⟩

-- A fault of what has been read.
def here (cursor : Cursor) (cause : Cause) : Fault := ⟨cause, cursor.line, cursor.column⟩

-- A fault of the byte that comes next.
def ahead (cursor : Cursor) (cause : Cause) : Fault :=
  match cursor.rest with
  | [] => cursor.here cause
  | c :: _ => if c = '\n' then ⟨cause, cursor.line + 1, 0⟩ else ⟨cause, cursor.line, cursor.column + 1⟩

def isSpace (c : Char) : Bool := c == ' ' || c == '\n' || c == '\t' || c == '\r'

def skipSpaces : List Char → Cursor → Cursor
  | [], cursor => cursor
  | c :: rest, cursor => if isSpace c then skipSpaces rest cursor.next else cursor

def pastSpace (cursor : Cursor) : Cursor := skipSpaces cursor.rest cursor

-- Bytes are counted out; a character may be cut by the end of the count.
def pastBytes : Nat → List Char → Cursor → Cursor
  | _, [], cursor => cursor
  | count, c :: rest, cursor =>
    if count = 0 then cursor
    else if c.utf8Size ≤ count then pastBytes (count - c.utf8Size) rest cursor.next
    else { cursor with column := cursor.column + count }

def expect (cursor : Cursor) (word : List Char) : Except Fault Cursor :=
  match word with
  | [] => .ok cursor
  | c :: more =>
    match cursor.rest with
    | [] => .error (cursor.here .endInValue)
    | d :: _ => if c = d then expect cursor.next more else .error (cursor.ahead .wordExpected)

end Cursor
end SpringSkeleton.Json
