import SpringSkeleton.Json.NumberText
import SpringSkeleton.Json.Text

namespace SpringSkeleton.Json

-- The comma between two items, and where the next item begins.
def pastListComma (cursor : Cursor) : Except Fault Cursor :=
  let cursor := cursor.pastSpace
  match cursor.rest with
  | [] => .error (cursor.ahead .endInValue)
  | ']' :: _ => .error (cursor.ahead .trailingComma)
  | _ => .ok cursor

-- Items up to the closing bracket, which is left to be read.
def readItems {α : Type} (item : Cursor → Read α) : Nat → Bool → Cursor → Read (List α)
  | 0, _, cursor => .error (cursor.ahead .endInList)
  | bound + 1, first, cursor =>
    let cursor := cursor.pastSpace
    let start : Except Fault (Option Cursor) := match cursor.rest with
      | [] => .error (cursor.ahead .endInList)
      | ']' :: _ => .ok none
      | c :: _ =>
        if first then .ok (some cursor)
        else if c = ',' then (pastListComma cursor.next).map some
        else .error (cursor.ahead .listEndExpected)
    match start with
    | .error fault => .error fault
    | .ok none => .ok ([], cursor)
    | .ok (some cursor) =>
      match item cursor with
      | .error fault => .error fault
      | .ok (value, cursor) =>
        match readItems item bound false cursor with
        | .error fault => .error fault
        | .ok (values, cursor) => .ok (value :: values, cursor)

-- The closing bracket of a list.
def closeList (cursor : Cursor) : Except Fault Cursor :=
  let cursor := cursor.pastSpace
  match cursor.rest with
  | ']' :: _ => .ok cursor.next
  | ',' :: _ =>
    let cursor := cursor.next.pastSpace
    match cursor.rest with
    | ']' :: _ => .error (cursor.ahead .trailingComma)
    | _ => .error (cursor.ahead .trailingCharacters)
  | [] => .error (cursor.ahead .endInList)
  | _ => .error (cursor.ahead .trailingCharacters)

def readList {α : Type} (item : Cursor → Read α) (cursor : Cursor) : Read (List α) :=
  match readItems item (cursor.rest.length + 1) true cursor with
  | .error fault => .error fault
  | .ok (values, cursor) => match closeList cursor with
    | .error fault => .error fault
    | .ok cursor => .ok (values, cursor)

-- The next key of an object, up to after its closing quote; none at the closing brace.
def readKey (first : Bool) (cursor : Cursor) : Read (Option String) :=
  let cursor := cursor.pastSpace
  let start : Except Fault (Option Cursor) := match cursor.rest with
    | [] => .error (cursor.ahead .endInObject)
    | '\x7d' :: _ => .ok none
    | c :: _ =>
      if first then
        if c = '"' then .ok (some cursor) else .error (cursor.ahead .keyNotText)
      else if c = ',' then
        let cursor := cursor.next.pastSpace
        match cursor.rest with
        | [] => .error (cursor.ahead .endInValue)
        | '"' :: _ => .ok (some cursor)
        | '\x7d' :: _ => .error (cursor.ahead .trailingComma)
        | _ => .error (cursor.ahead .keyNotText)
      else .error (cursor.ahead .objectEndExpected)
  match start with
  | .error fault => .error fault
  | .ok none => .ok (none, cursor)
  | .ok (some cursor) => match readText cursor.next with
    | .error fault => .error fault
    | .ok (key, cursor) => .ok (some key, cursor)

def pastColon (cursor : Cursor) : Except Fault Cursor :=
  let cursor := cursor.pastSpace
  match cursor.rest with
  | [] => .error (cursor.ahead .endInObject)
  | ':' :: _ => .ok cursor.next
  | _ => .error (cursor.ahead .colonExpected)

-- Members up to the closing brace, which is left to be read.
def readMembers {α : Type} (value : Cursor → Read α) : Nat → Bool → Cursor → Read (List (String × α))
  | 0, _, cursor => .error (cursor.ahead .endInObject)
  | bound + 1, first, cursor =>
    match readKey first cursor with
    | .error fault => .error fault
    | .ok (none, cursor) => .ok ([], cursor)
    | .ok (some key, cursor) =>
      match pastColon cursor with
      | .error fault => .error fault
      | .ok cursor =>
        match value cursor with
        | .error fault => .error fault
        | .ok (member, cursor) =>
          match readMembers value bound false cursor with
          | .error fault => .error fault
          | .ok (members, cursor) => .ok ((key, member) :: members, cursor)

def readObject {α : Type} (value : Cursor → Read α) (cursor : Cursor) : Read (List (String × α)) :=
  match readMembers value (cursor.rest.length + 1) true cursor with
  | .error fault => .error fault
  | .ok (members, cursor) => .ok (members, cursor.next)

-- Words, numbers and texts; none for a bracket or for what begins no value.
def readScalar (cursor : Cursor) : Except Fault (Option (Value × Cursor)) :=
  match cursor.rest with
  | 'n' :: _ => (cursor.next.expect "ull".toList).map fun after => some (.null, after)
  | 't' :: _ => (cursor.next.expect "rue".toList).map fun after => some (.boolean true, after)
  | 'f' :: _ => (cursor.next.expect "alse".toList).map fun after => some (.boolean false, after)
  | '-' :: _ => (readNumber true cursor.next).map fun (value, after) => some (.number value, after)
  | '"' :: _ => (readText cursor.next).map fun (value, after) => some (.text value, after)
  | _ =>
    if startsWithDigit cursor then
      (readNumber false cursor).map fun (value, after) => some (.number value, after)
    else .ok none

-- How deep a kept value may be nested; the document itself counts.
def depthLimit : Nat := 128

-- The depth that is left; the last level is never entered.
def readValue : Nat → Cursor → Read Value
  | 0, cursor => .error (cursor.ahead .tooDeep)
  | depth + 1, cursor =>
    let cursor := cursor.pastSpace
    match readScalar cursor with
    | .error fault => .error fault
    | .ok (some found) => .ok found
    | .ok none =>
      match cursor.rest with
      | [] => .error (cursor.ahead .endInValue)
      | '[' :: _ =>
        if depth = 0 then .error (cursor.ahead .tooDeep)
        else (readList (readValue depth) cursor.next).map fun (items, after) => (.array items, after)
      | '\x7b' :: _ =>
        if depth = 0 then .error (cursor.ahead .tooDeep)
        else (readObject (readValue depth) cursor.next).map
          fun (members, after) => (Value.record members, after)
      | _ => .error (cursor.ahead .valueExpected)

inductive Bracket where
  | list
  | object
  deriving DecidableEq

-- Passing over values: before a value, or behind one or behind an opening bracket.
inductive Skipping where
  | value
  | behind (comma : Bool)

def skipScalar (cursor : Cursor) : Except Fault Cursor :=
  match cursor.rest with
  | [] => .error (cursor.ahead .endInValue)
  | 'n' :: _ => cursor.next.expect "ull".toList
  | 't' :: _ => cursor.next.expect "rue".toList
  | 'f' :: _ => cursor.next.expect "alse".toList
  | '-' :: _ => skipNumber cursor.next
  | '"' :: _ => skipText cursor.next
  | _ => if startsWithDigit cursor then skipNumber cursor else .error (cursor.ahead .valueExpected)

def skipKey (cursor : Cursor) : Except Fault Cursor :=
  let cursor := cursor.pastSpace
  match cursor.rest with
  | [] => .error (cursor.ahead .endInObject)
  | '"' :: _ => match skipText cursor.next with
    | .error fault => .error fault
    | .ok cursor => pastColon cursor
  | _ => .error (cursor.ahead .keyNotText)

-- An item of a list begins with its value, a member of an object with its key.
def skipToValue (bracket : Bracket) (cursor : Cursor) : Except Fault Cursor :=
  match bracket with
  | .list => .ok cursor
  | .object => skipKey cursor

def skipSteps : Nat → Skipping → List Bracket → Cursor → Except Fault Cursor
  | 0, _, _, cursor => .error (cursor.ahead .endInValue)
  | bound + 1, .value, open_, cursor =>
    let cursor := cursor.pastSpace
    match cursor.rest with
    | '[' :: _ => skipSteps bound (.behind false) (.list :: open_) cursor.next
    | '\x7b' :: _ => skipSteps bound (.behind false) (.object :: open_) cursor.next
    | _ => match skipScalar cursor with
      | .error fault => .error fault
      | .ok cursor => skipSteps bound (.behind true) open_ cursor
  | _ + 1, .behind _, [], cursor => .ok cursor
  | bound + 1, .behind comma, bracket :: outer, cursor =>
    let cursor := cursor.pastSpace
    match cursor.rest, bracket with
    | [], .list => .error (cursor.ahead .endInList)
    | [], .object => .error (cursor.ahead .endInObject)
    | ']' :: _, .list => skipSteps bound (.behind true) outer cursor.next
    | '\x7d' :: _, .object => skipSteps bound (.behind true) outer cursor.next
    | c :: _, bracket =>
      if comma && c ≠ ',' then
        .error (cursor.ahead (if bracket = .list then .listEndExpected else .objectEndExpected))
      else match skipToValue bracket (if comma then cursor.next else cursor) with
        | .error fault => .error fault
        | .ok cursor => skipSteps bound .value (bracket :: outer) cursor

def skipValue (cursor : Cursor) : Except Fault Cursor :=
  skipSteps (2 * cursor.rest.length + 3) .value [] cursor

-- Nothing but blanks may follow a document.
def finish (cursor : Cursor) : Except Fault Unit :=
  let cursor := cursor.pastSpace
  match cursor.rest with
  | [] => .ok ()
  | _ => .error (cursor.ahead .trailingCharacters)

end SpringSkeleton.Json
