import SpringSkeleton.Json.Reader

namespace SpringSkeleton.Json

inductive Shape where
  | text
  | optionalText
  | textMap
  | textList
  | classLists
  | optionalValue
  deriving DecidableEq

@[reducible] def Shape.Carrier : Shape → Type
  | text => String
  | optionalText => Option String
  | textMap => Keyed String
  | textList => List String
  | classLists => Option (Keyed (List String))
  | optionalValue => Option Value

-- What stands for a member that is absent from an object, and from a list, if anything may.
structure Member where
  name : String
  shape : Shape
  absentInObject : Option shape.Carrier
  absentInList : Option shape.Carrier
  description : String

def Member.required (name : String) (shape : Shape) (description : String) : Member :=
  ⟨name, shape, none, none, description⟩

def Member.withDefault (name : String) (shape : Shape) (value : shape.Carrier) (description : String) :
    Member :=
  ⟨name, shape, some value, some value, description⟩

-- A record is described once. The description drives reading from a text, where faults have
-- positions, reading from a value, where complaints have none, and writing.
structure Record where
  title : String
  description : String
  members : List Member

@[reducible] def Slots : List Member → Type
  | [] => Unit
  | member :: members => member.shape.Carrier × Slots members

-- Members found so far.
@[reducible] def Partial : List Member → Type
  | [] => Unit
  | member :: members => Option member.shape.Carrier × Partial members

def Partial.none : (members : List Member) → Partial members
  | [] => ()
  | _ :: members => (Option.none, Partial.none members)

-- The fault for a value of the wrong kind stands behind a scalar and before a bracket.
def wrongKind (cursor : Cursor) (expected : String) : Fault :=
  match readScalar cursor with
  | .error fault => fault
  | .ok (some (value, after)) => after.here (.complaint (.wrongKind value.found expected))
  | .ok none =>
    match cursor.rest with
    | '[' :: _ => cursor.here (.complaint (.wrongKind .sequence expected))
    | '\x7b' :: _ => cursor.here (.complaint (.wrongKind .map expected))
    | [] => cursor.ahead .endInValue
    | _ => cursor.ahead .valueExpected

def readTextValue (cursor : Cursor) : Read String :=
  let cursor := cursor.pastSpace
  match cursor.rest with
  | '"' :: _ => readText cursor.next
  | _ => .error (wrongKind cursor "a string")

def readMapOf {α : Type} (value : Cursor → Read α) (cursor : Cursor) : Read (Keyed α) :=
  let cursor := cursor.pastSpace
  match cursor.rest with
  | '\x7b' :: _ =>
    (readObject value cursor.next).map fun (members, after) => (Keyed.ofList members, after)
  | _ => .error (wrongKind cursor "a map")

def readListOf {α : Type} (value : Cursor → Read α) (cursor : Cursor) : Read (List α) :=
  let cursor := cursor.pastSpace
  match cursor.rest with
  | '[' :: _ => readList value cursor.next
  | _ => .error (wrongKind cursor "a sequence")

def readOptional {α : Type} (value : Cursor → Read α) (cursor : Cursor) : Read (Option α) :=
  let cursor := cursor.pastSpace
  match cursor.rest with
  | 'n' :: _ => (cursor.next.expect "ull".toList).map fun after => (none, after)
  | _ => (value cursor).map fun (found, after) => (some found, after)

def readClassList (cursor : Cursor) : Read (List String) :=
  (readOptional (readListOf readTextValue) cursor).map fun (found, after) => (found.getD [], after)

def Shape.read : (shape : Shape) → Cursor → Read shape.Carrier
  | text => readTextValue
  | optionalText => readOptional readTextValue
  | textMap => readMapOf readTextValue
  | textList => readListOf readTextValue
  | classLists => readOptional (readMapOf readClassList)
  | optionalValue => readOptional (readValue (depthLimit - 1))

def textOfValue : Value → Except Complaint String
  | .text value => .ok value
  | value => .error (.wrongKind value.found "a string")

def mapOfValue {α : Type} (item : Value → Except Complaint α) : Value → Except Complaint (Keyed α)
  | .object members =>
    (members.mapM fun member => (item member.2).map (member.1, ·)).map Keyed.ofList
  | value => .error (.wrongKind value.found "a map")

def listOfValue {α : Type} (item : Value → Except Complaint α) : Value → Except Complaint (List α)
  | .array items => items.mapM item
  | value => .error (.wrongKind value.found "a sequence")

def optionalOfValue {α : Type} (item : Value → Except Complaint α) : Value → Except Complaint (Option α)
  | .null => .ok none
  | value => (item value).map some

def Shape.ofValue : (shape : Shape) → Value → Except Complaint shape.Carrier
  | text => textOfValue
  | optionalText => optionalOfValue textOfValue
  | textMap => mapOfValue textOfValue
  | textList => listOfValue textOfValue
  | classLists =>
    optionalOfValue (mapOfValue fun value =>
      (optionalOfValue (listOfValue textOfValue) value).map (·.getD []))
  | optionalValue => optionalOfValue .ok

def textMapValue (map : Keyed String) : Value :=
  .object (map.map fun entry => (entry.1, .text entry.2))

def textListValue (items : List String) : Value := .array (items.map .text)

def optionValue {α : Type} (item : α → Value) : Option α → Value
  | none => .null
  | some found => item found

def Shape.toValue : (shape : Shape) → shape.Carrier → Value
  | text => .text
  | optionalText => optionValue .text
  | textMap => textMapValue
  | textList => textListValue
  | classLists =>
    optionValue fun map => .object (map.map fun entry => (entry.1, textListValue entry.2))
  | optionalValue => optionValue id

namespace Record

-- A member that is offered twice is refused before its value is read.
inductive Offer (members : List Member) where
  | unknown
  | repeated
  | taken (read : Read (Partial members))

def offer : (members : List Member) → Partial members → String → Cursor → Offer members
  | [], _, _, _ => .unknown
  | member :: members, (found, others), key, cursor =>
    if member.name = key then
      match found with
      | some _ => .repeated
      | none => .taken <|
        match pastColon cursor with
        | .error fault => .error fault
        | .ok cursor =>
          (member.shape.read cursor).map fun (value, after) => ((some value, others), after)
    else match offer members others key cursor with
      | .unknown => .unknown
      | .repeated => .repeated
      | .taken read => .taken (read.map fun (rest, after) => ((found, rest), after))

def complete : (members : List Member) → Partial members → Except Complaint (Slots members)
  | [], _ => .ok ()
  | member :: members, (found, others) =>
    match found.or member.absentInObject with
    | none => .error (.missingField member.name)
    | some value => (complete members others).map (value, ·)

-- A complaint about an object as a whole stands behind its closing brace if that comes next.
def complainInObject (cursor : Cursor) (complaint : Complaint) : Fault :=
  let cursor := cursor.pastSpace
  match cursor.rest with
  | '\x7d' :: _ => cursor.next.here (.complaint complaint)
  | _ => cursor.here (.complaint complaint)

def readFields (members : List Member) : Nat → Bool → Partial members → Cursor → Read (Slots members)
  | 0, _, _, cursor => .error (cursor.ahead .endInObject)
  | bound + 1, first, found, cursor =>
    match readKey first cursor with
    | .error fault => .error fault
    | .ok (none, cursor) =>
      match complete members found with
      | .error complaint => .error (complainInObject cursor complaint)
      | .ok slots => .ok (slots, cursor.next)
    | .ok (some key, cursor) =>
      match offer members found key cursor with
      | .repeated => .error (complainInObject cursor (.repeatedField key))
      | .taken (.error fault) => .error fault
      | .taken (.ok (found, cursor)) => readFields members bound false found cursor
      | .unknown =>
        match pastColon cursor with
        | .error fault => .error fault
        | .ok cursor => match skipValue cursor with
          | .error fault => .error fault
          | .ok cursor => readFields members bound false found cursor

def lengthText (record : Record) : String :=
  "struct " ++ record.title ++ " with " ++ toString record.members.length ++ " elements"

-- Where the next item of a list begins; none at the closing bracket.
def nextItem (first : Bool) (cursor : Cursor) : Except Fault (Option Cursor) :=
  match cursor.rest with
  | [] => .error (cursor.ahead .endInList)
  | ']' :: _ => .ok none
  | c :: _ =>
    if first then .ok (some cursor)
    else if c = ',' then (pastListComma cursor.next).map some
    else .error (cursor.ahead .listEndExpected)

def readItemsInOrder (expected : String) :
    (members : List Member) → Nat → Cursor → Read (Slots members)
  | [], _, cursor => .ok ((), cursor)
  | member :: members, index, cursor =>
    let cursor := cursor.pastSpace
    match nextItem (index == 0) cursor with
    | .error fault => .error fault
    | .ok none =>
      match member.absentInList with
      | none => .error (cursor.next.here (.complaint (.wrongLength index expected)))
      | some value =>
        (readItemsInOrder expected members (index + 1) cursor).map
          fun (rest, after) => ((value, rest), after)
    | .ok (some cursor) =>
      match member.shape.read cursor with
      | .error fault => .error fault
      | .ok (value, cursor) =>
        (readItemsInOrder expected members (index + 1) cursor).map
          fun (rest, after) => ((value, rest), after)

def read (record : Record) (cursor : Cursor) : Read (Slots record.members) :=
  let cursor := cursor.pastSpace
  match cursor.rest with
  | '\x7b' :: _ =>
    readFields record.members (cursor.rest.length + 1) true (Partial.none record.members) cursor.next
  | '[' :: _ =>
    match readItemsInOrder record.lengthText record.members 0 cursor.next with
    | .error fault => .error fault
    | .ok (slots, cursor) => (closeList cursor).map fun after => (slots, after)
  | _ => .error (wrongKind cursor ("struct " ++ record.title))

-- A document that holds one record.
def parse (record : Record) (text : String) : Except Fault (Slots record.members) :=
  match record.read (Cursor.ofText text) with
  | .error fault => .error fault
  | .ok (slots, cursor) => (finish cursor).map fun _ => slots

def placeMember : (members : List Member) → String → Value → Partial members →
    Except Complaint (Partial members)
  | [], _, _, found => .ok found
  | member :: members, key, value, (found, others) =>
    if member.name = key then (member.shape.ofValue value).map fun read => (some read, others)
    else (placeMember members key value others).map fun rest => (found, rest)

def ofMembers (members : List Member) : List (String × Value) → Partial members →
    Except Complaint (Partial members)
  | [], found => .ok found
  | (key, value) :: rest, found =>
    match placeMember members key value found with
    | .error complaint => .error complaint
    | .ok found => ofMembers members rest found

def ofItems (expected : String) : (members : List Member) → Nat → List Value →
    Except Complaint (Slots members × List Value)
  | [], _, items => .ok ((), items)
  | member :: members, index, [] =>
    match member.absentInList with
    | none => .error (.wrongLength index expected)
    | some value =>
      (ofItems expected members (index + 1) []).map fun (rest, left) => ((value, rest), left)
  | member :: members, index, item :: items =>
    match member.shape.ofValue item with
    | .error complaint => .error complaint
    | .ok value =>
      (ofItems expected members (index + 1) items).map fun (rest, left) => ((value, rest), left)

def ofValue (record : Record) : Value → Except Complaint (Slots record.members)
  | .object members =>
    match ofMembers record.members members (Partial.none record.members) with
    | .error complaint => .error complaint
    | .ok found => complete record.members found
  | .array items =>
    match ofItems record.lengthText record.members 0 items with
    | .error complaint => .error complaint
    | .ok (slots, []) => .ok slots
    | .ok (_, _ :: _) => .error (.wrongLength items.length "fewer elements in array")
  | value => .error (.wrongKind value.found ("struct " ++ record.title))

def membersOf : (members : List Member) → Slots members → List (String × Value)
  | [], _ => []
  | member :: members, (value, rest) =>
    (member.name, member.shape.toValue value) :: membersOf members rest

-- Members in the order of the description.
def write (record : Record) (slots : Slots record.members) : String :=
  String.ofList (writtenMembers
    ((membersOf record.members slots).map fun member => (member.1, writtenChars member.2)))

def toValue (record : Record) (slots : Slots record.members) : Value :=
  Value.record (membersOf record.members slots)

end Record
end SpringSkeleton.Json
