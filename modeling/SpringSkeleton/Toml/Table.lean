import SpringSkeleton.Toml.Problem

namespace SpringSkeleton.Toml

structure Key where
  name : String
  span : Span

-- A table may be made by its header, implied by the header of a table below it, or made by a dotted
-- key; which of these it was decides who may add to it.
-- How a table came to be.
inductive Origin where
  | header
  | implied
  | dotted
  deriving DecidableEq

inductive Item where
  | scalar (value : Scalar)
  | table (origin : Origin) (entries : List (Key × Option Span × Item))
  | tables (items : List Item)

abbrev Entries := List (Key × Option Span × Item)

def Entries.find? (name : String) (entries : Entries) : Option (Option Span × Item) :=
  (List.find? (fun entry => entry.1.name == name) entries).map (·.2)

def Entries.remove (name : String) (entries : Entries) : Entries :=
  entries.filter fun entry => entry.1.name != name

-- The entry keeps its place; a new one comes last.
def Entries.set (key : Key) (span : Option Span) (item : Item) : Entries → Entries
  | [] => [(key, span, item)]
  | entry :: rest =>
    if entry.1.name = key.name then (entry.1, span, item) :: rest else entry :: Entries.set key span item rest

abbrev Change := Origin → Entries → Except Cause Entries

-- A change at the end of a path of keys. Tables that are missing on the way are made.
def changeAt (viaDots : Bool) (passed : List String) :
    List Key → Origin → Entries → Change → Except Cause Entries
  | [], origin, entries, change => change origin entries
  | key :: rest, _, entries, change =>
    let passed := passed ++ [key.name]
    match entries.find? key.name with
    | none =>
      let origin : Origin := if viaDots then .dotted else .implied
      match changeAt viaDots passed rest origin [] change with
      | .error cause => .error cause
      | .ok below => .ok (entries.set key none (.table origin below))
    | some (_, .scalar value) => .error (.wrongExtension passed value.kind)
    | some (span, .table origin inner) =>
      if viaDots ∧ origin = .header then .error (.duplicateKey key.name none)
      else match changeAt viaDots passed rest origin inner change with
        | .error cause => .error cause
        | .ok below => .ok (entries.set key span (.table origin below))
    | some (span, .tables items) =>
      match items.getLast? with
      | some (.table origin inner) =>
        match changeAt viaDots passed rest origin inner change with
        | .error cause => .error cause
        | .ok below =>
          .ok (entries.set key span (.tables (items.dropLast ++ [.table origin below])))
      | _ => .error (.duplicateKey key.name none)

-- A key and its value join a table that is not yet closed to them.
def addValue (path : List Key) (key : Key) (span : Span) (value : Scalar)
    (repeated : Option (List String)) : Change :=
  fun origin entries =>
    if (origin == .dotted) == path.isEmpty then .error (.duplicateKey key.name none)
    else match entries.find? key.name with
      | some _ => .error (.duplicateKey key.name repeated)
      | none => .ok (entries.set key (some span) (.scalar value))

-- Inside braces a table that has been closed cannot be extended.
def addInline (path : List Key) (key : Key) (span : Span) (value : Scalar) (entries : Entries) :
    Except Cause Entries :=
  match changeAt true [] path .header entries (addValue path key span value none) with
  | .error (.wrongExtension passed "inline table") =>
    .error (.duplicateKey (passed.getLast?.getD "") none)
  | outcome => outcome

end SpringSkeleton.Toml
