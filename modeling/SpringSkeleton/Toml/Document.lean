import SpringSkeleton.Toml.NumberText
import SpringSkeleton.Toml.Table
import SpringSkeleton.Toml.Text

namespace SpringSkeleton.Toml

def isBareKeyChar (c : Char) : Bool :=
  ('a' ≤ c && c ≤ 'z') || ('A' ≤ c && c ≤ 'Z') || isDigit c || c == '-' || c == '_'

def simpleKey (cursor : Cursor) : Parse Key :=
  let name : Parse String := match cursor.rest with
    | '"' :: _ => basicText cursor
    | '\'' :: _ => literalText cursor
    | _ =>
      let (cs, after) := cursor.run isBareKeyChar cursor.rest.length
      if cs = [] then cursor.fails else .ok (String.ofList cs, after)
  name.map fun (text, after) => (⟨text, ⟨cursor.offset, after.offset⟩⟩, after)

def paddedKey (cursor : Cursor) : Parse Key :=
  (simpleKey (pastBlanks cursor)).map fun (key, after) => (key, pastBlanks after)

-- A dot that no key follows is left to be read.
def moreKeys : Nat → Cursor → Parse (List Key)
  | 0, cursor => .ok ([], cursor)
  | bound + 1, cursor =>
    match cursor.rest with
    | '.' :: _ =>
      match optional cursor (paddedKey cursor.next) with
      | .error stop => .error stop
      | .ok (none, cursor) => .ok ([], cursor)
      | .ok (some key, cursor) =>
        match moreKeys bound cursor with
        | .error stop => .error stop
        | .ok (keys, cursor) => .ok (key :: keys, cursor)
    | _ => .ok ([], cursor)

-- How many keys may follow one another, and how deep values may be nested.
def depthLimit : Nat := 80

def dottedKey (cursor : Cursor) : Parse (List Key × Key) :=
  let keys : Parse (List Key × Key) := labelled "key" <|
    match paddedKey cursor with
    | .error stop => .error stop
    | .ok (first, after) =>
      (moreKeys after.rest.length after).map fun (more, after) =>
        match more.getLast? with
        | none => (([], first), after)
        | some last => ((first :: more.dropLast, last), after)
  match keys with
  | .error stop => .error stop
  | .ok ((path, key), after) =>
    if depthLimit ≤ path.length + 1 then cursor.failsWith .tooDeep else .ok ((path, key), after)

def unquotedWord (word : String) (value : Scalar) (cursor : Cursor) : Parse Scalar :=
  expecting "`'`" <| expecting "`\"`" <| labelled "string" <|
    final ((literal word cursor).map fun (_, after) => (value, after))

def scalar (cursor : Cursor) : Parse Scalar :=
  match cursor.rest with
  | [] => cursor.fails
  | c :: _ =>
    if c = '"' ∨ c = '\'' then (text cursor).map fun (value, after) => (.text value, after)
    else if c = '+' ∨ c = '-' ∨ isDigit c then number cursor
    else if c = '_' then expecting "leading digit" (integer cursor)
    else if c = '.' then expecting "leading digit" (real cursor)
    else if c = 't' then unquotedWord "true" (.boolean true) cursor
    else if c = 'f' then unquotedWord "false" (.boolean false) cursor
    else if c = 'i' then unquotedWord "inf" (.real (1.0 / 0.0)) cursor
    else if c = 'n' then unquotedWord "nan" (.real (0.0 / 0.0)) cursor
    else expecting "`'`" <| expecting "`\"`" <| labelled "string" cursor.fails

-- Items of an array up to what is no further item. A comma after the last item is taken
-- with it; one before the first is not.
def arrayItems (value : Cursor → Parse Scalar) : Nat → Bool → Cursor → Parse Unit
  | 0, _, cursor => .ok ((), cursor)
  | bound + 1, first, cursor =>
    let start : Option Cursor :=
      if first then some cursor
      else match cursor.rest with
        | ',' :: _ => some cursor.next
        | _ => none
    match start with
    | none => .ok ((), cursor)
    | some begin_ =>
      match optional begin_ (value (filler begin_)) with
      | .error stop => .error stop
      | .ok (none, cursor) => .ok ((), cursor)
      | .ok (some _, cursor) => arrayItems value bound false (filler cursor)

def array (value : Cursor → Parse Scalar) (cursor : Cursor) : Parse Scalar :=
  match arrayItems value cursor.rest.length true cursor with
  | .error stop => .error stop
  | .ok (_, cursor) =>
    (expecting "`]`" (labelled "array" (final (literal "]" (filler cursor))))).map
      fun (_, after) => (.array, after)

def separatorForm (cursor : Cursor) : Parse Unit :=
  expecting "`=`" (expecting "`.`" (literal "=" cursor))

structure Pair where
  path : List Key
  key : Key
  span : Span
  value : Scalar

-- A key, the sign of equality and a value; what follows the value is left.
def pair (value : Cursor → Parse Scalar) (cursor : Cursor) : Parse Pair :=
  match dottedKey cursor with
  | .error stop => .error stop
  | .ok ((path, key), cursor) =>
  match final (separatorForm cursor) with
  | .error stop => .error stop
  | .ok (_, cursor) =>
    let cursor := pastBlanks cursor
    (final (value cursor)).map fun (found, after) =>
      (⟨path, key, ⟨cursor.offset, after.offset⟩, found⟩, after)

def inlinePairs (value : Cursor → Parse Scalar) : Nat → Bool → Cursor → Parse (List Pair)
  | 0, _, cursor => .ok ([], cursor)
  | bound + 1, first, cursor =>
    let start : Option Cursor :=
      if first then some cursor
      else match cursor.rest with
        | ',' :: _ => some cursor.next
        | _ => none
    match start with
    | none => .ok ([], cursor)
    | some begin_ =>
      match optional cursor (pair value begin_) with
      | .error stop => .error stop
      | .ok (none, cursor) => .ok ([], cursor)
      | .ok (some found, cursor) =>
        match inlinePairs value bound false (pastBlanks cursor) with
        | .error stop => .error stop
        | .ok (more, cursor) => .ok (found :: more, cursor)

def inlineEntries : List Pair → Entries → Except Cause Entries
  | [], entries => .ok entries
  | found :: rest, entries =>
    match addInline found.path found.key found.span found.value entries with
    | .error cause => .error cause
    | .ok entries => inlineEntries rest entries

def inlineTable (value : Cursor → Parse Scalar) (cursor : Cursor) : Parse Scalar :=
  match inlinePairs value cursor.rest.length true cursor with
  | .error stop => .error stop
  | .ok (pairs, after) =>
    match inlineEntries pairs [] with
    | .error cause => final (cursor.failsWith cause)
    | .ok _ =>
      (expecting "`\x7d`" (labelled "inline table" (final (literal "\x7d" (pastBlanks after))))).map
        fun (_, after) => (.inlineTable, after)

-- The depth that is left; the last level is never entered.
def value : Nat → Cursor → Parse Scalar
  | 0, cursor => final (cursor.failsWith .tooDeep)
  | depth + 1, cursor =>
    match cursor.rest with
    | '[' :: _ =>
      if depth = 0 then final (cursor.failsWith .tooDeep)
      else final (array (value depth) cursor.next)
    | '\x7b' :: _ =>
      if depth = 0 then final (cursor.failsWith .tooDeep)
      else final (inlineTable (value depth) cursor.next)
    | _ => scalar cursor

-- The root, and the table that lines are being added to.
structure Reading where
  root : Entries
  table : Entries
  span : Span
  path : List Key
  key : Option Key
  isList : Bool

def Reading.initial : Reading := ⟨[], [], ⟨0, 0⟩, [], none, false⟩

def Reading.tableName (reading : Reading) : List String :=
  match reading.key with
  | none => []
  | some key => (reading.path ++ [key]).map (·.name)

-- The table that is complete goes to its place below the root.
def Reading.close (reading : Reading) : Except Cause Entries :=
  match reading.key with
  | none => .ok reading.table
  | some key =>
    changeAt false [] reading.path .header reading.root fun _ entries =>
      let done := Item.table .header reading.table
      if reading.isList then
        match entries.find? key.name with
        | some (some span, .tables items) =>
          .ok (entries.set key (some ⟨span.start, reading.span.stop⟩) (.tables (items ++ [done])))
        | some (none, .tables items) =>
          .ok (entries.set key (some reading.span) (.tables (items ++ [done])))
        | _ => .error (.duplicateKey key.name (some (reading.path.map (·.name))))
      else .ok (entries.set key (some reading.span) done)

def Reading.addPair (reading : Reading) (found : Pair) : Except Cause Reading :=
  (changeAt true [] found.path .header reading.table
    (addValue found.path found.key found.span found.value (some reading.tableName))).map
    fun table => { reading with table, span := ⟨reading.span.start, found.span.stop⟩ }

-- The entries of the table at a path, through the last table of a list; none if there is no table.
def innerEntries (entries : Entries) : List String → String → Entries
  | [], name => match entries.find? name with
    | some (_, .table _ inner) => inner
    | _ => []
  | first :: rest, name => match entries.find? first with
    | some (_, .table _ inner) => innerEntries inner rest name
    | some (_, .tables items) => match items.getLast? with
      | some (.table _ inner) => innerEntries inner rest name
      | _ => []
    | _ => []

-- A header may name a table that was only implied before; its entries are kept.
def Reading.openTable (reading : Reading) (path : List Key) (key : Key) (span : Span) :
    Except Cause Reading :=
  match reading.close with
  | .error cause => .error cause
  | .ok root =>
    let opened : Except Cause (Entries × Entries) :=
      let kept := innerEntries root (path.map (·.name)) key.name
      (changeAt false [] path .header root fun _ entries =>
        match entries.find? key.name with
        | none => .ok entries
        | some (_, .table .implied _) => .ok (entries.remove key.name)
        | some _ => .error (.duplicateKey key.name (some (path.map (·.name))))).map (·, kept)
    opened.map fun (root, table) => ⟨root, table, span, path, some key, false⟩

def Reading.openList (reading : Reading) (path : List Key) (key : Key) (span : Span) :
    Except Cause Reading :=
  match reading.close with
  | .error cause => .error cause
  | .ok root =>
    (changeAt false [] path .header root fun _ entries =>
      match entries.find? key.name with
      | none => .ok (entries.set key none (.tables []))
      | some (_, .tables _) => .ok entries
      | some _ => .error (.duplicateKey key.name (some (path.map (·.name))))).map
      fun root => ⟨root, [], span, path, some key, true⟩

def header (reading : Reading) (isList : Bool) (cursor : Cursor) : Parse Reading :=
  let opening := if isList then "[[" else "["
  let closing := if isList then "]]" else "]"
  match literal opening cursor with
  | .error stop => .error stop
  | .ok (_, after) =>
  match final (dottedKey after) with
  | .error stop => .error stop
  | .ok ((path, key), after) =>
  match expecting ("`" ++ closing ++ "`") (expecting "`.`" (final (literal closing after))) with
  | .error stop => .error stop
  | .ok (_, behind) =>
  match expecting "`#`" (expecting "newline" (final (lineTrailing behind))) with
  | .error stop => .error stop
  | .ok (_, after) =>
    let span : Span := ⟨cursor.offset, behind.offset⟩
    match if isList then reading.openList path key span else reading.openTable path key span with
    | .error cause => cursor.failsWith cause
    | .ok reading => .ok (reading, after)

def tableLine (reading : Reading) (cursor : Cursor) : Parse Reading :=
  labelled "table header" <|
    match cursor.rest with
    | '[' :: '[' :: _ => header reading true cursor
    | '[' :: _ :: _ => header reading false cursor
    | _ => cursor.fails

def pairLine (reading : Reading) (cursor : Cursor) : Parse Reading :=
  match pair (value depthLimit) cursor with
  | .error stop => .error stop
  | .ok (found, after) =>
    match final (expecting "`#`" (expecting "newline" (lineTrailing after))) with
    | .error stop => .error stop
    | .ok (_, after) =>
      match reading.addPair found with
      | .error cause => cursor.failsWith cause
      | .ok reading => .ok (reading, after)

def commentLine (reading : Reading) (cursor : Cursor) : Parse Reading :=
  match comment cursor with
  | .error stop => .error stop
  | .ok (_, after) => (lineEnd after).map fun (_, after) => (reading, after)

def line (reading : Reading) (cursor : Cursor) : Parse Reading :=
  match cursor.rest with
  | [] => cursor.fails
  | c :: _ =>
    if c = '#' then final (commentLine reading cursor)
    else if c = '[' then final (tableLine reading cursor)
    else if c = '\n' ∨ c = '\r' then (newline cursor).map fun (_, after) => (reading, after)
    else final (pairLine reading cursor)

def lines : Nat → Reading → Cursor → Parse Reading
  | 0, reading, cursor => .ok (reading, cursor)
  | bound + 1, reading, cursor =>
    match optional cursor (line reading cursor) with
    | .error stop => .error stop
    | .ok (none, cursor) => .ok (reading, cursor)
    | .ok (some reading, cursor) => lines bound reading (pastBlanks cursor)

def byteOrderMark : Char := '\ufeff'

def document (cursor : Cursor) : Except Trouble Entries :=
  let cursor := match cursor.rest with
    | c :: _ => if c = byteOrderMark then cursor.next else cursor
    | [] => cursor
  match lines (cursor.rest.length + 1) Reading.initial (pastBlanks cursor) with
  | .error stop => .error stop.trouble
  | .ok (reading, cursor) =>
    if cursor.rest ≠ [] then .error { offset := cursor.offset }
    else match reading.close with
      | .error cause => .error { offset := cursor.offset, cause := some cause }
      | .ok root => .ok root

def parse (source : String) : Except Problem Entries :=
  match document (Cursor.ofText source) with
  | .error trouble => .error (Problem.ofTrouble source trouble)
  | .ok root => .ok root

end SpringSkeleton.Toml
