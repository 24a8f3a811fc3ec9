import SpringSkeleton.Proofs.Json.Reading

namespace SpringSkeleton.Json

theorem writtenItems_eq (items : List Value) : writtenItems items = items.map writtenChars := by
  induction items with
  | nil => rfl
  | cons item items ih => rw [writtenItems, ih, List.map_cons]

theorem writtenPairs_eq (members : List (String × Value)) :
    writtenPairs members = members.map (memberChars writtenChars) := by
  induction members with
  | nil => rfl
  | cons member members ih =>
    rw [writtenPairs, ih, List.map_cons]
    rfl

theorem opens_writtenText (s : String) : Opens (writtenText s) :=
  ⟨'"', s.toList.flatMap escapedChar ++ ['"'], rfl, by decide, by decide⟩

theorem writtenChars_textListValue (items : List String) :
    writtenChars (textListValue items) = '[' :: commaSeparated (items.map writtenText) ++ [']'] := by
  rw [textListValue, writtenChars, writtenItems_eq, List.map_map]
  rfl

theorem readTextList_written (items : List String) :
    Recovers (readListOf readTextValue) (writtenChars (textListValue items)) items := by
  rw [writtenChars_textListValue]
  exact readListOf_written fun item _ => ⟨readTextValue_written item, opens_writtenText item⟩

theorem readClassList_written (names : List String) :
    Recovers readClassList (writtenChars (textListValue names)) names := by
  intro cursor rest chars
  obtain ⟨after, read, left⟩ := readOptional_some (readTextList_written names)
    (writtenChars_textListValue names) (by decide) (by decide) cursor rest chars
  refine ⟨after, ?_, left⟩
  rw [readClassList, read]
  rfl

theorem writtenChars_map {α : Type} (item : α → Value) (map : Keyed α) :
    writtenChars (.object (map.map fun entry => (entry.1, item entry.2))) =
      '\x7b' :: commaSeparated (map.map (memberChars fun value => writtenChars (item value))) ++ ['\x7d'] := by
  rw [writtenChars, writtenPairs_eq, List.map_map]
  rfl

-- The maps of a slot are in order.
def Shape.Orderly : (shape : Shape) → shape.Carrier → Prop
  | .textMap, map => Keyed.Ascending map
  | .classLists, found => ∀ map, found = some map → Keyed.Ascending map
  | _, _ => True

-- Values of every kind but the one that keeps any value whatever.
theorem Shape.recovers {shape : Shape} (plain : shape ≠ .optionalValue) (value : shape.Carrier)
    (orderly : shape.Orderly value) : Recovers shape.read (writtenChars (shape.toValue value)) value := by
  cases shape with
  | text => exact readTextValue_written value
  | optionalText =>
    cases value with
    | none => exact readOptional_null
    | some s => exact readOptional_some (readTextValue_written s) rfl (by decide) (by decide)
  | textMap =>
    have recovers : Recovers (readMapOf readTextValue)
        ('\x7b' :: commaSeparated (value.map (memberChars writtenText)) ++ ['\x7d']) value :=
      readMapOf_written (fun entry _ => readTextValue_written entry.2) orderly
    have chars := writtenChars_map Value.text value
    exact chars ▸ recovers
  | textList => exact readTextList_written value
  | classLists =>
    cases value with
    | none => exact readOptional_null
    | some map =>
      have chars := writtenChars_map textListValue map
      have recovers : Recovers (readMapOf readClassList) ('\x7b' :: commaSeparated (map.map
          (memberChars fun names => writtenChars (textListValue names))) ++ ['\x7d']) map :=
        readMapOf_written (fun entry _ => readClassList_written entry.2) (orderly map rfl)
      rw [← chars] at recovers
      exact readOptional_some recovers chars (by decide) (by decide)
  | optionalValue => exact absurd rfl plain

theorem mapM_recovers {ε α β : Type} {f : β → Except ε α} {g : α → β} {items : List α}
    (each : ∀ item ∈ items, f (g item) = .ok item) : (items.map g).mapM f = .ok items := by
  induction items with
  | nil => rfl
  | cons item items ih =>
    obtain ⟨one, others⟩ := List.forall_mem_cons.mp each
    rw [List.map_cons, List.mapM_cons, one, ih others]
    rfl

theorem listOfValue_textListValue (items : List String) :
    listOfValue textOfValue (textListValue items) = .ok items :=
  mapM_recovers fun _ _ => rfl

theorem mapOfValue_map {α : Type} {item : Value → Except Complaint α} {write : α → Value} {map : Keyed α}
    (each : ∀ value, item (write value) = .ok value) (ascending : Keyed.Ascending map) :
    mapOfValue item (.object (map.map fun entry => (entry.1, write entry.2))) = .ok map := by
  have members : (map.map fun entry => (entry.1, write entry.2)).mapM
      (fun member => (item member.2).map (member.1, ·)) = .ok map := by
    refine mapM_recovers fun entry _ => ?_
    rw [each]
    rfl
  rw [mapOfValue, members, ← ascending.ofList_eq]
  simp [Except.map, ascending.ofList_eq]

theorem Shape.ofValue_toValue {shape : Shape} (plain : shape ≠ .optionalValue) (value : shape.Carrier)
    (orderly : shape.Orderly value) : shape.ofValue (shape.toValue value) = .ok value := by
  cases shape with
  | text => rfl
  | optionalText => cases value <;> rfl
  | textMap => exact mapOfValue_map (fun _ => rfl) orderly
  | textList => exact listOfValue_textListValue value
  | classLists =>
    cases value with
    | none => rfl
    | some map =>
      have lists : ∀ names, (optionalOfValue (listOfValue textOfValue) (textListValue names)).map
          (·.getD []) = .ok names := by
        intro names
        have list := listOfValue_textListValue names
        rw [textListValue] at list ⊢
        rw [optionalOfValue, list]
        · rfl
        · exact fun null => (nomatch null)
      have recovers : mapOfValue (fun value =>
          (optionalOfValue (listOfValue textOfValue) value).map (·.getD []))
            (.object (map.map fun entry => (entry.1, textListValue entry.2))) = .ok map :=
        mapOfValue_map lists (orderly map rfl)
      rw [Shape.ofValue, Shape.toValue, optionValue, optionalOfValue, recovers]
      · rfl
      · exact fun null => (nomatch null)
  | optionalValue => exact absurd rfl plain

theorem ascending_of_mapOfValue {α : Type} {item : Value → Except Complaint α} {value : Value}
    {map : Keyed α} (read : mapOfValue item value = .ok map) : Keyed.Ascending map := by
  unfold mapOfValue at read
  split at read
  · obtain ⟨members, _, rfl⟩ := ok_of_map read
    exact Keyed.ascending_ofList members
  · cases read

theorem Shape.ofValue_orderly (shape : Shape) (value : Value) (found : shape.Carrier)
    (read : shape.ofValue value = .ok found) : shape.Orderly found := by
  cases shape with
  | textMap => exact ascending_of_mapOfValue read
  | classLists =>
    rintro map rfl
    simp only [Shape.ofValue] at read
    unfold optionalOfValue at read
    split at read
    · cases read
    · obtain ⟨map, inner, same⟩ := ok_of_map read
      cases same
      exact ascending_of_mapOfValue inner
  | _ => trivial

theorem ascending_of_readMapOf {α : Type} {value : Cursor → Read α} {cursor after : Cursor}
    {map : Keyed α} (read : readMapOf value cursor = .ok (map, after)) : Keyed.Ascending map := by
  unfold readMapOf at read
  simp only at read
  split at read
  · obtain ⟨⟨members, _⟩, _, same⟩ := ok_of_map read
    cases same
    exact Keyed.ascending_ofList members
  · cases read

theorem Shape.read_orderly (shape : Shape) (cursor after : Cursor) (found : shape.Carrier)
    (read : shape.read cursor = .ok (found, after)) : shape.Orderly found := by
  cases shape with
  | textMap => exact ascending_of_readMapOf read
  | classLists =>
    rintro map rfl
    unfold Shape.read readOptional at read
    simp only at read
    split at read
    · obtain ⟨_, _, same⟩ := ok_of_map read
      cases same
    · obtain ⟨⟨map, _⟩, inner, same⟩ := ok_of_map read
      cases same
      exact ascending_of_readMapOf inner
  | _ => trivial

namespace Record

-- The slots of the known members.
def known (names : List String) : (members : List Member) → Slots members → Partial members
  | [], _ => ()
  | member :: members, (value, rest) =>
    (if member.name ∈ names then some value else none, known names members rest)

theorem known_nil (members : List Member) (slots : Slots members) :
    known [] members slots = Partial.none members := by
  induction members with
  | nil => rfl
  | cons member members ih =>
    obtain ⟨value, rest⟩ := slots
    rw [known, ih]
    rfl

theorem known_cons {name : String} {names : List String} {members : List Member}
    (absent : name ∉ members.map Member.name) (slots : Slots members) :
    known (name :: names) members slots = known names members slots := by
  induction members with
  | nil => rfl
  | cons member members ih =>
    obtain ⟨value, rest⟩ := slots
    obtain ⟨other, others⟩ := not_or.mp (fun either => absent (List.mem_cons.mpr either))
    rw [known, known, ih others]
    simp [Ne.symm other]

theorem complete_known {names : List String} {members : List Member}
    (all : ∀ name ∈ members.map Member.name, name ∈ names) (slots : Slots members) :
    complete members (known names members slots) = .ok slots := by
  induction members with
  | nil => rfl
  | cons member members ih =>
    obtain ⟨value, rest⟩ := slots
    obtain ⟨first, others⟩ := List.forall_mem_cons.mp all
    rw [known, complete, if_pos first, ih others]
    rfl

theorem keys_membersOf (members : List Member) (slots : Slots members) :
    (membersOf members slots).map Prod.fst = members.map Member.name := by
  induction members with
  | nil => rfl
  | cons member members ih =>
    obtain ⟨value, rest⟩ := slots
    rw [membersOf, List.map_cons, List.map_cons, ih]

theorem name_of_mem {members : List Member} {slots : Slots members} {key : String} {value : Value}
    (member : (key, value) ∈ membersOf members slots) : key ∈ members.map Member.name :=
  keys_membersOf members slots ▸ List.mem_map.mpr ⟨_, member, rfl⟩

-- What can be written and read again: members with names of their own, and no values of any kind.
structure Plain (members : List Member) : Prop where
  names : (members.map Member.name).Nodup
  shapes : ∀ member ∈ members, member.shape ≠ .optionalValue

theorem Plain.tail {member : Member} {members : List Member} (plain : Plain (member :: members)) :
    Plain members :=
  ⟨(List.nodup_cons.mp plain.names).2, (List.forall_mem_cons.mp plain.shapes).2⟩

theorem offer_known {members : List Member} (plain : Plain members) {slots : Slots members}
    (orderly : Each Shape.Orderly members slots) {names : List String} {key : String} {value : Value}
    (member : (key, value) ∈ membersOf members slots) (new : key ∉ names) {cursor : Cursor}
    {rest : List Char} (chars : cursor.rest = ':' :: (writtenChars value ++ rest)) :
    ∃ after, offer members (known names members slots) key cursor =
      .taken (.ok (known (key :: names) members slots, after)) ∧ after.rest = rest := by
  induction members with
  | nil => cases member
  | cons first members ih =>
    obtain ⟨slot, others⟩ := slots
    obtain ⟨one, each⟩ := orderly
    have absent : first.name ∉ members.map Member.name := (List.nodup_cons.mp plain.names).1
    rcases List.mem_cons.mp member with here | later
    · cases here
      have shaped := Shape.recovers (List.forall_mem_cons.mp plain.shapes).1 slot one
      obtain ⟨after, read, left⟩ := shaped _ _ (Cursor.rest_next chars)
      refine ⟨after, ?_, left⟩
      unfold offer known
      simp [new, known_cons absent, pastColon_written chars, read, Except.map]
    · have listed := name_of_mem later
      have different : first.name ≠ key := fun same => absent (same ▸ listed)
      obtain ⟨after, offered, left⟩ := ih plain.tail each later
      refine ⟨after, ?_, left⟩
      unfold offer known
      simp [different, offered, Except.map]

-- The members may come in any order.
theorem readFields_known {members : List Member} (plain : Plain members) {slots : Slots members}
    (orderly : Each Shape.Orderly members slots) {todo : List (String × Value)} {names : List String}
    (inside : ∀ entry ∈ todo, entry ∈ membersOf members slots) (once : (todo.map Prod.fst).Nodup)
    (new : ∀ entry ∈ todo, entry.1 ∉ names)
    (all : ∀ name ∈ members.map Member.name, name ∈ todo.map Prod.fst ∨ name ∈ names)
    {bound : Nat} (enough : todo.length < bound) {first : Bool} {cursor : Cursor} {rest : List Char}
    (chars : cursor.rest = listed first (todo.map (memberChars writtenChars)) ++ '\x7d' :: rest) :
    ∃ after, readFields members bound first (known names members slots) cursor = .ok (slots, after) ∧
      after.rest = rest := by
  induction todo generalizing names bound first cursor with
  | nil =>
    obtain ⟨bound, rfl⟩ : ∃ less, bound = less + 1 := ⟨bound - 1, by omega⟩
    have brace : cursor.rest = '\x7d' :: rest := chars
    have completed : complete members (known names members slots) = .ok slots :=
      complete_known (fun name member => (all name member).resolve_left (List.not_mem_nil)) slots
    refine ⟨cursor.next, ?_, Cursor.rest_next brace⟩
    rw [readFields, readKey_close brace]
    simp [completed]
  | cons entry todo ih =>
    obtain ⟨bound, rfl⟩ : ∃ less, bound = less + 1 := ⟨bound - 1, by omega⟩
    obtain ⟨listedFirst, listedRest⟩ := List.forall_mem_cons.mp inside
    obtain ⟨single, others⟩ := List.nodup_cons.mp once
    obtain ⟨fresh, later⟩ := List.forall_mem_cons.mp new
    have keyed : cursor.rest = (if first then writtenText entry.1 else ',' :: writtenText entry.1) ++
        (':' :: (writtenChars entry.2 ++ (listed false (todo.map (memberChars writtenChars)) ++
          '\x7d' :: rest))) := by
      rw [chars]
      cases first <;> simp [listed, memberChars]
    obtain ⟨colon, key, colonChars⟩ := readKey_written keyed
    obtain ⟨behind, offered, left⟩ := offer_known plain orderly listedFirst fresh colonChars
    have unseen : ∀ other ∈ todo, other.1 ∉ entry.1 :: names := by
      intro other member seen
      rcases List.mem_cons.mp seen with same | before
      · exact single (same ▸ List.mem_map.mpr ⟨other, member, rfl⟩)
      · exact later other member before
    have covered : ∀ name ∈ members.map Member.name,
        name ∈ todo.map Prod.fst ∨ name ∈ entry.1 :: names := by
      intro name member
      rcases all name member with here | before
      · rcases List.mem_cons.mp here with rfl | after
        · exact .inr List.mem_cons_self
        · exact .inl after
      · exact .inr (List.mem_cons_of_mem _ before)
    obtain ⟨after, read, last⟩ := ih listedRest others unseen covered (Nat.lt_of_succ_lt_succ enough) left
    refine ⟨after, ?_, last⟩
    rw [readFields, key]
    simp [offered, read]

theorem read_written {record : Record} (plain : Plain record.members) {slots : Slots record.members}
    (orderly : Each Shape.Orderly record.members slots) : record.parse (record.write slots) = .ok slots := by
  have members := keys_membersOf record.members slots
  have once : ((membersOf record.members slots).map Prod.fst).Nodup := members ▸ plain.names
  have text : (record.write slots).toList = '\x7b' ::
      (listed true ((membersOf record.members slots).map (memberChars writtenChars)) ++ ['\x7d']) := by
    rw [write, String.toList_ofList, writtenMembers, listed_true, List.map_map, List.cons_append]
    rfl
  have brace : (Cursor.ofText (record.write slots)).rest = _ := text
  have enough : (membersOf record.members slots).length <
      (Cursor.ofText (record.write slots)).rest.length + 1 := by
    have filled : ∀ part ∈ (membersOf record.members slots).map (memberChars writtenChars), part ≠ [] :=
      List.forall_mem_map.mpr fun member _ => memberChars_ne_nil writtenChars member
    have parts := length_listed filled true
    rw [List.length_map] at parts
    rw [brace, List.length_cons, List.length_append]
    omega
  obtain ⟨after, read, left⟩ := readFields_known plain orderly (fun _ member => member) once
    (fun _ _ => List.not_mem_nil) (fun name member => .inl (members ▸ member)) enough
    (Cursor.rest_next brace)
  rw [known_nil] at read
  have finished : finish after = .ok () := by
    have ended : after.pastSpace = after := by rw [Cursor.pastSpace, left, Cursor.skipSpaces]
    rw [finish, ended, left]
  have whole : record.read (Cursor.ofText (record.write slots)) = .ok (slots, after) := by
    rw [Record.read, Cursor.pastSpace_of_head brace (by decide)]
    split
    · exact read
    · rename_i other
      rw [brace] at other
      cases other
    · rename_i other _
      exact absurd brace (other _)
  rw [parse, whole]
  simp only [finished]
  rfl

theorem placeMember_known {members : List Member} (plain : Plain members) {slots : Slots members}
    (orderly : Each Shape.Orderly members slots) {key : String} {value : Value}
    (member : (key, value) ∈ membersOf members slots) (names : List String) :
    placeMember members key value (known names members slots) =
      .ok (known (key :: names) members slots) := by
  induction members with
  | nil => cases member
  | cons first members ih =>
    obtain ⟨slot, others⟩ := slots
    obtain ⟨one, each⟩ := orderly
    have absent : first.name ∉ members.map Member.name := (List.nodup_cons.mp plain.names).1
    rcases List.mem_cons.mp member with here | later
    · cases here
      have read := Shape.ofValue_toValue (List.forall_mem_cons.mp plain.shapes).1 slot one
      unfold placeMember known
      simp [read, Except.map, known_cons absent]
    · have different : first.name ≠ key := fun same => absent (same ▸ name_of_mem later)
      unfold placeMember known
      simp [different, ih plain.tail each later, Except.map]

theorem ofMembers_known {members : List Member} (plain : Plain members) {slots : Slots members}
    (orderly : Each Shape.Orderly members slots) {todo : List (String × Value)}
    (inside : ∀ entry ∈ todo, entry ∈ membersOf members slots) (names : List String) :
    ofMembers members todo (known names members slots) =
      .ok (known ((todo.map Prod.fst).reverse ++ names) members slots) := by
  induction todo generalizing names with
  | nil => rfl
  | cons entry todo ih =>
    obtain ⟨first, others⟩ := List.forall_mem_cons.mp inside
    rw [ofMembers, placeMember_known plain orderly first]
    simp only [ih others, List.map_cons, List.reverse_cons, List.append_assoc, List.cons_append,
      List.nil_append]

-- The members of the value are in order of their names, not in that of the record.
theorem ofValue_toValue {record : Record} (plain : Plain record.members) {slots : Slots record.members}
    (orderly : Each Shape.Orderly record.members slots) :
    record.ofValue (record.toValue slots) = .ok slots := by
  have members := keys_membersOf record.members slots
  have inside : ∀ entry ∈ Keyed.ofList (membersOf record.members slots),
      entry ∈ membersOf record.members slots :=
    fun entry member => Keyed.mem_of_last? (Keyed.mem_ofList.mp member)
  have all : ∀ name ∈ record.members.map Member.name,
      name ∈ ((Keyed.ofList (membersOf record.members slots)).map Prod.fst).reverse ++ [] := by
    intro name member
    rw [← members] at member
    rw [List.append_nil, List.mem_reverse]
    exact Keyed.mem_keys_ofList.mpr member
  have gathered := ofMembers_known plain orderly inside []
  rw [known_nil] at gathered
  rw [toValue, Value.record, ofValue, gathered]
  exact complete_known all slots

variable {P : (shape : Shape) → shape.Carrier → Prop}

section OfValue

variable (given : ∀ (shape : Shape) (value : Value) (found : shape.Carrier),
  shape.ofValue value = .ok found → P shape found)

include given

theorem placeMember_found {members : List Member} {key : String} {value : Value}
    {found later : Partial members} (before : EachFound P members found)
    (placed : placeMember members key value found = .ok later) : EachFound P members later := by
  induction members with
  | nil =>
    cases placed
    exact before
  | cons member members ih =>
    obtain ⟨first, others⟩ := found
    obtain ⟨one, rest⟩ := before
    unfold placeMember at placed
    split at placed
    · obtain ⟨slot, read, rfl⟩ := ok_of_map placed
      refine ⟨fun kept this => ?_, rest⟩
      cases this
      exact given _ _ _ read
    · obtain ⟨more, inner, rfl⟩ := ok_of_map placed
      exact ⟨one, ih rest inner⟩

theorem ofMembers_found {members : List Member} {todo : List (String × Value)}
    {found later : Partial members} (before : EachFound P members found)
    (gathered : ofMembers members todo found = .ok later) : EachFound P members later := by
  induction todo generalizing found with
  | nil =>
    cases gathered
    exact before
  | cons entry todo ih =>
    unfold ofMembers at gathered
    split at gathered
    · cases gathered
    · rename_i placed
      exact ih (placeMember_found given before placed) gathered

theorem ofItems_each {expected : String} {members : List Member} (sources : Sources P members)
    {index : Nat} {items left : List Value} {slots : Slots members}
    (read : ofItems expected members index items = .ok (slots, left)) : Each P members slots := by
  induction members generalizing index items left with
  | nil => trivial
  | cons member members ih =>
    cases items with
    | nil =>
      unfold ofItems at read
      split at read
      · cases read
      · rename_i value absent
        obtain ⟨⟨more, last⟩, tail, same⟩ := ok_of_map read
        cases same
        exact ⟨sources.absentInList member List.mem_cons_self _ absent, ih sources.tail tail⟩
    | cons item items =>
      unfold ofItems at read
      split at read
      · cases read
      · rename_i value one
        obtain ⟨⟨more, last⟩, tail, same⟩ := ok_of_map read
        cases same
        exact ⟨given _ _ _ one, ih sources.tail tail⟩

theorem ofValue_each {record : Record} (sources : Sources P record.members) {value : Value}
    {slots : Slots record.members} (read : record.ofValue value = .ok slots) :
    Each P record.members slots := by
  unfold ofValue at read
  split at read
  · split at read
    · cases read
    · rename_i gathered
      exact complete_each sources (ofMembers_found given (eachFound_none _) gathered) read
  · split at read
    · cases read
    · rename_i items
      cases read
      exact ofItems_each given sources items
    · cases read
  · cases read

end OfValue
end Record
end SpringSkeleton.Json
