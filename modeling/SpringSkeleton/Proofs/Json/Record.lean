import SpringSkeleton.Json.Record

namespace SpringSkeleton.Json

-- A mapped result comes from a result.
theorem ok_of_map {ε α β : Type} {f : α → β} {result : Except ε α} {value : β}
    (mapped : result.map f = .ok value) : ∃ given, result = .ok given ∧ f given = value := by
  cases result with
  | error fault => cases mapped
  | ok given =>
    cases mapped
    exact ⟨given, rfl, rfl⟩

namespace Cursor

theorem rest_next {cursor : Cursor} {c : Char} {rest : List Char} (chars : cursor.rest = c :: rest) :
    cursor.next.rest = rest := by
  rw [next, chars]
  simp only
  split <;> rfl

theorem head_skipSpaces {cs : List Char} {cursor : Cursor} (chars : cursor.rest = cs) :
    ∀ c, (skipSpaces cs cursor).rest.head? = some c → isSpace c = false := by
  induction cs generalizing cursor with
  | nil =>
    intro c first
    rw [skipSpaces, chars] at first
    cases first
  | cons d rest ih =>
    unfold skipSpaces
    split
    · exact ih (rest_next chars)
    · rename_i mark
      intro c first
      rw [chars] at first
      cases first
      simpa using mark

theorem pastSpace_pastSpace (cursor : Cursor) : cursor.pastSpace.pastSpace = cursor.pastSpace := by
  have first : ∀ c, cursor.pastSpace.rest.head? = some c → isSpace c = false :=
    head_skipSpaces (Eq.refl cursor.rest)
  cases chars : cursor.pastSpace.rest with
  | nil => rw [pastSpace, chars, skipSpaces]
  | cons c rest =>
    rw [chars] at first
    rw [pastSpace, chars, skipSpaces, first c rfl]
    rfl

end Cursor

theorem readScalar_null {cursor after : Cursor}
    (read : readScalar cursor = .ok (some (.null, after))) : cursor.rest.head? = some 'n' := by
  unfold readScalar at read
  split at read
  · rename_i chars
    rw [chars]
    rfl
  iterate 4
    · obtain ⟨_, _, same⟩ := ok_of_map read
      cases same
  split at read
  · obtain ⟨_, _, same⟩ := ok_of_map read
    cases same
  · cases read

theorem readValue_null {depth : Nat} {cursor after : Cursor}
    (read : readValue depth cursor = .ok (.null, after)) : cursor.pastSpace.rest.head? = some 'n' := by
  cases depth with
  | zero => cases read
  | succ depth =>
    unfold readValue at read
    simp only at read
    split at read
    · cases read
    · rename_i scalar
      cases read
      exact readScalar_null scalar
    · split at read
      · cases read
      · split at read
        · cases read
        · obtain ⟨_, _, same⟩ := ok_of_map read
          cases same
      · split at read
        · cases read
        · obtain ⟨_, _, same⟩ := ok_of_map read
          cases same
      · cases read

-- An optional value that is there is not null.
def Shape.Present : (shape : Shape) → shape.Carrier → Prop
  | .optionalValue, value => value ≠ some .null
  | _, _ => True

theorem Shape.read_present (shape : Shape) (cursor after : Cursor) (value : shape.Carrier)
    (read : shape.read cursor = .ok (value, after)) : shape.Present value := by
  cases shape with
  | optionalValue =>
    rintro rfl
    unfold Shape.read readOptional at read
    simp only at read
    split at read
    · obtain ⟨_, _, same⟩ := ok_of_map read
      cases same
    · rename_i other
      obtain ⟨⟨found, last⟩, kept, same⟩ := ok_of_map read
      cases same
      have null := readValue_null kept
      rw [Cursor.pastSpace_pastSpace] at null
      cases chars : cursor.pastSpace.rest with
      | nil => simp [chars] at null
      | cons c rest =>
        rw [chars] at null
        cases null
        exact other _ chars
  | _ => trivial

namespace Record

variable {P : (shape : Shape) → shape.Carrier → Prop}

def Each (P : (shape : Shape) → shape.Carrier → Prop) : (members : List Member) → Slots members → Prop
  | [], _ => True
  | member :: members, (value, rest) => P member.shape value ∧ Each P members rest

def EachFound (P : (shape : Shape) → shape.Carrier → Prop) :
    (members : List Member) → Partial members → Prop
  | [], _ => True
  | member :: members, (found, rest) =>
    (∀ value, found = some value → P member.shape value) ∧ EachFound P members rest

-- Where the values of a record may come from.
structure Sources (P : (shape : Shape) → shape.Carrier → Prop) (members : List Member) : Prop where
  read : ∀ (shape : Shape) (cursor after : Cursor) (value : shape.Carrier),
    shape.read cursor = .ok (value, after) → P shape value
  absentInObject : ∀ member ∈ members, ∀ value, member.absentInObject = some value → P member.shape value
  absentInList : ∀ member ∈ members, ∀ value, member.absentInList = some value → P member.shape value

theorem Sources.tail {member : Member} {members : List Member} (sources : Sources P (member :: members)) :
    Sources P members :=
  ⟨sources.read, fun other inside => sources.absentInObject other (List.mem_cons_of_mem _ inside),
    fun other inside => sources.absentInList other (List.mem_cons_of_mem _ inside)⟩

theorem eachFound_none (members : List Member) : EachFound P members (Partial.none members) := by
  induction members with
  | nil => trivial
  | cons member members ih => exact ⟨fun _ none => (nomatch none), ih⟩

theorem offer_found {members : List Member} (sources : Sources P members) {found later : Partial members}
    {key : String} {cursor after : Cursor} (before : EachFound P members found)
    (taken : offer members found key cursor = .taken (.ok (later, after))) :
    EachFound P members later := by
  induction members generalizing after with
  | nil => cases taken
  | cons member members ih =>
    obtain ⟨first, others⟩ := found
    obtain ⟨one, rest⟩ := before
    unfold offer at taken
    split at taken
    · split at taken
      · cases taken
      · have read := Offer.taken.inj taken
        split at read
        · cases read
        · obtain ⟨⟨value, last⟩, shaped, same⟩ := ok_of_map read
          cases same
          refine ⟨fun kept this => ?_, rest⟩
          cases this
          exact sources.read _ _ _ _ shaped
    · split at taken
      · cases taken
      · cases taken
      · rename_i offered
        obtain ⟨⟨more, last⟩, read, same⟩ := ok_of_map (Offer.taken.inj taken)
        cases same
        exact ⟨one, ih sources.tail rest (read ▸ offered)⟩

theorem complete_each {members : List Member} (sources : Sources P members) {found : Partial members}
    {slots : Slots members} (before : EachFound P members found)
    (completed : complete members found = .ok slots) : Each P members slots := by
  induction members with
  | nil => trivial
  | cons member members ih =>
    obtain ⟨first, others⟩ := found
    obtain ⟨one, rest⟩ := before
    unfold complete at completed
    split at completed
    · cases completed
    · rename_i value chosen
      obtain ⟨more, tail, rfl⟩ := ok_of_map completed
      refine ⟨?_, ih sources.tail rest tail⟩
      rcases Option.or_eq_some_iff.mp chosen with given | ⟨_, absent⟩
      · exact one _ given
      · exact sources.absentInObject member List.mem_cons_self _ absent

theorem readFields_each {members : List Member} (sources : Sources P members) {bound : Nat} {first : Bool}
    {found : Partial members} {cursor after : Cursor} {slots : Slots members}
    (before : EachFound P members found)
    (read : readFields members bound first found cursor = .ok (slots, after)) : Each P members slots := by
  induction bound generalizing first found cursor with
  | zero => cases read
  | succ bound ih =>
    unfold readFields at read
    split at read
    · cases read
    · split at read
      · cases read
      · rename_i completed
        cases read
        exact complete_each sources before completed
    · split at read
      · cases read
      · cases read
      · rename_i taken
        exact ih (offer_found sources before taken) read
      · split at read
        · cases read
        · split at read
          · cases read
          · exact ih before read

theorem readItemsInOrder_each {expected : String} {members : List Member} (sources : Sources P members)
    {index : Nat} {cursor after : Cursor} {slots : Slots members}
    (read : readItemsInOrder expected members index cursor = .ok (slots, after)) :
    Each P members slots := by
  induction members generalizing index cursor after with
  | nil => trivial
  | cons member members ih =>
    unfold readItemsInOrder at read
    simp only at read
    split at read
    · cases read
    · split at read
      · cases read
      · rename_i value absent
        obtain ⟨⟨more, last⟩, tail, same⟩ := ok_of_map read
        cases same
        exact ⟨sources.absentInList member List.mem_cons_self _ absent, ih sources.tail tail⟩
    · split at read
      · cases read
      · rename_i value behind one
        obtain ⟨⟨more, last⟩, tail, same⟩ := ok_of_map read
        cases same
        exact ⟨sources.read _ _ _ _ one, ih sources.tail tail⟩

theorem read_each {record : Record} (sources : Sources P record.members) {cursor after : Cursor}
    {slots : Slots record.members} (read : record.read cursor = .ok (slots, after)) :
    Each P record.members slots := by
  unfold Record.read at read
  simp only at read
  split at read
  · exact readFields_each sources (eachFound_none _) read
  · split at read
    · cases read
    · rename_i items
      obtain ⟨last, _, same⟩ := ok_of_map read
      cases same
      exact readItemsInOrder_each sources items
  · cases read

theorem parse_each {record : Record} (sources : Sources P record.members) {text : String}
    {slots : Slots record.members} (parsed : record.parse text = .ok slots) :
    Each P record.members slots := by
  unfold parse at parsed
  split at parsed
  · cases parsed
  · rename_i read
    obtain ⟨_, _, rfl⟩ := ok_of_map parsed
    exact read_each sources read

end Record
end SpringSkeleton.Json
