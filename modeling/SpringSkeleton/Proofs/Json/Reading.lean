import SpringSkeleton.Proofs.Json.Record
import SpringSkeleton.Proofs.Keyed

namespace SpringSkeleton.Json

-- A reader that meets these characters gives the value back and stops right behind them.
def Recovers {α : Type} (read : Cursor → Read α) (written : List Char) (value : α) : Prop :=
  ∀ cursor rest, cursor.rest = written ++ rest → ∃ after, read cursor = .ok (value, after) ∧ after.rest = rest

namespace Cursor

theorem pastSpace_of_head {cursor : Cursor} {c : Char} {rest : List Char} (chars : cursor.rest = c :: rest)
    (ink : isSpace c = false) : cursor.pastSpace = cursor := by
  rw [pastSpace, chars, skipSpaces, ink]
  rfl

theorem rest_pastBytes {cs rest : List Char} (single : ∀ c ∈ cs, c.utf8Size = 1) {cursor : Cursor}
    (chars : cursor.rest = cs ++ rest) : (pastBytes cs.length (cs ++ rest) cursor).rest = rest := by
  induction cs generalizing cursor with
  | nil =>
    cases rest with
    | nil => exact chars
    | cons c rest => exact chars
  | cons c cs ih =>
    obtain ⟨one, others⟩ := List.forall_mem_cons.mp single
    have step : pastBytes (c :: cs).length (c :: cs ++ rest) cursor =
        pastBytes cs.length (cs ++ rest) cursor.next := by
      rw [List.cons_append, pastBytes]
      simp [one]
    rw [step]
    exact ih others (rest_next chars)

theorem expect_ok {word rest : List Char} {cursor : Cursor} (chars : cursor.rest = word ++ rest) :
    ∃ after, cursor.expect word = .ok after ∧ after.rest = rest := by
  induction word generalizing cursor with
  | nil => exact ⟨cursor, rfl, chars⟩
  | cons c word ih =>
    obtain ⟨after, read, left⟩ := ih (rest_next chars)
    refine ⟨after, ?_, left⟩
    rw [expect, chars]
    simpa using read

end Cursor

section Text

-- The three ways in which a character is written.
theorem escapedChar_cases (c : Char) :
    (∃ mark, escapedChar c = ['\\', mark] ∧ mark ≠ 'u' ∧ plainEscape? mark = some c) ∨
    (c.toNat < 32 ∧ escapedChar c =
      ['\\', 'u', '0', '0', Nat.digitChar (c.toNat / 16), Nat.digitChar (c.toNat % 16)]) ∨
    (escapedChar c = [c] ∧ 32 ≤ c.toNat ∧ c ≠ '"' ∧ c ≠ '\\') := by
  unfold escapedChar
  split
  · exact .inl ⟨'"', rfl, by decide, rfl⟩
  · exact .inl ⟨'\\', rfl, by decide, rfl⟩
  · exact .inl ⟨'n', rfl, by decide, rfl⟩
  · exact .inl ⟨'r', rfl, by decide, rfl⟩
  · exact .inl ⟨'t', rfl, by decide, rfl⟩
  · exact .inl ⟨'b', rfl, by decide, rfl⟩
  · exact .inl ⟨'f', rfl, by decide, rfl⟩
  · rename_i quote backslash _ _ _ _ _
    split
    · rename_i control
      exact .inr (.inl ⟨control, rfl⟩)
    · rename_i visible
      exact .inr (.inr ⟨rfl, Nat.le_of_not_lt visible, quote, backslash⟩)

theorem hexNumber?_control : ∀ n < 32,
    hexNumber? ['0', '0', Nat.digitChar (n / 16), Nat.digitChar (n % 16)] 0 = some n := by decide

theorem utf8Size_digitChar : ∀ n < 16, (Nat.digitChar n).utf8Size = 1 := by decide

theorem readCodePoint_control {c : Char} (control : c.toNat < 32) : Recovers readCodePoint
    ['0', '0', Nat.digitChar (c.toNat / 16), Nat.digitChar (c.toNat % 16)] c := by
  intro cursor rest chars
  have single : ∀ digit ∈ ['0', '0', Nat.digitChar (c.toNat / 16), Nat.digitChar (c.toNat % 16)],
      digit.utf8Size = 1 := by
    simp only [List.forall_mem_cons, List.not_mem_nil, false_implies, implies_true, and_true]
    exact ⟨by decide, by decide, utf8Size_digitChar _ (by omega), utf8Size_digitChar _ (by omega)⟩
  have length : utf8Length
      ['0', '0', Nat.digitChar (c.toNat / 16), Nat.digitChar (c.toNat % 16)] = 4 := by
    obtain ⟨first, second, third, fourth, _⟩ := by simpa only [List.forall_mem_cons] using single
    simp [utf8Length, first, third, fourth]
  have unit : readUnit cursor = .ok (c.toNat, Cursor.pastBytes 4 cursor.rest cursor) := by
    have four : cursor.rest.take 4 =
        ['0', '0', Nat.digitChar (c.toNat / 16), Nat.digitChar (c.toNat % 16)] := by
      rw [chars]
      rfl
    rw [readUnit, four, length, hexNumber?_control _ control]
    rfl
  refine ⟨Cursor.pastBytes 4 cursor.rest cursor, ?_, ?_⟩
  · have single : isTrailing c.toNat = false ∧ isLeading c.toNat = false := by
      simp [isTrailing, isLeading]
      omega
    rw [readCodePoint, unit]
    simp [single, Char.ofNat_toNat]
  · rw [chars]
    exact Cursor.rest_pastBytes single chars

theorem readTextUpTo_written {cs rest : List Char} {bound : Nat} {cursor : Cursor}
    (chars : cursor.rest = cs.flatMap escapedChar ++ '"' :: rest) (enough : cs.length < bound) :
    ∃ after, readTextUpTo bound cursor = .ok (cs, after) ∧ after.rest = rest := by
  induction cs generalizing bound cursor with
  | nil =>
    obtain ⟨bound, rfl⟩ : ∃ less, bound = less + 1 := ⟨bound - 1, by omega⟩
    have quote : cursor.rest = '"' :: rest := chars
    refine ⟨cursor.next, ?_, Cursor.rest_next quote⟩
    rw [readTextUpTo, quote]
    rfl
  | cons c cs ih =>
    obtain ⟨bound, rfl⟩ : ∃ less, bound = less + 1 := ⟨bound - 1, by omega⟩
    have shorter : cs.length < bound := Nat.lt_of_succ_lt_succ enough
    rw [List.flatMap_cons, List.append_assoc] at chars
    rcases escapedChar_cases c with ⟨mark, escape, other, meant⟩ | ⟨control, escape⟩ |
      ⟨plain, visible, quote, backslash⟩
    · rw [escape] at chars
      have marked := Cursor.rest_next chars
      obtain ⟨after, read, left⟩ := ih (Cursor.rest_next marked) shorter
      have one : readEscape cursor.next = .ok (c, cursor.next.next) := by
        unfold readEscape
        rw [marked]
        simp [meant]
      refine ⟨after, ?_, left⟩
      rw [readTextUpTo, chars]
      simp [one, read]
    · rw [escape] at chars
      have marked := Cursor.rest_next chars
      obtain ⟨behind, point, digits⟩ := readCodePoint_control control _ _ (Cursor.rest_next marked)
      obtain ⟨after, read, left⟩ := ih digits shorter
      have one : readEscape cursor.next = .ok (c, behind) := by
        unfold readEscape
        rw [marked]
        exact point
      refine ⟨after, ?_, left⟩
      rw [readTextUpTo, chars]
      simp [one, read]
    · rw [plain] at chars
      obtain ⟨after, read, left⟩ := ih (Cursor.rest_next chars) shorter
      have first : ¬c.toNat < 32 := Nat.not_lt.mpr visible
      refine ⟨after, ?_, left⟩
      unfold readTextUpTo
      rw [chars]
      simp [first, read]

theorem length_flatMap_escaped (cs : List Char) : cs.length ≤ (cs.flatMap escapedChar).length := by
  induction cs with
  | nil => exact Nat.le_refl _
  | cons c cs ih =>
    have one : 1 ≤ (escapedChar c).length := by
      rcases escapedChar_cases c with ⟨_, chars, _⟩ | ⟨_, chars⟩ | ⟨chars, _⟩ <;> simp [chars]
    rw [List.flatMap_cons, List.length_append, List.length_cons]
    omega

-- From behind the opening quote.
theorem readText_written (s : String) : Recovers readText (s.toList.flatMap escapedChar ++ ['"']) s := by
  intro cursor rest chars
  rw [List.append_assoc] at chars
  have enough : s.toList.length < cursor.rest.length + 1 := by
    have escaped := length_flatMap_escaped s.toList
    rw [chars, List.length_append]
    omega
  obtain ⟨after, read, left⟩ := readTextUpTo_written chars enough
  refine ⟨after, ?_, left⟩
  rw [readText, read]
  simp

theorem readTextValue_written (s : String) : Recovers readTextValue (writtenText s) s := by
  intro cursor rest chars
  have quote : cursor.rest = '"' :: ((s.toList.flatMap escapedChar ++ ['"']) ++ rest) := chars
  obtain ⟨after, read, left⟩ := readText_written s _ _ (Cursor.rest_next quote)
  refine ⟨after, ?_, left⟩
  rw [readTextValue, Cursor.pastSpace_of_head quote (by decide), quote]
  exact read

end Text

-- Parts as they stand in a list, each behind a comma but the first.
def listed (first : Bool) : List (List Char) → List Char
  | [] => []
  | part :: parts => (if first then part else ',' :: part) ++ listed false parts

theorem listed_true (parts : List (List Char)) : listed true parts = commaSeparated parts := by
  induction parts with
  | nil => rfl
  | cons part parts ih =>
    cases parts with
    | nil => exact List.append_nil part
    | cons next more =>
      rw [commaSeparated, ← ih]
      · rfl
      · exact List.cons_ne_nil next more

theorem length_listed {parts : List (List Char)} (filled : ∀ part ∈ parts, part ≠ []) (first : Bool) :
    parts.length ≤ (listed first parts).length := by
  induction parts generalizing first with
  | nil => exact Nat.le_refl _
  | cons part parts ih =>
    obtain ⟨some, others⟩ := List.forall_mem_cons.mp filled
    have one : 1 ≤ part.length := List.length_pos_iff.mpr some
    have rest := ih others false
    cases first <;> simp only [listed, List.length_append, List.length_cons, if_true, if_false,
      Bool.false_eq_true] <;> omega

-- A value begins with a character that is no blank and closes no list.
def Opens (written : List Char) : Prop := ∃ c rest, written = c :: rest ∧ Cursor.isSpace c = false ∧ c ≠ ']'

theorem Opens.ne_nil {written : List Char} (opens : Opens written) : written ≠ [] := by
  obtain ⟨c, rest, rfl, _⟩ := opens
  exact List.cons_ne_nil c rest

section List

variable {α : Type} {item : Cursor → Read α} {write : α → List Char} {values : List α}
  (each : ∀ value ∈ values, Recovers item (write value) value ∧ Opens (write value))

include each

theorem readItems_written {bound : Nat} (enough : values.length < bound) {first : Bool} {cursor : Cursor}
    {rest : List Char} (chars : cursor.rest = listed first (values.map write) ++ ']' :: rest) :
    ∃ after, readItems item bound first cursor = .ok (values, after) ∧ after.rest = ']' :: rest := by
  induction values generalizing bound first cursor with
  | nil =>
    obtain ⟨bound, rfl⟩ : ∃ less, bound = less + 1 := ⟨bound - 1, by omega⟩
    have bracket : cursor.rest = ']' :: rest := chars
    refine ⟨cursor, ?_, bracket⟩
    rw [readItems, Cursor.pastSpace_of_head bracket (by decide), bracket]
    rfl
  | cons value values ih =>
    obtain ⟨bound, rfl⟩ : ∃ less, bound = less + 1 := ⟨bound - 1, by omega⟩
    obtain ⟨⟨recovers, c, more, shape, ink, open_⟩, others⟩ := List.forall_mem_cons.mp each
    have shorter : values.length < bound := Nat.lt_of_succ_lt_succ enough
    rw [List.map_cons, listed, List.append_assoc] at chars
    cases first with
    | true =>
      rw [if_pos rfl] at chars
      obtain ⟨behind, read, left⟩ := recovers cursor _ chars
      obtain ⟨after, all, last⟩ := ih others shorter left
      rw [shape, List.cons_append] at chars
      refine ⟨after, ?_, last⟩
      rw [readItems, Cursor.pastSpace_of_head chars ink, chars]
      simp [read, all]
    | false =>
      rw [if_neg Bool.false_ne_true, List.cons_append] at chars
      have begins := Cursor.rest_next chars
      obtain ⟨behind, read, left⟩ := recovers cursor.next _ begins
      obtain ⟨after, all, last⟩ := ih others shorter left
      rw [shape, List.cons_append] at begins
      have passed : pastListComma cursor.next = .ok cursor.next := by
        rw [pastListComma, Cursor.pastSpace_of_head begins ink, begins]
        split
        · rename_i nothing
          cases nothing
        · rename_i close
          exact absurd (List.cons.inj close).1 open_
        · rfl
      refine ⟨after, ?_, last⟩
      rw [readItems, Cursor.pastSpace_of_head chars (by decide), chars]
      simp [passed, Except.map, read, all]

-- From behind the opening bracket.
theorem readList_written : Recovers (readList item) (commaSeparated (values.map write) ++ [']']) values := by
  intro cursor rest chars
  rw [List.append_assoc, ← listed_true] at chars
  have enough : values.length < cursor.rest.length + 1 := by
    have filled : ∀ part ∈ values.map write, part ≠ [] :=
      List.forall_mem_map.mpr fun value member => (each value member).2.ne_nil
    have parts := length_listed filled true
    rw [List.length_map] at parts
    rw [chars, List.length_append]
    omega
  obtain ⟨after, read, left⟩ := readItems_written each enough chars
  have closed : closeList after = .ok after.next := by
    rw [closeList, Cursor.pastSpace_of_head left (by decide), left]
    rfl
  refine ⟨after.next, ?_, Cursor.rest_next left⟩
  rw [readList, read]
  simp [closed]

theorem readListOf_written :
    Recovers (readListOf item) ('[' :: commaSeparated (values.map write) ++ [']']) values := by
  intro cursor rest chars
  have bracket : cursor.rest = '[' :: ((commaSeparated (values.map write) ++ [']']) ++ rest) := chars
  obtain ⟨after, read, left⟩ := readList_written each _ _ (Cursor.rest_next bracket)
  refine ⟨after, ?_, left⟩
  rw [readListOf, Cursor.pastSpace_of_head bracket (by decide), bracket]
  exact read

end List

-- A member with its key.
def memberChars {α : Type} (write : α → List Char) (member : String × α) : List Char :=
  writtenText member.1 ++ ':' :: write member.2

theorem memberChars_ne_nil {α : Type} (write : α → List Char) (member : String × α) :
    memberChars write member ≠ [] := by
  simp [memberChars, writtenText]

theorem readKey_written {first : Bool} {key : String} {cursor : Cursor} {rest : List Char}
    (chars : cursor.rest = (if first then writtenText key else ',' :: writtenText key) ++ rest) :
    ∃ after, readKey first cursor = .ok (some key, after) ∧ after.rest = rest := by
  have quoted : writtenText key = '"' :: (key.toList.flatMap escapedChar ++ ['"']) := rfl
  cases first with
  | true =>
    rw [if_pos rfl, quoted, List.cons_append] at chars
    obtain ⟨after, read, left⟩ := readText_written key _ _ (Cursor.rest_next chars)
    refine ⟨after, ?_, left⟩
    rw [readKey, Cursor.pastSpace_of_head chars (by decide), chars]
    simp [read]
  | false =>
    rw [if_neg Bool.false_ne_true, quoted, List.cons_append, List.cons_append] at chars
    have quote := Cursor.rest_next chars
    obtain ⟨after, read, left⟩ := readText_written key _ _ (Cursor.rest_next quote)
    refine ⟨after, ?_, left⟩
    rw [readKey, Cursor.pastSpace_of_head chars (by decide), chars]
    simp [Cursor.pastSpace_of_head quote (by decide), quote, read]

theorem readKey_close {first : Bool} {cursor : Cursor} {rest : List Char}
    (chars : cursor.rest = '\x7d' :: rest) : readKey first cursor = .ok (none, cursor) := by
  rw [readKey, Cursor.pastSpace_of_head chars (by decide), chars]
  rfl

theorem pastColon_written {cursor : Cursor} {rest : List Char} (chars : cursor.rest = ':' :: rest) :
    pastColon cursor = .ok cursor.next := by
  rw [pastColon, Cursor.pastSpace_of_head chars (by decide), chars]
  rfl

section Object

variable {α : Type} {value : Cursor → Read α} {write : α → List Char} {members : List (String × α)}
  (each : ∀ member ∈ members, Recovers value (write member.2) member.2)

include each

theorem readMembers_written {bound : Nat} (enough : members.length < bound) {first : Bool}
    {cursor : Cursor} {rest : List Char}
    (chars : cursor.rest = listed first (members.map (memberChars write)) ++ '\x7d' :: rest) :
    ∃ after, readMembers value bound first cursor = .ok (members, after) ∧
      after.rest = '\x7d' :: rest := by
  induction members generalizing bound first cursor with
  | nil =>
    obtain ⟨bound, rfl⟩ : ∃ less, bound = less + 1 := ⟨bound - 1, by omega⟩
    have brace : cursor.rest = '\x7d' :: rest := chars
    refine ⟨cursor, ?_, brace⟩
    rw [readMembers, readKey_close brace]
  | cons member members ih =>
    obtain ⟨bound, rfl⟩ : ∃ less, bound = less + 1 := ⟨bound - 1, by omega⟩
    obtain ⟨recovers, others⟩ := List.forall_mem_cons.mp each
    have keyed : cursor.rest = (if first then writtenText member.1 else ',' :: writtenText member.1) ++
        (':' :: (write member.2 ++ (listed false (members.map (memberChars write)) ++
          '\x7d' :: rest))) := by
      rw [chars]
      cases first <;> simp [listed, memberChars]
    obtain ⟨colon, key, colonChars⟩ := readKey_written keyed
    obtain ⟨behind, read, left⟩ := recovers colon.next _ (Cursor.rest_next colonChars)
    obtain ⟨after, all, last⟩ := ih others (Nat.lt_of_succ_lt_succ enough) left
    refine ⟨after, ?_, last⟩
    rw [readMembers, key]
    simp [pastColon_written colonChars, read, all]

theorem readMapOf_written (ascending : Keyed.Ascending members) : Recovers (readMapOf value)
    ('\x7b' :: commaSeparated (members.map (memberChars write)) ++ ['\x7d']) members := by
  intro cursor rest chars
  have brace : cursor.rest =
      '\x7b' :: (listed true (members.map (memberChars write)) ++ '\x7d' :: rest) := by
    rw [chars, listed_true]
    simp
  have inner := Cursor.rest_next brace
  have enough : members.length < cursor.next.rest.length + 1 := by
    have filled : ∀ part ∈ members.map (memberChars write), part ≠ [] :=
      List.forall_mem_map.mpr fun member _ => memberChars_ne_nil write member
    have parts := length_listed filled true
    rw [List.length_map] at parts
    rw [inner, List.length_append]
    omega
  obtain ⟨after, read, left⟩ := readMembers_written each enough inner
  refine ⟨after.next, ?_, Cursor.rest_next left⟩
  rw [readMapOf, Cursor.pastSpace_of_head brace (by decide), brace]
  simp [readObject, read, Except.map, ascending.ofList_eq]

end Object

section Optional

variable {α : Type} {value : Cursor → Read α}

theorem readOptional_null : Recovers (readOptional value) "null".toList none := by
  intro cursor rest chars
  have first : cursor.rest = 'n' :: ("ull".toList ++ rest) := chars
  obtain ⟨after, read, left⟩ := Cursor.expect_ok (Cursor.rest_next first)
  refine ⟨after, ?_, left⟩
  rw [readOptional, Cursor.pastSpace_of_head first (by decide), first]
  simp only [read]
  rfl

theorem readOptional_some {written : List Char} {found : α} (recovers : Recovers value written found)
    {c : Char} {more : List Char} (shape : written = c :: more) (ink : Cursor.isSpace c = false)
    (other : c ≠ 'n') : Recovers (readOptional value) written (some found) := by
  intro cursor rest chars
  obtain ⟨after, read, left⟩ := recovers cursor rest chars
  rw [shape, List.cons_append] at chars
  refine ⟨after, ?_, left⟩
  rw [readOptional, Cursor.pastSpace_of_head chars ink, chars]
  split
  · rename_i null
    exact absurd (List.cons.inj null).1 other
  · rw [read]
    rfl

end Optional
end SpringSkeleton.Json
