import Mathlib.Data.List.Sort
import Mathlib.Data.List.TakeWhile
import SpringSkeleton.Java.Word
import SpringSkeleton.Name.Basic
import SpringSkeleton.Proofs.Text.Casing

namespace SpringSkeleton.Java
open Text

-- Every range of an ascending list lies within a range of another one. Both lists are gone through
-- once, so the check stays short for long tables.
def covers : CodeRanges → CodeRanges → Bool
  | [], inner => inner.isEmpty
  | range :: outer, inner =>
    covers outer (inner.dropWhile fun part => Nat.ble range.1 part.1 && Nat.ble part.2 range.2)

theorem covers_mem {outer inner : CodeRanges} (covered : covers outer inner = true) {part : Nat × Nat}
    (member : part ∈ inner) : ∃ range ∈ outer, range.1 ≤ part.1 ∧ part.2 ≤ range.2 := by
  induction outer generalizing inner with
  | nil =>
    rw [covers, List.isEmpty_iff] at covered
    rw [covered] at member
    cases member
  | cons range others ih =>
    have parted := List.takeWhile_append_dropWhile
      (p := fun part : Nat × Nat => Nat.ble range.1 part.1 && Nat.ble part.2 range.2) (l := inner)
    rw [← parted] at member
    rcases List.mem_append.mp member with here | later
    · have inside := List.mem_takeWhile_imp here
      simp only [Bool.and_eq_true, Nat.ble_eq] at inside
      exact ⟨range, List.mem_cons_self, inside⟩
    · obtain ⟨found, among, inside⟩ := ih covered later
      exact ⟨found, List.mem_cons_of_mem _ among, inside⟩

theorem covers_contains {outer inner : CodeRanges} (covered : covers outer inner = true) {c : Char}
    (member : inner.contains c = true) : outer.contains c = true := by
  obtain ⟨part, among, low, high⟩ := CodeRanges.contains_iff.mp member
  obtain ⟨range, found, lower, higher⟩ := covers_mem covered among
  exact CodeRanges.contains_iff.mpr ⟨range, found, Nat.le_trans lower low, Nat.le_trans high higher⟩

-- Letters in circles are letters to those who check names, but no characters of words.
def circled : CaseRun := ⟨9398, 9423, 1, 26⟩

def images (runs : List CaseRun) : CodeRanges :=
  (runs.map fun run => (run.image run.first, run.image run.last)).insertionSort
    fun one two => one.1 ≤ two.1

-- Whether every code point of a range is one of a character.
def scalar (range : Nat × Nat) : Bool :=
  Nat.blt range.2 55296 || (Nat.blt 57343 range.1 && Nat.blt range.2 1114112)

-- What the tables of characters say, gone through range by range: of one another, of the basic alphabet,
-- of the letters that stand for others in lower case, and of what parts paths and names.
class Tables : Prop where
  parts : covers wordPart wordStart = true
  lowered : covers wordStart (images (lowerRuns.filter (· ≠ circled))) = true
  scalars : wordStart.all (fun range => Nat.blt range.2 55296 ||
    (Nat.blt 57343 range.1 && Nat.blt range.2 1114112)) = true
  apart : wordPart.all (fun range => Nat.blt range.2 circled.first || Nat.blt circled.last range.1) = true
  letters : alphabetic.all (fun range => Nat.ble 128 range.1 || range == (65, 90) || range == (97, 122)) = true
  digits : numeric.all (fun range => Nat.ble 128 range.1 || range == (48, 57)) = true
  dotted : isWordStart (Char.ofNat 105) = true ∧ isWordPart (Char.ofNat 775) = true
  sigmas : isWordStart 'σ' = true ∧ isWordStart 'ς' = true
  slash : isWordStart '/' = false ∧ isWordPart '/' = false
  dot : isWordStart '.' = false

instance tables : Tables := by
  constructor <;> decide +kernel

theorem isWordPart_of_start {c : Char} (start : isWordStart c = true) : isWordPart c = true := by
  simp only [isWordStart, Bool.or_eq_true] at start
  simp only [isWordPart, Bool.or_eq_true]
  rcases start with (letter | line) | dollar
  · exact .inl (.inl (.inl (covers_contains tables.parts letter)))
  · exact .inl (.inl (.inr line))
  · exact .inl (.inr dollar)

theorem CaseRun.image_within {run : CaseRun} {code : Nat} (covered : run.covers code = true) :
    run.first ≤ code ∧ code ≤ run.last ∧ run.image run.first ≤ run.image code ∧
      run.image code ≤ run.image run.last := by
  simp only [CaseRun.covers, Bool.and_eq_true, decide_eq_true_eq] at covered
  obtain ⟨⟨low, high⟩, _⟩ := covered
  refine ⟨low, high, ?_, ?_⟩ <;> unfold CaseRun.image <;> omega

theorem toNat_ofNat_scalar {range : Nat × Nat} (valid : scalar range = true) {code : Nat}
    (low : range.1 ≤ code) (high : code ≤ range.2) : (Char.ofNat code).toNat = code := by
  simp only [scalar, Bool.or_eq_true, Bool.and_eq_true, Nat.blt_eq] at valid
  have isChar : code.isValidChar := by
    unfold Nat.isValidChar
    omega
  rw [Char.ofNat, dif_pos isChar]
  rfl

-- A run whose ends lead into one range of a table leads into the table.
theorem contains_image {table : CodeRanges} (scalars : table.all scalar = true) {runs : List CaseRun}
    (inside : covers table (images runs) = true) {run : CaseRun} (member : run ∈ runs) {code : Nat}
    (covered : run.covers code = true) : table.contains (Char.ofNat (run.image code)) = true := by
  obtain ⟨_, _, low, high⟩ := CaseRun.image_within covered
  have listed : (run.image run.first, run.image run.last) ∈ images runs := by
    rw [images, List.mem_insertionSort]
    exact List.mem_map_of_mem member
  obtain ⟨range, among, lower, higher⟩ := covers_mem inside listed
  have least := Nat.le_trans lower low
  have most := Nat.le_trans high higher
  refine CodeRanges.contains_iff.mpr ⟨range, among, ?_⟩
  rw [toNat_ofNat_scalar (List.all_eq_true.mp scalars range among) least most]
  exact ⟨least, most⟩

-- A run that is not the one of circled letters leads to a letter.
theorem isWordStart_image {run : CaseRun} (member : run ∈ lowerRuns) (other : run ≠ circled) {code : Nat}
    (covered : run.covers code = true) : isWordStart (Char.ofNat (run.image code)) = true := by
  have among : run ∈ lowerRuns.filter (· ≠ circled) := List.mem_filter.mpr ⟨member, by simpa using other⟩
  have letter := contains_image tables.scalars tables.lowered among covered
  simp [isWordStart, letter]

theorem isWordPart_circled {c : Char} (covered : circled.covers c.toNat = true) : isWordPart c = false := by
  obtain ⟨low, high, _⟩ := CaseRun.image_within covered
  have code (d : Char) (basic : d.toNat < circled.first) : (c == d) = false := by
    rw [beq_eq_false_iff_ne]
    rintro rfl
    omega
  have letter : wordPart.contains c = false := by
    refine Bool.eq_false_iff.mpr fun found => ?_
    obtain ⟨range, member, lower, higher⟩ := CodeRanges.contains_iff.mp found
    have beside := List.all_eq_true.mp tables.apart range member
    simp only [Bool.or_eq_true, Nat.blt_eq] at beside
    omega
  rw [isWordPart, letter, code '_' (by decide), code '$' (by decide), code '¢' (by decide)]
  rfl

theorem lowerChar_cases (c : Char) : lowerChar c = [c] ∨
    (∃ d more, lowerChar c = d :: more ∧ isWordStart d = true ∧ ∀ e ∈ more, isWordPart e = true) ∨
    (isWordPart c = false ∧ ∃ d, lowerChar c = [d] ∧ 128 ≤ d.toNat) := by
  unfold lowerChar mapCase
  cases expanded : lowerExpansions.lookup c.toNat with
  | some codes =>
    have entry : codes = [105, 775] := by
      obtain ⟨front, back, parted, _⟩ := List.lookup_eq_some_iff.mp expanded
      have listed : (c.toNat, codes) ∈ lowerExpansions := by simp [parted]
      exact (Prod.mk.inj (List.mem_singleton.mp listed)).2
    subst entry
    obtain ⟨start, part⟩ := tables.dotted
    exact .inr (.inl ⟨_, _, rfl, start, List.forall_mem_singleton.mpr part⟩)
  | none =>
    simp only [runImage?]
    cases found : lowerRuns.find? (·.covers c.toNat) with
    | none => exact .inl rfl
    | some run =>
      have covered : run.covers c.toNat = true := by simpa using List.find?_some found
      by_cases same : run = circled
      · subst same
        obtain ⟨low, high, _⟩ := CaseRun.image_within covered
        refine .inr (.inr ⟨isWordPart_circled covered, _, rfl, ?_⟩)
        have valid : (circled.image c.toNat).isValidChar := by
          simp only [Nat.isValidChar, CaseRun.image, circled] at low high ⊢
          omega
        rw [Char.ofNat, dif_pos valid]
        show 128 ≤ circled.image c.toNat
        simp only [CaseRun.image, circled] at low ⊢
        omega
      · have start := isWordStart_image (List.mem_of_find?_eq_some found) same covered
        exact .inr (.inl ⟨_, [], rfl, start, List.forall_mem_nil _⟩)

section Lowered

theorem lowerAfter_each {P : Char → Prop} (sigma : P 'σ') (final : P 'ς')
    (each : ∀ c, P c → ∀ d ∈ lowerChar c, P d) {before cs : List Char} (all : ∀ c ∈ cs, P c) :
    ∀ d ∈ lowerAfter before cs, P d := by
  intro d member
  rcases mem_lowerAfter member with rfl | rfl | ⟨c, among, image⟩
  · exact sigma
  · exact final
  · exact each c (all c among) d image

theorem lowerAfter_head {P : Char → Prop} (sigma : P 'σ') (final : P 'ς')
    (each : ∀ c, P c → ∃ d more, lowerChar c = d :: more ∧ P d) {c : Char} {rest : List Char}
    (first : P c) : ∃ d more, lowerAfter [] (c :: rest) = d :: more ∧ P d := by
  unfold lowerAfter
  split
  · split
    · exact ⟨_, _, rfl, final⟩
    · exact ⟨_, _, rfl, sigma⟩
  · obtain ⟨d, more, image, found⟩ := each c first
    rw [image]
    exact ⟨d, more ++ lowerAfter [c] rest, rfl, found⟩

theorem lowerChar_part {c : Char} (part : isWordPart c = true) :
    ∀ d ∈ lowerChar c, isWordPart d = true := by
  intro d member
  rcases lowerChar_cases c with same | ⟨first, more, image, start, others⟩ | ⟨other, _⟩
  · rw [same, List.mem_singleton] at member
    exact member ▸ part
  · rw [image, List.mem_cons] at member
    rcases member with rfl | later
    · exact isWordPart_of_start start
    · exact others d later
  · rw [part] at other
    cases other

theorem lowerChar_start {c : Char} (start : isWordStart c = true) :
    ∃ d more, lowerChar c = d :: more ∧ isWordStart d = true := by
  rcases lowerChar_cases c with same | ⟨first, more, image, found, _⟩ | ⟨other, _⟩
  · exact ⟨c, [], same, start⟩
  · exact ⟨first, more, image, found⟩
  · rw [isWordPart_of_start start] at other
    cases other

theorem lowercase_toList (text : String) : (lowercase text).toList = lowerAfter [] text.toList :=
  String.toList_ofList

theorem isWordChars_iff {cs : List Char} : isWordChars cs = true ↔
    ∃ c rest, cs = c :: rest ∧ isWordStart c = true ∧ ∀ d ∈ cs, isWordPart d = true := by
  cases cs with
  | nil => simp [isWordChars]
  | cons c rest =>
    simp only [isWordChars, Bool.and_eq_true, List.all_eq_true, List.forall_mem_cons]
    constructor
    · exact fun ⟨start, parts⟩ => ⟨c, rest, rfl, start, isWordPart_of_start start, parts⟩
    · rintro ⟨_, _, same, start, _, parts⟩
      cases same
      exact ⟨start, parts⟩

theorem isWord_lowercase {text : String} (valid : isWord text = true) : isWord (lowercase text) = true := by
  obtain ⟨c, rest, chars, start, parts⟩ := isWordChars_iff.mp valid
  obtain ⟨sigma, final⟩ := tables.sigmas
  rw [chars] at parts
  have all : ∀ d ∈ lowerAfter [] (c :: rest), isWordPart d = true :=
    lowerAfter_each (isWordPart_of_start sigma) (isWordPart_of_start final) (fun _ => lowerChar_part) parts
  obtain ⟨d, more, lowered, first⟩ : ∃ d more, lowerAfter [] (c :: rest) = d :: more ∧ isWordStart d = true :=
    lowerAfter_head sigma final (fun _ => lowerChar_start) start
  rw [isWord, lowercase_toList, chars]
  exact isWordChars_iff.mpr ⟨d, more, lowered, first, all⟩

end Lowered

-- Names as they are checked. Outside the basic alphabet any character may be a letter.
section Checked

def BeginsName (c : Char) : Prop := isWordStart c = true ∨ 128 ≤ c.toNat

def InName (c : Char) : Prop := isWordPart c = true ∨ 128 ≤ c.toNat

def LikeName (text : String) : Prop :=
  ∃ c rest, text.toList = c :: rest ∧ BeginsName c ∧ ∀ d ∈ c :: rest, InName d

theorem BeginsName.inName {c : Char} (begins : BeginsName c) : InName c := begins.imp_left isWordPart_of_start

theorem beginsName_of_isNameStart {c : Char} (checked : Name.isNameStart c = true) : BeginsName c := by
  simp only [Name.isNameStart, Bool.or_eq_true, beq_iff_eq] at checked
  rcases checked with (letter | rfl) | rfl
  · obtain ⟨range, member, low, high⟩ := CodeRanges.contains_iff.mp letter
    have kind := List.all_eq_true.mp tables.letters range member
    simp only [Bool.or_eq_true, Nat.ble_eq, beq_iff_eq] at kind
    have starts (found : range ∈ wordStart) : BeginsName c := by
      have start : wordStart.contains c = true := CodeRanges.contains_iff.mpr ⟨range, found, low, high⟩
      exact .inl (by simp [isWordStart, start])
    rcases kind with (above | rfl) | rfl
    · exact .inr (Nat.le_trans above low)
    · exact starts (.head _)
    · exact starts (.tail _ (.head _))
  · exact .inl (by simp [isWordStart])
  · exact .inl (by simp [isWordStart])

theorem inName_of_isNamePart {c : Char} (checked : Name.isNamePart c = true) : InName c := by
  simp only [Name.isNamePart, Bool.or_eq_true] at checked
  rcases checked with start | digit
  · exact (beginsName_of_isNameStart start).inName
  · obtain ⟨range, member, low, high⟩ := CodeRanges.contains_iff.mp digit
    have kind := List.all_eq_true.mp tables.digits range member
    simp only [Bool.or_eq_true, Nat.ble_eq, beq_iff_eq] at kind
    rcases kind with above | rfl
    · exact .inr (Nat.le_trans above low)
    · have part : wordPart.contains c = true :=
        CodeRanges.contains_iff.mpr ⟨(48, 57), .head _, low, high⟩
      exact .inl (by simp [isWordPart, part])

theorem likeName_of_isIdentifier {text : String} (checked : Name.isIdentifier text = true) :
    LikeName text := by
  unfold Name.isIdentifier at checked
  cases chars : text.toList with
  | nil => simp [chars, Name.isIdentifierChars] at checked
  | cons c rest =>
    simp only [chars, Name.isIdentifierChars, Bool.and_eq_true, List.all_eq_true] at checked
    have first := beginsName_of_isNameStart checked.1
    exact ⟨c, rest, chars, first, List.forall_mem_cons.mpr
      ⟨first.inName, fun d member => inName_of_isNamePart (checked.2 d member)⟩⟩

theorem lowerChar_inName {c : Char} (inside : InName c) : ∀ d ∈ lowerChar c, InName d := by
  intro d member
  rcases lowerChar_cases c with same | ⟨first, more, image, start, others⟩ | ⟨_, only, image, above⟩
  · rw [same, List.mem_singleton] at member
    exact member ▸ inside
  · rw [image, List.mem_cons] at member
    rcases member with rfl | later
    · exact .inl (isWordPart_of_start start)
    · exact .inl (others d later)
  · rw [image, List.mem_singleton] at member
    exact .inr (member ▸ above)

theorem lowerChar_beginsName {c : Char} (begins : BeginsName c) :
    ∃ d more, lowerChar c = d :: more ∧ BeginsName d := by
  rcases lowerChar_cases c with same | ⟨first, more, image, start, _⟩ | ⟨_, only, image, above⟩
  · exact ⟨c, [], same, begins⟩
  · exact ⟨first, more, image, .inl start⟩
  · exact ⟨only, [], image, .inr above⟩

theorem LikeName.lowercase {text : String} (like : LikeName text) : LikeName (lowercase text) := by
  obtain ⟨c, rest, chars, begins, inside⟩ := like
  have sigma : BeginsName 'σ' := .inl tables.sigmas.1
  have final : BeginsName 'ς' := .inl tables.sigmas.2
  have all : ∀ d ∈ lowerAfter [] (c :: rest), InName d :=
    lowerAfter_each sigma.inName final.inName (fun _ => lowerChar_inName) inside
  obtain ⟨d, more, lowered, first⟩ : ∃ d more, lowerAfter [] (c :: rest) = d :: more ∧ BeginsName d :=
    lowerAfter_head sigma final (fun _ => lowerChar_beginsName) begins
  rw [LikeName, lowercase_toList, chars, lowered]
  rw [lowered] at all
  exact ⟨d, more, rfl, first, all⟩

end Checked

end SpringSkeleton.Java
