import SpringSkeleton.Proofs.Java.Casing
import SpringSkeleton.Proofs.Name.Delimiters

namespace SpringSkeleton.Name
open Text Java

-- Letters that become a capital and a mark. They are given by their codes, as some of them look like
-- others that have the mark apart.
def marked : List Nat :=
  [496, 912, 944, 7830, 7831, 7832, 7833, 8016, 8018, 8020, 8022, 8118, 8119, 8134, 8135, 8146, 8147,
   8150, 8151, 8162, 8163, 8164, 8166, 8167, 8182, 8183]

-- The capital with a dot becomes a small letter and the dot.
def dotted : Char := Char.ofNat 304

-- The capitals of small upsilons with a rough breathing stand apart from each other in the tables.
def rough : CaseRun := ⟨8017, 8023, 2, 8⟩

class Letters : Prop where
  scalars : alphabetic.all scalar = true
  lowered : covers alphabetic (images lowerRuns) = true
  raised : covers alphabetic (images (upperRuns.filter (· ≠ rough))) = true
  apart : [8025, 8027, 8029, 8031].all (fun code => alphabetic.contains (Char.ofNat code)) = true
  dots : isNameStart (Char.ofNat 105) = true ∧ isNamePart (Char.ofNat 775) = false
  sigmas : isNameStart 'σ' = true ∧ isNameStart 'ς' = true
  marks : upperExpansions.all (fun entry =>
    (entry.2.all fun code => isNamePart (Char.ofNat code)) == !marked.contains entry.1) = true
  listed : marked.all (fun code => (upperExpansions.lookup code).isSome) = true

variable {c : Char} {text ending : String}

theorem isNameStart_of_letter (letter : alphabetic.contains c = true) : isNameStart c = true := by
  simp [isNameStart, letter]

theorem isNamePart_of_start (start : isNameStart c = true) : isNamePart c = true := by
  simp [isNamePart, start]

section Expansions

-- Ranges of letters, and the range of marks: all that the expansions of capitals are made of.
def capitals : CodeRanges :=
  [(65, 90), (700, 702), (902, 902), (904, 906), (910, 929), (931, 937), (1333, 1362), (7944, 7951),
   (7976, 7983), (8040, 8047), (8122, 8122), (8138, 8138), (8186, 8186)]

def accents : Nat × Nat := (768, 834)

theorem isNamePart_capital (capital : capitals.contains c = true) : isNamePart c = true := by
  have letters : covers alphabetic capitals = true := by decide +kernel
  exact isNamePart_of_start (isNameStart_of_letter (covers_contains letters capital))

theorem isNamePart_accent (accent : CodeRanges.contains [accents] c = true) : isNamePart c = false := by
  have beside : (alphabetic ++ numeric).all (fun range =>
      Nat.blt range.2 accents.1 || Nat.blt accents.2 range.1) = true := by decide +kernel
  obtain ⟨_, member, low, high⟩ := CodeRanges.contains_iff.mp accent
  obtain rfl := List.mem_singleton.mp member
  have outside (table : CodeRanges) (among : table ⊆ alphabetic ++ numeric) : table.contains c = false := by
    refine Bool.eq_false_iff.mpr fun found => ?_
    obtain ⟨range, listed, lower, higher⟩ := CodeRanges.contains_iff.mp found
    have apart := List.all_eq_true.mp beside range (among listed)
    simp only [Bool.or_eq_true, Nat.blt_eq] at apart
    omega
  have code (d : Char) (basic : d.toNat < accents.1) : (c == d) = false := by
    rw [beq_eq_false_iff_ne]
    rintro rfl
    omega
  rw [isNamePart, isNameStart, outside alphabetic (List.subset_append_left _ _),
    outside numeric (List.subset_append_right _ _), code '_' (by decide), code '$' (by decide)]
  rfl

theorem expansions_marked : upperExpansions.all (fun entry =>
    (entry.2.all fun code => isNamePart (Char.ofNat code)) == !marked.contains entry.1) = true := by
  have kinds : upperExpansions.all (fun entry => (entry.2.all fun code =>
      capitals.contains (Char.ofNat code) || CodeRanges.contains [accents] (Char.ofNat code)) &&
      ((entry.2.all fun code => capitals.contains (Char.ofNat code)) == !marked.contains entry.1)) = true := by
    decide +kernel
  refine List.all_eq_true.mpr fun entry member => ?_
  have kind := List.all_eq_true.mp kinds entry member
  rw [Bool.and_eq_true] at kind
  obtain ⟨each, same⟩ := kind
  have parts : ∀ code ∈ entry.2, isNamePart (Char.ofNat code) = capitals.contains (Char.ofNat code) := by
    intro code inside
    cases capital : capitals.contains (Char.ofNat code) with
    | true => exact isNamePart_capital capital
    | false =>
      have either := List.all_eq_true.mp each code inside
      rw [capital, Bool.false_or] at either
      exact isNamePart_accent either
  have whole : (entry.2.all fun code => isNamePart (Char.ofNat code)) =
      entry.2.all fun code => capitals.contains (Char.ofNat code) := by
    rw [Bool.eq_iff_iff, List.all_eq_true, List.all_eq_true]
    exact forall₂_congr fun code inside => by rw [parts code inside]
  rw [whole]
  exact same

end Expansions

instance letters : Letters where
  scalars := by decide +kernel
  lowered := by decide +kernel
  raised := by decide +kernel
  apart := by decide +kernel
  dots := ⟨by decide, isNamePart_accent (by decide)⟩
  sigmas := by decide +kernel
  marks := expansions_marked
  listed := by decide +kernel

section Lower

theorem lowerChar_dotted : lowerChar dotted = [Char.ofNat 105, Char.ofNat 775] := rfl

-- Any other letter becomes one letter.
theorem lowerChar_names (other : c ≠ dotted) :
    lowerChar c = [c] ∨ ∃ d, lowerChar c = [d] ∧ isNameStart d = true := by
  unfold lowerChar mapCase
  cases expanded : lowerExpansions.lookup c.toNat with
  | some codes =>
    obtain ⟨front, back, parted, _⟩ := List.lookup_eq_some_iff.mp expanded
    have listed : (c.toNat, codes) ∈ lowerExpansions := by simp [parted]
    have code : c.toNat = 304 := (Prod.mk.inj (List.mem_singleton.mp listed)).1
    exact absurd (by rw [dotted, ← code, Char.ofNat_toNat]) other
  | none =>
    simp only [runImage?]
    cases found : lowerRuns.find? (·.covers c.toNat) with
    | none => exact .inl rfl
    | some run =>
      have covered : run.covers c.toNat = true := by simpa using List.find?_some found
      have member := List.mem_of_find?_eq_some found
      have letter := contains_image letters.scalars letters.lowered member covered
      exact .inr ⟨_, rfl, isNameStart_of_letter letter⟩

theorem lowerChar_namePart (other : c ≠ dotted) (part : isNamePart c = true) :
    ∀ d ∈ lowerChar c, isNamePart d = true := by
  intro d member
  rcases lowerChar_names other with same | ⟨image, only, start⟩
  · rw [same, List.mem_singleton] at member
    exact member ▸ part
  · rw [only, List.mem_singleton] at member
    exact member ▸ isNamePart_of_start start

theorem lowerChar_nameStart (start : isNameStart c = true) :
    ∃ d more, lowerChar c = d :: more ∧ isNameStart d = true := by
  by_cases same : c = dotted
  · exact ⟨_, _, same ▸ lowerChar_dotted, letters.dots.1⟩
  · rcases lowerChar_names same with unchanged | ⟨image, only, first⟩
    · exact ⟨c, [], unchanged, start⟩
    · exact ⟨image, [], only, first⟩

theorem lowerAfter_mem {before cs : List Char} (member : c ∈ cs) (plain : c ≠ capitalSigma) :
    ∀ d ∈ lowerChar c, d ∈ lowerAfter before cs := by
  intro d image
  induction cs generalizing before with
  | nil => cases member
  | cons first rest ih =>
    unfold lowerAfter
    rcases List.mem_cons.mp member with rfl | later
    · rw [if_neg plain]
      exact List.mem_append_left _ image
    · exact List.mem_append_right _ (ih later)

end Lower

-- What the capital of a letter is made of.
theorem upperChar_names (part : isNamePart c = true) :
    (∀ d ∈ upperChar c, isNamePart d = true) ↔ c.toNat ∉ marked := by
  unfold upperChar mapCase
  cases expanded : upperExpansions.lookup c.toNat with
  | some codes =>
    obtain ⟨front, back, parted, _⟩ := List.lookup_eq_some_iff.mp expanded
    have listed : (c.toNat, codes) ∈ upperExpansions := by simp [parted]
    have agree := List.all_eq_true.mp letters.marks _ listed
    rw [beq_iff_eq, Bool.eq_iff_iff] at agree
    simpa using agree
  | none =>
    have free : c.toNat ∉ marked := by
      intro member
      have entry := List.all_eq_true.mp letters.listed _ member
      rw [expanded] at entry
      cases entry
    refine ⟨fun _ => free, fun _ d member => ?_⟩
    simp only [runImage?] at member
    cases found : upperRuns.find? (·.covers c.toNat) with
    | none =>
      simp only [found, Option.map_none, List.mem_singleton] at member
      exact member ▸ part
    | some run =>
      have covered : run.covers c.toNat = true := by simpa using List.find?_some found
      simp only [found, Option.map_some, List.mem_singleton] at member
      refine isNamePart_of_start (isNameStart_of_letter ?_)
      rw [member]
      by_cases same : run = rough
      · subst same
        have code : rough.image c.toNat ∈ [8025, 8027, 8029, 8031] := by
          simp only [CaseRun.covers, Bool.and_eq_true, decide_eq_true_eq, beq_iff_eq] at covered
          simp only [CaseRun.image, rough, List.mem_cons, List.not_mem_nil, or_false] at covered ⊢
          omega
        exact List.all_eq_true.mp letters.apart _ code
      · have among : run ∈ upperRuns.filter (· ≠ rough) :=
          List.mem_filter.mpr ⟨List.mem_of_find?_eq_some found, by simpa using same⟩
        exact contains_image letters.scalars letters.raised among covered

section Identifiers

theorem isIdentifier_iff : isIdentifier text = true ↔
    ∃ c rest, text.toList = c :: rest ∧ isNameStart c = true ∧ ∀ d ∈ rest, isNamePart d = true := by
  unfold isIdentifier
  cases text.toList with
  | nil => simp [isIdentifierChars]
  | cons c rest => simp [isIdentifierChars]

theorem isIdentifier_append_iff (checked : isIdentifier text = true) :
    isIdentifier (text ++ ending) = true ↔ ∀ d ∈ ending.toList, isNamePart d = true := by
  obtain ⟨c, rest, chars, start, parts⟩ := isIdentifier_iff.mp checked
  have whole : (text ++ ending).toList = c :: (rest ++ ending.toList) := by simp [chars]
  rw [isIdentifier_iff, whole]
  constructor
  · rintro ⟨_, _, same, _, others⟩ d member
    cases same
    exact others d (List.mem_append_right _ member)
  · intro others
    refine ⟨c, _, rfl, start, fun d member => ?_⟩
    rcases List.mem_append.mp member with before | after
    · exact parts d before
    · exact others d after

-- No reserved word has a capital letter.
theorem isReserved_capital (member : c ∈ text.toList) (capital : c.isUpper = true) :
    isReserved text = false := by
  have small : reservedWords.all (fun word => word.toList.all (!·.isUpper)) = true := by decide +kernel
  refine Bool.eq_false_iff.mpr fun reserved => ?_
  have found : text ∈ reservedWords := by simpa [isReserved] using reserved
  have free := List.all_eq_true.mp (List.all_eq_true.mp small text found) c member
  rw [capital] at free
  cases free

theorem isIdentifier_lowercase_iff (checked : isIdentifier text = true) :
    isIdentifier (lowercase text) = true ↔ dotted ∉ text.toList := by
  obtain ⟨sigma, final⟩ := letters.sigmas
  constructor
  · intro lowered member
    have dot : Char.ofNat 775 ∈ (lowercase text).toList := by
      rw [lowercase_toList]
      exact lowerAfter_mem member (by decide) _ (by simp [lowerChar_dotted])
    obtain ⟨_, _, _, parts⟩ := chars_of_isIdentifier lowered
    have part := parts _ dot
    rw [letters.dots.2] at part
    cases part
  · intro free
    obtain ⟨c, rest, chars, start, _⟩ := isIdentifier_iff.mp checked
    obtain ⟨_, _, _, parts⟩ := chars_of_isIdentifier checked
    obtain ⟨d, more, lowered, first⟩ : ∃ d more, lowerAfter [] (c :: rest) = d :: more ∧
        isNameStart d = true := lowerAfter_head sigma final (fun _ => lowerChar_nameStart) start
    refine isIdentifier_iff.mpr ⟨d, more, by rw [lowercase_toList, chars, lowered], first, ?_⟩
    intro e later
    have among : e ∈ lowerAfter [] text.toList := by
      rw [chars, lowered]
      exact List.mem_cons_of_mem _ later
    rcases mem_lowerAfter among with rfl | rfl | ⟨given, inside, image⟩
    · exact isNamePart_of_start sigma
    · exact isNamePart_of_start final
    · have other : given ≠ dotted := by
        rintro rfl
        exact free inside
      exact lowerChar_namePart other (parts given inside) e image

theorem isIdentifier_capitalize_iff {start : String} (before : isIdentifier start = true)
    (checked : isIdentifier text = true) : isIdentifier (start ++ capitalize text) = true ↔
      ∀ c, text.toList.head? = some c → c.toNat ∉ marked := by
  obtain ⟨c, rest, chars, first, others⟩ := isIdentifier_iff.mp checked
  have capital : (capitalize text).toList = upperChar c ++ rest := by
    simp only [capitalize, chars, String.toList_ofList]
  rw [isIdentifier_append_iff before, capital, chars]
  simp only [List.head?_cons, Option.some.injEq, forall_eq']
  rw [← upperChar_names (isNamePart_of_start first)]
  constructor
  · exact fun all d member => all d (List.mem_append_left _ member)
  · intro all d member
    rcases List.mem_append.mp member with image | later
    · exact all d image
    · exact others d later

end Identifiers

end SpringSkeleton.Name
