import Mathlib.Data.List.Basic
import SpringSkeleton.Text.Case

namespace SpringSkeleton.Text

-- Characters that part paths, packages, words, statements and lines, or open or close a block or a list
-- of parameters.
def separators : List Char := ['/', '.', ' ', ';', '(', ')', '\x7b', '\x7d', '\n', '\r']

-- No run moves a code point onto the one of a separator.
def runsAvoid (runs : List CaseRun) : Bool :=
  runs.all fun run => separators.all fun c => !run.covers (c.toNat - run.offset).toNat

-- No expansion is empty or holds the code point of a separator.
def expansionsAvoid (expansions : List (Nat × List Nat)) : Bool :=
  expansions.all fun entry =>
    entry.2 ≠ [] && entry.2.all fun code => separators.all fun c => code != c.toNat

theorem upper_avoid : runsAvoid upperRuns = true ∧ expansionsAvoid upperExpansions = true := by
  decide +kernel

theorem lower_avoid : runsAvoid lowerRuns = true ∧ expansionsAvoid lowerExpansions = true := by
  decide +kernel

-- A code that is none of a character gives the null character, which is no separator.
theorem code_of_separator {code : Nat} (member : Char.ofNat code ∈ separators) :
    (Char.ofNat code).toNat = code := by
  by_cases valid : code.isValidChar
  · rw [Char.ofNat, dif_pos valid]
    rfl
  · have null : Char.ofNat code = '\x00' := by
      rw [Char.ofNat, dif_neg valid]
      rfl
    rw [null] at member
    exact absurd member (by decide)

variable {runs : List CaseRun} {expansions : List (Nat × List Nat)} {c d : Char}

theorem mem_mapCase_separator (runsClean : runsAvoid runs = true)
    (expansionsClean : expansionsAvoid expansions = true) (separator : d ∈ separators)
    (member : d ∈ mapCase runs expansions c) : d = c := by
  unfold mapCase at member
  cases found : expansions.lookup c.toNat with
  | some codes =>
    simp only [found] at member
    obtain ⟨code, inside, rfl⟩ := List.mem_map.mp member
    obtain ⟨front, back, parted, _⟩ := List.lookup_eq_some_iff.mp found
    have listed : (c.toNat, codes) ∈ expansions := by simp [parted]
    simp only [expansionsAvoid, List.all_eq_true, Bool.and_eq_true] at expansionsClean
    have other := (expansionsClean _ listed).2 code inside _ separator
    rw [code_of_separator separator] at other
    simp at other
  | none =>
    simp only [found, runImage?] at member
    cases covered : runs.find? (·.covers c.toNat) with
    | none => simpa [covered] using member
    | some run =>
      simp only [covered, Option.map_some, List.mem_singleton] at member
      subst member
      have covers : run.covers c.toNat = true := by simpa using List.find?_some covered
      have code := code_of_separator separator
      simp only [runsAvoid, List.all_eq_true] at runsClean
      have clean := runsClean run (List.mem_of_find?_eq_some covered) _ separator
      have positive : separators.all (fun c => 0 < c.toNat) = true := by decide
      have same : ((Char.ofNat (run.image c.toNat)).toNat - run.offset).toNat = c.toNat := by
        have moved : 0 < (Char.ofNat (run.image c.toNat)).toNat := by
          simpa using List.all_eq_true.mp positive _ separator
        rw [code] at moved ⊢
        unfold CaseRun.image at moved ⊢
        omega
      rw [same, covers] at clean
      cases clean

theorem mapCase_ne_nil (expansionsClean : expansionsAvoid expansions = true) :
    mapCase runs expansions c ≠ [] := by
  unfold mapCase
  cases found : expansions.lookup c.toNat with
  | some codes =>
    obtain ⟨front, back, parted, _⟩ := List.lookup_eq_some_iff.mp found
    have listed : (c.toNat, codes) ∈ expansions := by simp [parted]
    simp only [expansionsAvoid, List.all_eq_true, Bool.and_eq_true] at expansionsClean
    have some : codes ≠ [] := by simpa using (expansionsClean _ listed).1
    simpa using some
  | none => cases runImage? runs c.toNat <;> simp

theorem mem_upperChars_separator {cs : List Char} (separator : d ∈ separators)
    (member : d ∈ upperChars cs) : d ∈ cs := by
  obtain ⟨c, inside, image⟩ := List.mem_flatMap.mp member
  exact mem_mapCase_separator upper_avoid.1 upper_avoid.2 separator image ▸ inside

-- Each character of a lower case stands for one of the text.
theorem mem_lowerAfter {before cs : List Char} (member : d ∈ lowerAfter before cs) :
    d = 'σ' ∨ d = 'ς' ∨ ∃ c ∈ cs, d ∈ lowerChar c := by
  induction cs generalizing before with
  | nil => cases member
  | cons c rest ih =>
    rcases List.mem_append.mp member with image | later
    · split at image
      · split at image
        · exact .inr (.inl (List.mem_singleton.mp image))
        · exact .inl (List.mem_singleton.mp image)
      · exact .inr (.inr ⟨c, List.mem_cons_self, image⟩)
    · exact (ih later).imp_right fun found =>
        found.imp_right fun ⟨e, among, image⟩ => ⟨e, List.mem_cons_of_mem _ among, image⟩

theorem mem_lowerAfter_separator {before cs : List Char} (separator : d ∈ separators)
    (member : d ∈ lowerAfter before cs) : d ∈ cs := by
  rcases mem_lowerAfter member with rfl | rfl | ⟨c, among, image⟩
  · exact absurd separator (by decide)
  · exact absurd separator (by decide)
  · exact mem_mapCase_separator lower_avoid.1 lower_avoid.2 separator image ▸ among

theorem mem_uppercase_separator {s : String} (separator : d ∈ separators)
    (member : d ∈ (uppercase s).toList) : d ∈ s.toList := by
  rw [uppercase, String.toList_ofList] at member
  exact mem_upperChars_separator separator member

theorem mem_lowercase_separator {s : String} (separator : d ∈ separators)
    (member : d ∈ (lowercase s).toList) : d ∈ s.toList := by
  rw [lowercase, String.toList_ofList] at member
  exact mem_lowerAfter_separator separator member

theorem mem_capitalize_separator {s : String} (separator : d ∈ separators)
    (member : d ∈ (capitalize s).toList) : d ∈ s.toList := by
  unfold capitalize at member
  cases chars : s.toList with
  | nil => simp [chars] at member
  | cons c rest =>
    simp only [chars, String.toList_ofList] at member
    rcases List.mem_append.mp member with first | later
    · rw [mem_mapCase_separator upper_avoid.1 upper_avoid.2 separator first]
      exact List.mem_cons_self
    · exact List.mem_cons_of_mem _ later

theorem lowercase_chars {s : String} {c : Char} {rest : List Char} (chars : s.toList = c :: rest) :
    ∃ d more, (lowercase s).toList = d :: more := by
  cases lowered : (lowercase s).toList with
  | cons d more => exact ⟨d, more, rfl⟩
  | nil =>
    rw [lowercase, String.toList_ofList, chars] at lowered
    have image := (List.append_eq_nil_iff.mp lowered).1
    split at image
    · split at image <;> cases image
    · exact absurd image (mapCase_ne_nil lower_avoid.2)

end SpringSkeleton.Text
