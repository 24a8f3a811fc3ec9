namespace SpringSkeleton

abbrev Location := List String

namespace Location

-- A place comes before what lies below it, and siblings come in the order of their names.
def before : Location → Location → Bool
  | _, [] => false
  | [], _ :: _ => true
  | a :: as, b :: bs => if a = b then before as bs else decide (a < b)

-- What lies below a place, relative to it; the place itself is the empty location.
def below? : Location → Location → Option Location
  | [], location => some location
  | _ :: _, [] => none
  | a :: as, b :: bs => if a = b then below? as bs else none

theorem before_irrefl (a : Location) : before a a = false := by
  induction a with
  | nil => rfl
  | cons x xs ih => simp [before, ih]

theorem before_trans {a b c : Location} (ab : before a b = true) (bc : before b c = true) :
    before a c = true := by
  induction a generalizing b c with
  | nil =>
    cases c with
    | nil => cases b <;> simp [before] at bc
    | cons z zs => rfl
  | cons x xs ih =>
    cases b with
    | nil => simp [before] at ab
    | cons y ys =>
      cases c with
      | nil => simp [before] at bc
      | cons z zs =>
        simp only [before] at ab bc ⊢
        by_cases xy : x = y
        · subst xy
          by_cases xz : x = z
          · subst xz
            simp only [if_true] at ab bc ⊢
            exact ih ab bc
          · simpa [xz] using bc
        · by_cases yz : y = z
          · subst yz
            simpa [xy] using ab
          · simp only [xy, yz, if_false, decide_eq_true_eq] at ab bc
            have xz : x < z := String.lt_trans ab bc
            have ne : x ≠ z := fun same => String.lt_irrefl z (same ▸ xz)
            simpa [ne] using xz

theorem before_total {a b : Location} (ne : a ≠ b) : before a b = true ∨ before b a = true := by
  induction a generalizing b with
  | nil =>
    cases b with
    | nil => exact absurd rfl ne
    | cons y ys => exact .inl rfl
  | cons x xs ih =>
    cases b with
    | nil => exact .inr rfl
    | cons y ys =>
      by_cases xy : x = y
      · subst xy
        have tails : xs ≠ ys := fun same => ne (by rw [same])
        simpa [before] using ih tails
      · have yx : y ≠ x := fun same => xy same.symm
        simp only [before, xy, yx, if_false, decide_eq_true_eq]
        rcases Decidable.em (x < y) with less | notLess
        · exact .inl less
        · rcases Decidable.em (y < x) with more | notMore
          · exact .inr more
          · exact absurd (String.le_antisymm (String.not_lt.mp notMore) (String.not_lt.mp notLess)) xy

theorem below?_eq_some {base location rest : Location} :
    below? base location = some rest ↔ location = base ++ rest := by
  induction base generalizing location with
  | nil => simp [below?]
  | cons b bs ih =>
    cases location with
    | nil => simp [below?]
    | cons l ls =>
      by_cases same : b = l
      · simp [below?, same, ih]
      · have other : l ≠ b := fun h => same h.symm
        simp [below?, same, other]

end Location
end SpringSkeleton
