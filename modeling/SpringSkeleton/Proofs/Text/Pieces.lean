import SpringSkeleton.Text.Pieces

namespace SpringSkeleton.Text
variable {separator : Char}

theorem cut_append (before after : List Char) :
    cut separator (before ++ separator :: after) = cut separator before ++ cut separator after := by
  induction before with
  | nil => simp [cut]
  | cons c rest ih =>
    by_cases same : c = separator
    · simp [cut, same, ih]
    · cases pieces : cut separator rest with
      | nil => exact absurd pieces (cut_ne_nil separator rest)
      | cons piece more => simp [cut, same, ih, pieces]

theorem cut_of_not_mem {cs : List Char} (absent : separator ∉ cs) : cut separator cs = [cs] := by
  induction cs with
  | nil => rfl
  | cons c rest ih =>
    have other : c ≠ separator := fun same => absent (by simp [same])
    have tail : separator ∉ rest := fun member => absent (List.mem_cons_of_mem _ member)
    simp [cut, other, ih tail]

theorem not_mem_of_mem_cut {cs piece : List Char} (member : piece ∈ cut separator cs) :
    separator ∉ piece := by
  induction cs generalizing piece with
  | nil =>
    rw [List.mem_singleton.mp member]
    exact List.not_mem_nil
  | cons c rest ih =>
    unfold cut at member
    split at member
    · rcases List.mem_cons.mp member with rfl | later
      · exact List.not_mem_nil
      · exact ih later
    · rename_i different
      split at member
      · rename_i none
        exact absurd none (cut_ne_nil separator rest)
      · rename_i first more found
        rcases List.mem_cons.mp member with rfl | later
        · have tail : separator ∉ first := ih (by rw [found]; exact List.mem_cons_self)
          intro found
          rcases List.mem_cons.mp found with same | later
          · exact different same.symm
          · exact tail later
        · exact ih (by rw [found]; exact List.mem_cons_of_mem _ later)

theorem cut_glue {parts : List (List Char)} (some : parts ≠ [])
    (clean : ∀ part ∈ parts, separator ∉ part) : cut separator (glue separator parts) = parts := by
  induction parts with
  | nil => exact absurd rfl some
  | cons part rest ih =>
    have first := cut_of_not_mem (clean part List.mem_cons_self)
    cases rest with
    | nil => simpa [glue] using first
    | cons next more =>
      have tail := ih (by simp) fun other member => clean other (List.mem_cons_of_mem _ member)
      rw [glue, cut_append, first, tail]
      · rfl
      · simp

theorem mem_glue {c : Char} (other : c ≠ separator) {parts : List (List Char)} :
    c ∈ glue separator parts ↔ ∃ part ∈ parts, c ∈ part := by
  induction parts with
  | nil => simp [glue]
  | cons part rest ih =>
    cases rest with
    | nil => simp [glue]
    | cons next more => simp [glue, other, ih]

theorem pieces_of_cut {s before after : String}
    (parted : s.toList = before.toList ++ separator :: after.toList) :
    pieces separator s = pieces separator before ++ pieces separator after := by
  simp [pieces, parted, cut_append]

theorem pieces_of_not_mem {s : String} (absent : separator ∉ s.toList) : pieces separator s = [s] := by
  simp [pieces, cut_of_not_mem absent]

theorem pieces_ne_nil (s : String) : pieces separator s ≠ [] := by
  simp [pieces, cut_ne_nil]

theorem not_mem_of_mem_pieces {s piece : String} (member : piece ∈ pieces separator s) :
    separator ∉ piece.toList := by
  obtain ⟨chars, found, rfl⟩ := List.mem_map.mp member
  simpa using not_mem_of_mem_cut found

theorem pieces_joined {parts : List String} (some : parts ≠ [])
    (clean : ∀ part ∈ parts, separator ∉ part.toList) :
    pieces separator (joined separator parts) = parts := by
  have parted : cut separator (glue separator (parts.map String.toList)) = parts.map String.toList :=
    cut_glue (by simpa using some) (by simpa using clean)
  have texts : parts.map (String.ofList ∘ String.toList) = parts := by simp
  rw [joined, pieces, String.toList_ofList, parted, List.map_map, texts]

theorem joined_pieces (s : String) : joined separator (pieces separator s) = s := by
  have chars : (pieces separator s).map String.toList = cut separator s.toList := by
    simp [pieces, Function.comp_def]
  rw [joined, chars, glue_cut, String.ofList_toList]

theorem mem_joined {c : Char} (other : c ≠ separator) {parts : List String} :
    c ∈ (joined separator parts).toList ↔ ∃ part ∈ parts, c ∈ part.toList := by
  rw [joined, String.toList_ofList, mem_glue other]
  constructor
  · rintro ⟨chars, member, inside⟩
    obtain ⟨part, among, rfl⟩ := List.mem_map.mp member
    exact ⟨part, among, inside⟩
  · rintro ⟨part, among, inside⟩
    exact ⟨part.toList, List.mem_map_of_mem among, inside⟩

theorem joined_cons (part next : String) (more : List String) :
    (joined separator (part :: next :: more)).toList =
      part.toList ++ separator :: (joined separator (next :: more)).toList := by
  simp [joined, glue]

-- Neither ending ends with the other one.
def EndingsApart (first second : String) : Prop :=
  ¬ first.toList <:+ second.toList ∧ ¬ second.toList <:+ first.toList

instance (first second : String) : Decidable (EndingsApart first second) :=
  inferInstanceAs (Decidable (_ ∧ _))

theorem endings_meet {first second s : String} (one : first.toList <:+ s.toList)
    (two : second.toList <:+ s.toList) : ¬ EndingsApart first second := by
  rintro ⟨notFirst, notSecond⟩
  rcases List.suffix_or_suffix_of_suffix one two with within | within
  · exact notFirst within
  · exact notSecond within

theorem endsWith_iff {ending s : String} : endsWith ending s = true ↔ ending.toList <:+ s.toList := by
  simp [endsWith]

theorem endsWith_append_iff {ending s : String} (rest : String) :
    endsWith (ending ++ rest) (s ++ rest) = true ↔ endsWith ending s = true := by
  rw [endsWith_iff, endsWith_iff, String.toList_append, String.toList_append]
  constructor
  · rintro ⟨front, whole⟩
    rw [← List.append_assoc] at whole
    exact ⟨front, List.append_cancel_right whole⟩
  · rintro ⟨front, whole⟩
    exact ⟨front, by rw [← List.append_assoc, whole]⟩

end SpringSkeleton.Text
