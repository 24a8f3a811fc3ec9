import Mathlib.Data.List.TakeWhile
import SpringSkeleton.Proofs.Name.Delimiters

namespace SpringSkeleton

namespace Text

theorem trim_eq_empty_iff {text : String} : trim text = "" ↔ isBlankText text = true := by
  have none : trim text = "" ↔ trimChars text.toList = [] := by
    rw [trim, ← String.toList_inj, String.toList_ofList]
    rfl
  rw [none, isBlankText, List.all_eq_true, trimChars, trimEnd, List.reverse_eq_nil_iff,
    List.dropWhile_eq_nil_iff]
  constructor
  · intro blank
    cases started : trimStart text.toList with
    | nil => exact List.dropWhile_eq_nil_iff.mp started
    | cons c rest =>
      have solid := head_trimStart text.toList c (by rw [started]; rfl)
      rw [blank c (by simp [started])] at solid
      cases solid
  · intro blank c member
    exact blank c ((List.dropWhile_sublist _).subset (List.mem_reverse.mp member))

end Text

namespace Name

variable {name result role text given : String}

-- A reserved word is told apart by an underscore.
def escaped (name : String) : String := if isReserved name then name ++ "_" else name

theorem escapeField_ok_iff :
    escapeField name = .ok result ↔ isIdentifier name = true ∧ result = escaped name := by
  unfold escapeField escaped
  cases isIdentifier name with
  | false => simp
  | true => simpa using eq_comm

-- Only one reserved word ends in an underscore, and it has nothing before it.
theorem eq_underscore_of_reserved : ∀ word ∈ reservedWords, word.toList.getLast? = some '_' → word = "_" := by
  decide +kernel

theorem isReserved_escaped (name : String) : isReserved (escaped name) = false := by
  unfold escaped
  split
  · rename_i reserved
    cases again : isReserved (name ++ "_") with
    | false => rfl
    | true =>
      have alone := eq_underscore_of_reserved _ (List.contains_iff_mem.mp again) (by simp)
      have chars := congrArg String.toList alone
      rw [String.toList_append] at chars
      obtain rfl : name = "" := String.toList_eq_nil_iff.mp (List.append_left_eq_self.mp chars)
      cases reserved
  · rename_i free
    exact eq_false_of_ne_true free

theorem escaped_of_free (free : isReserved name = false) : escaped name = name := by
  simp [escaped, free]

theorem trim_escaped (trimmed : Text.trim name = name) : Text.trim (escaped name) = escaped name := by
  unfold escaped
  split
  · rename_i reserved
    have solid : ∀ word ∈ reservedWords, Text.trim (word ++ "_") = word ++ "_" := by
      decide +kernel
    exact solid name (List.contains_iff_mem.mp reserved)
  · exact trimmed

-- An accepted field name is accepted again, as it is.
theorem escapeField_again (accepted : escapeField name = .ok result) : escapeField result = .ok result := by
  have checked := isIdentifier_of_escapeField accepted
  obtain ⟨_, rfl⟩ := escapeField_ok_iff.mp accepted
  exact escapeField_ok_iff.mpr ⟨checked, (escaped_of_free (isReserved_escaped name)).symm⟩

theorem checkFragment_ok_iff :
    checkFragment role text = .ok () ↔ Text.trim text ≠ "" ∧ Undelimited text := by
  rw [Ne, Text.trim_eq_empty_iff]
  constructor
  · intro accepted
    refine ⟨?_, undelimited_of_checkFragment accepted⟩
    intro blank
    rw [checkFragment, blank] at accepted
    cases accepted
  · rintro ⟨solid, free⟩
    have none : text.toList.find? isDelimiter = none :=
      List.find?_eq_none.mpr fun c member => by simp [free c member]
    rw [checkFragment, if_neg solid, none]

-- A method as it is declared: without the blanks around it, and without one semicolon at its end.
def signature (given : String) : String :=
  let trimmed := (Text.trim given).toList
  String.ofList (Text.trimEnd ((trimmed.dropSuffix? [';']).getD trimmed))

theorem getD_dropSuffix? (chars : List Char) (c : Char) : (chars.dropSuffix? [c]).getD chars =
    if chars.getLast? = some c then chars.dropLast else chars := by
  cases found : chars.dropSuffix? [c] with
  | some rest =>
    obtain ⟨ending, rfl, same⟩ := List.dropSuffix?_eq_some_iff.mp found
    obtain rfl : ending = [c] := eq_of_beq same
    simp
  | none =>
    have open_ : chars.getLast? ≠ some c := by
      intro last
      obtain ⟨rest, rfl⟩ := List.getLast?_eq_some_iff.mp last
      rw [List.dropSuffix?_eq_some_iff.mpr ⟨[c], rfl, by simp⟩] at found
      cases found
    simp [open_]

theorem ofList_signatureChars (given : String) :
    String.ofList (signatureChars given.toList) = signature given := by
  simp only [signature, signatureChars, Text.trim, String.toList_ofList, getD_dropSuffix?]

theorem trim_signature (given : String) : Text.trim (signature given) = signature given := by
  have front : ∀ c, (((Text.trim given).toList.dropSuffix? [';']).getD (Text.trim given).toList).head? =
      some c → Text.isBlank c = false := by
    intro c first
    rw [getD_dropSuffix?] at first
    refine Text.head_trimChars given.toList c ?_
    rw [Text.trim, String.toList_ofList] at first
    split at first
    · obtain ⟨rest, whole⟩ := List.dropLast_prefix (Text.trimChars given.toList)
      rw [← whole, List.head?_append, first]
      rfl
    · exact first
  refine Text.trim_eq_self (fun c first => ?_) fun c last => ?_
  · exact Text.head_trimEnd front c (by simpa [signature] using first)
  · exact Text.last_trimEnd _ c (by simpa [signature] using last)

-- The blanks are gone before the text is looked at, so it is empty if it is blank.
theorem normalizeSignature_ok_iff : normalizeSignature given = .ok text ↔
    text = signature given ∧ text ≠ "" ∧ Undelimited text := by
  have checked : checkFragment "repository method" (signature given) = .ok () ↔
      signature given ≠ "" ∧ Undelimited (signature given) := by
    rw [checkFragment_ok_iff, trim_signature]
  rw [normalizeSignature, ofList_signatureChars]
  cases outcome : checkFragment "repository method" (signature given) with
  | ok _ =>
    obtain ⟨filled, free⟩ := checked.mp outcome
    simp only [Except.ok.injEq]
    exact ⟨fun same => same ▸ ⟨rfl, filled, free⟩, fun parts => parts.1.symm⟩
  | error problem =>
    simp only [reduceCtorEq, false_iff]
    rintro ⟨rfl, parts⟩
    rw [checked.mpr parts] at outcome
    cases outcome

-- A normal signature has no semicolon left that could be dropped from it.
theorem normalizeSignature_again (normal : normalizeSignature given = .ok text) :
    normalizeSignature text = .ok text := by
  obtain ⟨rfl, filled, free⟩ := normalizeSignature_ok_iff.mp normal
  refine normalizeSignature_ok_iff.mpr ⟨?_, filled, free⟩
  have open_ : (signature given).toList.getLast? ≠ some ';' := fun last =>
    absurd (free ';' (List.mem_of_getLast? last)) (by decide)
  have ending : Text.trimEnd (signature given).toList = (signature given).toList :=
    Text.trimEnd_eq_self fun c last => Text.last_trimEnd _ c (by simpa [signature] using last)
  conv_rhs => rw [signature]
  simp only [trim_signature, getD_dropSuffix?, if_neg open_, ending, String.ofList_toList]

end Name
end SpringSkeleton
