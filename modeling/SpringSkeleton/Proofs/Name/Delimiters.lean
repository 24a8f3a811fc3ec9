import SpringSkeleton.Proofs.Java.Casing
import SpringSkeleton.Proofs.Java.Scanning
import SpringSkeleton.Proofs.Name.Steps

namespace SpringSkeleton.Name

-- A text that cannot end a statement or a line, or open or close a block.
def Undelimited (text : String) : Prop := ∀ c ∈ text.toList, isDelimiter c = false

instance (text : String) : Decidable (Undelimited text) :=
  List.decidableBAll (fun c => isDelimiter c = false) text.toList

variable {text first second : String}

theorem Undelimited.append (one : Undelimited first) (two : Undelimited second) :
    Undelimited (first ++ second) := by
  intro c member
  rw [String.toList_append] at member
  rcases List.mem_append.mp member with inside | after
  · exact one c inside
  · exact two c after

theorem Undelimited.subset (one : Undelimited first) (inside : second.toList ⊆ first.toList) :
    Undelimited second := fun c member => one c (inside member)

theorem mem_separators {c : Char} (delimiter : isDelimiter c = true) : c ∈ Text.separators := by
  have listed : delimiters.all Text.separators.contains = true := by decide
  have member : c ∈ delimiters := by simpa [isDelimiter] using delimiter
  simpa using List.all_eq_true.mp listed c member

-- What brings no separators of its own brings no delimiters.
theorem Undelimited.of_separators (one : Undelimited first)
    (kept : ∀ c ∈ Text.separators, c ∈ second.toList → c ∈ first.toList) : Undelimited second := by
  intro c member
  by_contra delimiter
  have yes : isDelimiter c = true := by simpa using delimiter
  rw [one c (kept c (mem_separators yes) member)] at yes
  cases yes

theorem Undelimited.uppercase (one : Undelimited text) : Undelimited (Text.uppercase text) :=
  one.of_separators fun _ separator member => Text.mem_uppercase_separator separator member

theorem Undelimited.lowercase (one : Undelimited text) : Undelimited (Text.lowercase text) :=
  one.of_separators fun _ separator member => Text.mem_lowercase_separator separator member

theorem Undelimited.capitalize (one : Undelimited text) : Undelimited (Text.capitalize text) :=
  one.of_separators fun _ separator member => Text.mem_capitalize_separator separator member

theorem trim_subset (text : String) : (Text.trim text).toList ⊆ text.toList := by
  rw [Text.trim, String.toList_ofList, Text.trimChars, Text.trimEnd]
  intro c member
  have start : c ∈ Text.trimStart text.toList := by
    have reversed := (List.dropWhile_sublist _).subset (List.mem_reverse.mp member)
    exact List.mem_reverse.mp reversed
  exact (List.dropWhile_sublist _).subset start

theorem Undelimited.trim (one : Undelimited text) : Undelimited (Text.trim text) :=
  one.subset (trim_subset text)

-- No separator is part of a name.
theorem isNamePart_separators {c : Char} (separator : c ∈ Text.separators) : isNamePart c = false := by
  -- Separators belong to the basic alphabet, where only words have the characters of names.
  have other : ∀ d ∈ Text.separators, d ∈ Java.otherStarts ∧ d.toNat < 128 :=
    List.all_iff_forall_prop.mp (by decide)
  obtain ⟨starts, basic⟩ := other c separator
  refine Bool.eq_false_iff.mpr fun part => ?_
  rcases Java.inName_of_isNamePart part with word | above
  · rw [Java.isWordPart_other starts] at word
    cases word
  · omega

theorem not_mem_of_isIdentifier {c : Char} (checked : isIdentifier text = true)
    (separator : c ∈ Text.separators) : c ∉ text.toList := by
  obtain ⟨_, _, _, parts⟩ := chars_of_isIdentifier checked
  intro member
  have part := parts c member
  rw [isNamePart_separators separator] at part
  cases part

theorem undelimited_of_isIdentifier (checked : isIdentifier text = true) : Undelimited text := by
  intro c member
  by_contra delimiter
  exact not_mem_of_isIdentifier checked (mem_separators (by simpa using delimiter)) member

theorem undelimited_of_checkFragment {role : String} (checked : checkFragment role text = .ok ()) :
    Undelimited text := by
  unfold checkFragment at checked
  split at checked
  · cases checked
  · cases found : text.toList.find? isDelimiter with
    | some c => simp [found] at checked
    | none => exact fun c member => by simpa using List.find?_eq_none.mp found c member

theorem undelimited_of_escapeField {escaped : String} (checked : escapeField text = .ok escaped) :
    Undelimited escaped := by
  unfold escapeField at checked
  split at checked
  · cases checked
  · rename_i identifier
    have plain : Undelimited text := undelimited_of_isIdentifier (by simpa using identifier)
    split at checked
    · cases checked
      exact plain.append (by decide)
    · cases checked
      exact plain

theorem undelimited_of_normalizeSignature {signature : String}
    (checked : normalizeSignature signature = .ok text) : Undelimited text := by
  unfold normalizeSignature at checked
  simp only at checked
  split at checked
  · cases checked
  · rename_i fragment
    obtain rfl := Except.ok.inj checked
    exact undelimited_of_checkFragment fragment

-- The dots between pieces are no delimiters.
theorem undelimited_joined {parts : List String} (each : ∀ part ∈ parts, Undelimited part) :
    Undelimited (Text.joined '.' parts) := by
  intro c member
  by_cases dot : c = '.'
  · rw [dot]
    decide
  · obtain ⟨part, inside, within⟩ := (Text.mem_joined dot).mp member
    exact each part inside c within

theorem undelimited_of_checkPackage {package : String} (checked : checkPackage package = .ok ()) :
    Undelimited package := by
  have joined : Undelimited (Text.joined '.' (Text.pieces '.' package)) := by
    refine undelimited_joined fun piece member => ?_
    by_cases none : piece = ""
    · rw [none]
      decide
    · have some : piece ∈ (Text.pieces '.' package).filter (· ≠ "") :=
        List.mem_filter.mpr ⟨member, by simpa using none⟩
      exact undelimited_of_isIdentifier (isIdentifier_of_checkPackage checked some)
  rwa [Text.joined_pieces] at joined

theorem Undelimited.joinPackage (one : Undelimited first) (two : Undelimited second) :
    Undelimited (joinPackage first second) := by
  refine undelimited_joined fun part member => ?_
  have listed := (List.mem_filter.mp member).1
  rcases List.mem_pair.mp listed with rfl | rfl
  · exact one
  · exact two

end SpringSkeleton.Name
