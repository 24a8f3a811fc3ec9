import SpringSkeleton.Name.Basic
import SpringSkeleton.Proofs.Path.Components

namespace SpringSkeleton

namespace Path

theorem isName_of_head {name : String} {c : Char} {rest : List Char}
    (chars : name.toList = c :: rest) (dot : c ≠ '.') (whole : '/' ∉ name.toList) : IsName name := by
  have none : name ≠ "" := by
    rintro rfl
    simp at chars
  have here : name ≠ "." := by
    rintro rfl
    exact dot (List.cons.inj chars).1.symm
  have up : name ≠ ".." := by
    rintro rfl
    exact dot (List.cons.inj chars).1.symm
  exact ⟨by simp [isIdle, none, here], up, whole⟩

theorem foldl_join_parts (start : Path) {names : List String} (each : ∀ name ∈ names, IsName name) :
    (names.foldl (fun path piece => path.join ⟨piece⟩) start).steps = start.steps ++ names ∧
      (names.foldl (fun path piece => path.join ⟨piece⟩) start).isAbsolute = start.isAbsolute := by
  induction names generalizing start with
  | nil => exact ⟨(List.append_nil _).symm, rfl⟩
  | cons name rest ih =>
    have isName := each name List.mem_cons_self
    obtain ⟨steps, same⟩ := ih (start.join ⟨name⟩)
      fun other member => each other (List.mem_cons_of_mem _ member)
    rw [steps_join start isName.relative, isName.steps, List.append_assoc] at steps
    rw [isAbsolute_join start isName.relative] at same
    exact ⟨steps, same⟩

theorem ofPieces_parts {names : List String} (each : ∀ name ∈ names, IsName name) :
    (ofPieces names).steps = names ∧ (ofPieces names).isAbsolute = false := by
  obtain ⟨steps, same⟩ := foldl_join_parts ⟨""⟩ each
  rw [steps_empty, List.nil_append] at steps
  exact ⟨steps, same⟩

end Path

namespace Name

theorem chars_of_isIdentifier {name : String} (checked : isIdentifier name = true) :
    ∃ c rest, name.toList = c :: rest ∧ ∀ d ∈ name.toList, isNamePart d = true := by
  unfold isIdentifier isIdentifierChars at checked
  cases chars : name.toList with
  | nil => simp [chars] at checked
  | cons c rest =>
    simp only [chars, Bool.and_eq_true, List.all_eq_true] at checked
    refine ⟨c, rest, rfl, ?_⟩
    intro d member
    rcases List.mem_cons.mp member with first | later
    · simp [isNamePart, first, checked.1]
    · exact checked.2 d later

theorem isNamePart_slash : isNamePart '/' = false := by decide +kernel

theorem isNamePart_dot : isNamePart '.' = false := by decide +kernel

-- An ending such as that of a source file changes nothing about it.
theorem isName_append {name : String} (checked : isIdentifier name = true) {ending : String}
    (whole : '/' ∉ ending.toList) : Path.IsName (name ++ ending) := by
  obtain ⟨c, rest, chars, parts⟩ := chars_of_isIdentifier checked
  have first : (name ++ ending).toList = c :: (rest ++ ending.toList) := by simp [chars]
  have dot : c ≠ '.' := by
    rintro rfl
    have part := parts '.' (by simp [chars])
    rw [isNamePart_dot] at part
    cases part
  refine Path.isName_of_head first dot ?_
  rw [String.toList_append]
  intro slash
  rcases List.mem_append.mp slash with inside | after
  · have part := parts '/' inside
    rw [isNamePart_slash] at part
    cases part
  · exact whole after

theorem isName_of_isIdentifier {name : String} (checked : isIdentifier name = true) :
    Path.IsName name := by
  have whole : Path.IsName (name ++ "") := isName_append checked (by simp)
  rwa [String.append_empty] at whole

theorem isIdentifier_of_isFreeName {name : String} (free : isFreeName name = true) :
    isIdentifier name = true := by
  rw [isFreeName, Bool.and_eq_true] at free
  exact free.1

theorem checkTypeName_ok_iff {name : String} :
    checkTypeName name = .ok () ↔ isFreeName name = true := by
  unfold checkTypeName isFreeName
  cases isIdentifier name <;> cases isReserved name <;> simp

theorem isIdentifier_of_checkTypeName {name : String} (checked : checkTypeName name = .ok ()) :
    isIdentifier name = true := isIdentifier_of_isFreeName (checkTypeName_ok_iff.mp checked)

-- An underscore at the end of an identifier leaves it one.
theorem isIdentifier_of_escapeField {name escaped : String} (checked : escapeField name = .ok escaped) :
    isIdentifier escaped = true := by
  unfold escapeField at checked
  split at checked
  · cases checked
  · rename_i identifier
    have plain : isIdentifier name = true := by simpa using identifier
    split at checked
    · cases checked
      have part : isNamePart '_' = true := by simp [isNamePart, isNameStart]
      unfold isIdentifier at plain ⊢
      cases chars : name.toList with
      | nil => simp [chars, isIdentifierChars] at plain
      | cons c rest =>
        simp only [chars, isIdentifierChars, Bool.and_eq_true, List.all_eq_true] at plain
        simpa [chars, isIdentifierChars, plain.1, part] using plain.2
    · cases checked
      exact plain

def IsPackage (package : String) : Prop :=
  package = "" ∨ ∀ segment ∈ Text.pieces '.' package, isFreeName segment = true

theorem checkPackage_ok_iff : checkPackage package = .ok () ↔ IsPackage package := by
  unfold checkPackage IsPackage
  by_cases none : package = ""
  · simp [none]
  · cases found : (Text.pieces '.' package).find? (fun segment => !isFreeName segment) with
    | none =>
      have free := List.find?_eq_none.mp found
      simp only [none, if_false, false_or, true_iff]
      intro segment member
      simpa using free segment member
    | some segment =>
      have member := List.mem_of_find?_eq_some found
      have bad : isFreeName segment = false := by simpa using List.find?_some found
      simp only [none, if_false, false_or, reduceCtorEq, false_iff]
      intro free
      rw [free segment member] at bad
      cases bad

-- Every piece of a package that passes is an identifier.
theorem isIdentifier_of_checkPackage {package piece : String} (checked : checkPackage package = .ok ())
    (member : piece ∈ (Text.pieces '.' package).filter (· ≠ "")) : isIdentifier piece = true := by
  obtain ⟨inside, some⟩ := List.mem_filter.mp member
  rcases checkPackage_ok_iff.mp checked with rfl | free
  · have alone : Text.pieces '.' "" = [""] := by decide
    rw [alone] at inside
    simp [List.mem_singleton.mp inside] at some
  · exact isIdentifier_of_isFreeName (free piece inside)

theorem packagePath_downward {package : String} (checked : checkPackage package = .ok ()) :
    (packagePath package).Downward := by
  obtain ⟨steps, relative⟩ := Path.ofPieces_parts fun piece member =>
    isName_of_isIdentifier (isIdentifier_of_checkPackage checked member)
  refine Path.downward_iff.mpr ⟨relative, ?_⟩
  intro up
  unfold packagePath at up
  rw [steps] at up
  exact (isName_of_isIdentifier (isIdentifier_of_checkPackage checked up)).down rfl

end Name
end SpringSkeleton
