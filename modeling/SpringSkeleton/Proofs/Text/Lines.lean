import Mathlib.Data.List.Basic
import SpringSkeleton.Artifact
import SpringSkeleton.Proofs.Text.Pieces

namespace SpringSkeleton

namespace Text

-- A text that is one line, or part of one.
def Unbroken (s : String) : Prop := '\n' ∉ s.toList

instance (s : String) : Decidable (Unbroken s) := inferInstanceAs (Decidable (¬ _))

theorem unbroken_append {first second : String} :
    Unbroken (first ++ second) ↔ Unbroken first ∧ Unbroken second := by
  rw [Unbroken, String.toList_append, List.mem_append, not_or]
  rfl

-- For constants: the characters of a literal are compared, not its bytes.
theorem unbroken_ofList {cs : List Char} (whole : '\n' ∉ cs) : Unbroken (String.ofList cs) := by
  rwa [Unbroken, String.toList_ofList]

section Marks

-- Texts that begin with a mark are told from others by what they begin with, whatever follows.
theorem dropPrefix?_eq_none {mark text : List Char} (other : ¬mark <+: text) :
    text.dropPrefix? mark = none := by
  refine Option.eq_none_iff_forall_ne_some.mpr fun rest dropped => ?_
  obtain ⟨front, rfl, same⟩ := List.dropPrefix?_eq_some_iff.mp dropped
  exact other ⟨rest, by rw [eq_of_beq same]⟩

theorem dropPrefix?_append_eq_none {mark front : List Char} (other : ¬mark <+: front)
    (apart : ¬front <+: mark) (back : List Char) : (front ++ back).dropPrefix? mark = none :=
  dropPrefix?_eq_none fun begins =>
    (List.prefix_or_prefix_of_prefix begins (List.prefix_append front back)).elim other apart

theorem dropSuffix?_append (front back : List Char) : (front ++ back).dropSuffix? back = some front :=
  List.dropSuffix?_eq_some_iff.mpr ⟨back, rfl, BEq.rfl⟩

end Marks

end Text

-- What follows the last line feed belongs to no line.
def sourceLines (text : String) : List String := (Text.pieces '\n' text).dropLast

theorem sourceText_cons (line : String) (rest : List String) :
    (sourceText (line :: rest)).toList = line.toList ++ '\n' :: (sourceText rest).toList := by
  simp [sourceText]

theorem sourceText_append (first second : List String) :
    sourceText (first ++ second) = sourceText first ++ sourceText second := by
  simp only [sourceText, List.flatMap_append, String.ofList_append]

-- Lines that come in groups: the text of each group, one after the other.
theorem sourceText_flatMap {α : Type} (lines : α → List String) (items : List α) :
    sourceText (items.flatMap lines) = String.join (items.map fun item => sourceText (lines item)) := by
  induction items with
  | nil => rfl
  | cons item rest ih => rw [List.flatMap_cons, sourceText_append, ih, List.map_cons, String.join_cons]

theorem pieces_sourceText {lines : List String} (whole : ∀ line ∈ lines, Text.Unbroken line) :
    Text.pieces '\n' (sourceText lines) = lines ++ [""] := by
  induction lines with
  | nil => decide
  | cons line rest ih =>
    obtain ⟨first, others⟩ := List.forall_mem_cons.mp whole
    rw [Text.pieces_of_cut (sourceText_cons line rest), Text.pieces_of_not_mem first, ih others]
    rfl

theorem sourceLines_sourceText {lines : List String} (whole : ∀ line ∈ lines, Text.Unbroken line) :
    sourceLines (sourceText lines) = lines := by
  rw [sourceLines, pieces_sourceText whole, List.dropLast_concat]

end SpringSkeleton
