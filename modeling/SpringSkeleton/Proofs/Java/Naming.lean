import Mathlib.Logic.Relation
import SpringSkeleton.Java.Failure
import SpringSkeleton.Proofs.Java.Leaving.Items
import SpringSkeleton.Proofs.Java.Members

namespace SpringSkeleton.Java

namespace Grammar
variable {rules : Rules} {tokens rest : Tokens}

section Inversion

theorem isMark_cons {wanted : Mark} (found : isMark wanted tokens = true) :
    ∃ more, tokens = .mark wanted :: more := by
  unfold isMark at found
  split at found
  · exact ⟨_, by rw [of_decide_eq_true found]⟩
  · cases found

theorem isKeyword_cons {text : String} (found : isKeyword text tokens = true) :
    ∃ word more, tokens = .word word :: more ∧ word.text = text := by
  unfold isKeyword at found
  split at found
  · exact ⟨_, _, rfl, of_decide_eq_true found⟩
  · cases found

theorem mark_ok {wanted : Mark} (read : mark wanted tokens = .ok rest) : tokens = .mark wanted :: rest := by
  unfold mark at read
  split at read
  · next found =>
    obtain ⟨more, rfl⟩ := isMark_cons found
    cases read
    rfl
  · cases read

theorem word_ok {found : Word} (read : word tokens = .ok (found, rest)) : tokens = .word found :: rest := by
  unfold word at read
  split at read
  · next here =>
    cases read
    unfold word? at here
    split at here
    · cases here
      rfl
    · cases here
  · cases read

theorem anyWord_ok (read : anyWord tokens = .ok rest) : ∃ found, tokens = .word found :: rest := by
  obtain ⟨⟨found, left⟩, here, same⟩ := map_ok read
  cases same
  exact ⟨found, word_ok here⟩

theorem keyword_ok {text : String} (read : keyword text tokens = .ok rest) :
    ∃ word, tokens = .word word :: rest := by
  unfold keyword at read
  split at read
  · next found =>
    cases read
    obtain ⟨word, more, rfl, _⟩ := isKeyword_cons found
    exact ⟨word, rfl⟩
  · cases read

theorem spanOf_ok {rule : Rule} {span : Span} (read : spanOf rule tokens = .ok (span, rest)) :
    rule tokens = .ok rest ∧ span = ⟨tokens.length, rest.length⟩ := by
  unfold spanOf at read
  split at read
  · cases read
  · next reads =>
    cases read
    exact ⟨reads, rfl⟩

theorem sequence_ok {rule : Rule} {others : List Rule} (read : sequence (rule :: others) tokens = .ok rest) :
    ∃ left, rule tokens = .ok left ∧ sequence others left = .ok rest := by
  unfold sequence at read
  split at read
  · cases read
  · next left first => exact ⟨left, first, read⟩

theorem sequence_last {rule : Rule} (read : sequence [rule] tokens = .ok rest) : rule tokens = .ok rest := by
  obtain ⟨left, first, none⟩ := sequence_ok read
  cases none
  exact first

-- Rounds of a rule, one after the other.
theorem repeatSteps_ok {more : Tokens → Bool} {rule : Rule} {bound : Nat}
    (read : repeatSteps more rule bound tokens = .ok rest) :
    Relation.ReflTransGen (fun before after => rule before = .ok after) tokens rest := by
  induction bound generalizing tokens with
  | zero =>
    cases read
    exact .refl
  | succ bound ih =>
    unfold repeatSteps at read
    split at read
    · split at read
      · cases read
      · next first => exact .head first (ih read)
    · cases read
      exact .refl

end Inversion

section Names

theorem laterWords_ok {bound : Nat}
    (read : repeatSteps continuesName (sequence [mark .dot, anyWord]) bound tokens = .ok rest) :
    ∃ others : List Word, tokens = (others.flatMap fun word => [.mark .dot, .word word]) ++ rest := by
  have rounds := repeatSteps_ok read
  clear read
  induction rounds using Relation.ReflTransGen.head_induction_on with
  | refl => exact ⟨[], rfl⟩
  | head round _ ih =>
    obtain ⟨behind, dot, last⟩ := sequence_ok round
    obtain ⟨word, rfl⟩ := anyWord_ok (sequence_last last)
    obtain ⟨others, rfl⟩ := ih
    exact ⟨word :: others, mark_ok dot⟩

theorem qualifiedName_ok (read : qualifiedName tokens = .ok rest) :
    ∃ first others, tokens = nameTokens first others ++ rest := by
  obtain ⟨left, begins, goesOn⟩ := sequence_ok read
  obtain ⟨first, rfl⟩ := anyWord_ok begins
  obtain ⟨others, rfl⟩ := laterWords_ok (sequence_last goesOn)
  exact ⟨first, others, rfl⟩

-- A name stands in the tokens, over a stretch.
def Named (tokens : Tokens) (span : Span) : Prop :=
  ∃ first others rest, nameTokens first others ++ rest <:+ tokens ∧
    span = ⟨(nameTokens first others ++ rest).length, rest.length⟩

theorem Named.within {whole : Tokens} {span : Span} (named : Named tokens span) (inside : tokens <:+ whole) :
    Named whole span := by
  obtain ⟨first, others, rest, stands, same⟩ := named
  exact ⟨first, others, rest, stands.trans inside, same⟩

theorem spanOf_named {span : Span} (read : spanOf qualifiedName tokens = .ok (span, rest)) :
    Named tokens span := by
  obtain ⟨name, rfl⟩ := spanOf_ok read
  obtain ⟨first, others, rfl⟩ := qualifiedName_ok name
  exact ⟨first, others, rest, List.suffix_rfl, rfl⟩

theorem annotationUse_ok {span : Span} (read : annotationUse rules tokens = .ok (span, rest)) :
    ∃ more left, tokens = .mark .sign :: more ∧ spanOf qualifiedName more = .ok (span, left) ∧
      Grammar.optional (isMark .openRound)
        (between .openRound .closeRound (annotationArguments rules)) left = .ok rest := by
  unfold annotationUse at read
  split at read
  · cases read
  · next sign =>
    split at read
    · cases read
    · next name =>
      obtain ⟨_, arguments, same⟩ := map_ok read
      cases same
      exact ⟨_, _, mark_ok (sequence_last sign), name, arguments⟩

theorem annotationUse_named {span : Span} (read : annotationUse rules tokens = .ok (span, rest)) :
    Named tokens span := by
  obtain ⟨more, left, rfl, name, _⟩ := annotationUse_ok read
  exact (spanOf_named name).within (List.suffix_cons _ _)

theorem modifierSteps_named [AllLeave rules] {bound : Nat} {found : Modifiers}
    (read : modifierSteps rules bound tokens = .ok (found, rest)) :
    ∀ span ∈ found.annotations, Named tokens span := by
  induction bound generalizing tokens found with
  | zero =>
    cases read
    exact List.forall_mem_nil _
  | succ bound ih =>
    cases modifierSteps_step read with
    | annotated _ annotated later =>
      refine List.forall_mem_cons.mpr ⟨annotationUse_named annotated, ?_⟩
      intro span member
      exact (ih later span member).within (LeavesAfter.suffix annotated)
    | marked _ later =>
      intro span member
      exact (ih later span member).within (next_suffix tokens)
    | worded _ worded later =>
      intro span member
      exact (ih later span member).within (LeavesAfter.suffix worded)
    | none _ _ => exact List.forall_mem_nil _

theorem modifiers_named [AllLeave rules] {found : Modifiers}
    (read : modifiers rules tokens = .ok (found, rest)) : ∀ span ∈ found.annotations, Named tokens span :=
  modifierSteps_named read

theorem packageName_named {span : Span} (read : packageName tokens = .ok (span, rest)) :
    Named tokens span := by
  unfold packageName at read
  split at read
  · cases read
  · next keyed =>
    split at read
    · cases read
    · next name =>
      obtain ⟨left, _, same⟩ := map_ok read
      cases same
      exact (spanOf_named name).within (Leaves.suffix keyed)

end Names

section Items
variable {modifiers : Modifiers} {declaration : ClassDeclaration}

theorem itemOther_ok {rule : Rule} {found : Item} (read : itemOther rule tokens = .ok (found, rest)) :
    found = .other := by
  obtain ⟨left, _, same⟩ := map_ok read
  cases same
  rfl

theorem itemPackage_ok {found : Item} (read : itemPackage tokens = .ok (found, rest)) :
    ∃ name, found = .package name ∧ Named tokens name := by
  obtain ⟨⟨name, left⟩, named, same⟩ := map_ok read
  cases same
  exact ⟨name, rfl, packageName_named named⟩

theorem itemClass_ok {found : Item} (read : itemClass rules modifiers tokens = .ok (found, rest)) :
    ∃ declaration, found = .classItem declaration ∧
      classDeclaration rules modifiers tokens = .ok (declaration, rest) := by
  obtain ⟨⟨declaration, left⟩, declared, same⟩ := map_ok read
  cases same
  exact ⟨declaration, rfl, declared⟩

theorem classBody_ok {found : List Member} (read : classBody rules tokens = .ok (found, rest)) :
    ∃ body ending, tokens = .mark .openBrace :: body ∧ members rules body = .ok (found, ending) ∧
      ending = .mark .closeBrace :: rest := by
  unfold classBody at read
  split at read
  · cases read
  · next opens =>
    split at read
    · cases read
    · next collected =>
      obtain ⟨_, closes, same⟩ := map_ok read
      cases same
      exact ⟨_, _, mark_ok opens, collected, mark_ok closes⟩

theorem classDeclaration_ok (read : classDeclaration rules modifiers tokens = .ok (declaration, rest)) :
    ∃ afterKeyword afterName afterHead, keyword "class" tokens = .ok afterKeyword ∧
      word afterKeyword = .ok (declaration.name, afterName) ∧ classHead rules afterName = .ok afterHead ∧
      classBody rules afterHead = .ok (declaration.members, rest) ∧ declaration.modifiers = modifiers := by
  unfold classDeclaration at read
  split at read
  · cases read
  · next keyed =>
    split at read
    · cases read
    · next named =>
      split at read
      · cases read
      · next headed =>
        obtain ⟨_, bodied, same⟩ := map_ok read
        cases same
        exact ⟨_, _, _, keyed, named, headed, bodied, rfl⟩

-- Where an item comes from that is more than its form: a package's name, or a class after its modifiers.
def ItemFrom (rules : Rules) (tokens : Tokens) : Item → Tokens → Prop
  | .package name, _ => Named tokens name
  | .classItem declaration, rest => ∃ left, Grammar.modifiers rules tokens = .ok (declaration.modifiers, left) ∧
      classDeclaration rules declaration.modifiers left = .ok (declaration, rest)
  | .other, _ => True

theorem itemPackage_from {found : Item} {left : Tokens} (inside : left <:+ tokens)
    (read : itemPackage left = .ok (found, rest)) : ItemFrom rules tokens found rest := by
  obtain ⟨name, rfl, named⟩ := itemPackage_ok read
  exact named.within inside

theorem itemClass_from {found : Item} {left : Tokens}
    (modified : Grammar.modifiers rules tokens = .ok (modifiers, left))
    (read : itemClass rules modifiers left = .ok (found, rest)) : ItemFrom rules tokens found rest := by
  obtain ⟨declaration, rfl, declared⟩ := itemClass_ok read
  obtain ⟨_, _, _, _, _, _, _, same⟩ := classDeclaration_ok declared
  rw [← same] at modified declared
  exact ⟨left, modified, declared⟩

theorem itemOther_from {rule : Rule} {found : Item} {left : Tokens}
    (read : itemOther rule left = .ok (found, rest)) : ItemFrom rules tokens found rest := by
  rw [itemOther_ok read]
  trivial

theorem modifiedItem_from [AllLeave rules] {found : Item} {left : Tokens}
    (modified : Grammar.modifiers rules tokens = .ok (modifiers, left))
    (read : modifiedItem rules modifiers left = .ok (found, rest)) : ItemFrom rules tokens found rest := by
  unfold modifiedItem at read
  split at read
  · exact itemClass_from modified read
  · split at read
    · exact itemPackage_from (LeavesAfter.suffix modified) read
    · split at read
      · exact itemOther_from read
      · split at read
        · split at read
          · exact itemOther_from read
          · exact itemOther_from read
        · exact itemOther_from read

-- The word that begins a class is no modifier.
theorem modifiers_class (begins : isKeyword "class" tokens = true) :
    Grammar.modifiers rules tokens = .ok (.none, tokens) := by
  refine modifierSteps_stop ?_ _
  obtain ⟨word, more, rfl, text⟩ := isKeyword_cons begins
  have foreign : "class" ∉ modifierWords := by decide
  simp [startsModifier, isMark, isWordOf, text, foreign]

theorem item_from [AllLeave rules] {found : Item} (read : item rules tokens = .ok (found, rest)) :
    ItemFrom rules tokens found rest := by
  unfold item at read
  split at read
  · split at read
    · cases read
    · next modified => exact modifiedItem_from modified read
  · split at read
    · next begins => exact itemClass_from (modifiers_class begins) read
    · split at read
      · exact itemPackage_from List.suffix_rfl read
      · split at read
        · exact itemOther_from read
        · split at read
          · split at read
            · exact itemOther_from read
            · exact itemOther_from read
          · exact itemOther_from read

theorem itemSteps_ok {bound : Nat} {token : Token} {found : List Item}
    (read : itemSteps rules (bound + 1) (token :: tokens) = .ok found) :
    ∃ first left others, item rules (token :: tokens) = .ok (first, left) ∧
      itemSteps rules bound left = .ok others ∧ found = first :: others := by
  unfold itemSteps at read
  split at read
  · cases read
  · next first left here =>
    obtain ⟨others, later, same⟩ := map_ok read
    exact ⟨first, left, others, here, later, same.symm⟩

theorem itemSteps_item [AllLeave rules] {bound : Nat} {found : List Item}
    (read : itemSteps rules bound tokens = .ok found) : ∀ one ∈ found, ∃ left rest, left <:+ tokens ∧
      item rules left = .ok (one, rest) := by
  induction bound generalizing tokens found with
  | zero =>
    cases tokens with
    | nil =>
      cases read
      exact List.forall_mem_nil _
    | cons token more => cases read
  | succ bound ih =>
    cases tokens with
    | nil =>
      cases read
      exact List.forall_mem_nil _
    | cons token more =>
      obtain ⟨first, left, others, here, later, rfl⟩ := itemSteps_ok read
      refine List.forall_mem_cons.mpr ⟨⟨_, left, List.suffix_rfl, here⟩, ?_⟩
      intro one member
      obtain ⟨before, rest, inside, reads⟩ := ih later one member
      exact ⟨before, rest, inside.trans (LeavesAfter.suffix here), reads⟩

-- Names and classes that a source is read as stand somewhere in its tokens.
theorem items_from {found : List Item} (read : items tokens = .ok found) {one : Item} (member : one ∈ found) :
    ∃ left rest, left <:+ tokens ∧ ItemFrom (rulesTo (depthOf tokens)) left one rest := by
  obtain ⟨left, rest, inside, reads⟩ := itemSteps_item read one member
  exact ⟨left, rest, inside, item_from reads⟩

end Items
end Grammar

theorem parse_ok_iff {source : String} {program : Program} : parse source = .ok program ↔
    program.lexemes = lexemes source ∧ Grammar.items (tokensOf (lexemes source)) = .ok program.items := by
  unfold parse
  cases read : Grammar.items (tokensOf (lexemes source)) with
  | error left => simp [read]
  | ok items =>
    simp only [read, Except.ok.injEq]
    constructor
    · rintro rfl
      exact ⟨rfl, rfl⟩
    · rintro ⟨same, rfl⟩
      rw [← same]

end SpringSkeleton.Java
