import Mathlib.Data.List.Basic
import SpringSkeleton.Java.Program

namespace SpringSkeleton.Java.Grammar

-- What the rule leaves is the end of what it was given. An instance is found for a rule from the parts
-- that the rule is built from.
class Leaves (rule : Rule) : Prop where
  suffix {tokens rest : Tokens} : rule tokens = .ok rest → rest <:+ tokens

class LeavesAfter {α : Type} (parse : Parse α) : Prop where
  suffix {tokens rest : Tokens} {found : α} : parse tokens = .ok (found, rest) → rest <:+ tokens

variable {α β γ : Type} {rule : Rule} {parse : Parse α} {rules : Rules}

theorem next_suffix (tokens : Tokens) : next tokens <:+ tokens := List.drop_suffix 1 tokens

theorem map_ok {make : β → γ} {result : Except Nat β} {value : γ} (read : result.map make = .ok value) :
    ∃ given, result = .ok given ∧ make given = value := by
  cases result with
  | error left => cases read
  | ok given => exact ⟨given, rfl, Except.ok.inj read⟩

theorem tried_ok {tokens rest : Tokens} (read : tried rule tokens = some rest) :
    rule tokens = .ok rest := by
  unfold tried at read
  cases result : rule tokens with
  | error left => simp [result, Except.toOption] at read
  | ok left => simpa [result, Except.toOption] using read

section Built

namespace Leaves

instance same : Leaves fun tokens => .ok tokens where
  suffix read := by
    cases read
    exact List.suffix_rfl

instance past : Leaves fun tokens => .ok (next tokens) where
  suffix read := by
    cases read
    exact next_suffix _

instance afterNext [Leaves rule] : Leaves fun tokens => rule (next tokens) where
  suffix read := (suffix read).trans (next_suffix _)

instance failing : Leaves fun tokens => failed tokens where
  suffix read := nomatch read

instance branch {test : Tokens → Bool} {one two : Rule} [Leaves one] [Leaves two] :
    Leaves fun tokens => if test tokens then one tokens else two tokens where
  suffix read := by
    split at read
    · exact suffix read
    · exact suffix read

instance skip [LeavesAfter parse] : Leaves fun tokens => (parse tokens).map Prod.snd where
  suffix read := by
    obtain ⟨⟨found, left⟩, result, same⟩ := map_ok read
    cases same
    exact LeavesAfter.suffix result

end Leaves

instance LeavesAfter.withValue [Leaves rule] (value : α) :
    LeavesAfter fun tokens => (rule tokens).map fun rest => (value, rest) where
  suffix read := by
    obtain ⟨left, result, same⟩ := map_ok read
    cases same
    exact Leaves.suffix result

theorem tried_suffix [Leaves rule] {tokens rest : Tokens} (read : tried rule tokens = some rest) :
    rest <:+ tokens := Leaves.suffix (tried_ok read)

instance stuck_leaves : Leaves stuck := Leaves.failing

instance mark_leaves (wanted : Mark) : Leaves (mark wanted) := by
  unfold mark
  infer_instance

instance keyword_leaves (text : String) : Leaves (keyword text) := by
  unfold keyword
  infer_instance

instance greater_leaves : Leaves greater := by
  unfold greater
  infer_instance

instance word_leaves : LeavesAfter word where
  suffix read := by
    unfold word at read
    split at read
    · cases read
      exact next_suffix _
    · cases read

instance anyWord_leaves : Leaves anyWord := by
  unfold anyWord
  infer_instance

instance optional_leaves {starts : Tokens → Bool} [Leaves rule] : Leaves (optional starts rule) := by
  unfold optional
  infer_instance

instance sequence_nil_leaves : Leaves (sequence []) := Leaves.same

instance sequence_cons_leaves {others : List Rule} [Leaves rule] [Leaves (sequence others)] :
    Leaves (sequence (rule :: others)) where
  suffix read := by
    unfold sequence at read
    split at read
    · cases read
    · next first => exact (Leaves.suffix read).trans (Leaves.suffix first)

instance repeatSteps_leaves {more : Tokens → Bool} [Leaves rule] (bound : Nat) :
    Leaves (repeatSteps more rule bound) where
  suffix {tokens rest} read := by
    induction bound generalizing tokens with
    | zero => exact Leaves.same.suffix read
    | succ bound ih =>
      unfold repeatSteps at read
      split at read
      · split at read
        · cases read
        · next first => exact (ih read).trans (Leaves.suffix first)
      · exact Leaves.same.suffix read

instance repeated_leaves {more : Tokens → Bool} [Leaves rule] : Leaves (repeated more rule) where
  suffix {tokens _} read := (repeatSteps_leaves tokens.length).suffix read

instance repeatedTo_leaves {close : Mark} [Leaves rule] : Leaves (repeatedTo close rule) := by
  unfold repeatedTo
  infer_instance

instance listed_leaves [Leaves rule] : Leaves (listed rule) := by
  unfold listed
  infer_instance

instance listedUpTo_leaves {close : Mark} [Leaves rule] : Leaves (listedUpTo close rule) := by
  unfold listedUpTo
  infer_instance

instance looseListSteps_leaves {close : Mark} [Leaves rule] (bound : Nat) :
    Leaves (looseListSteps close rule bound) where
  suffix {tokens rest} read := by
    induction bound generalizing tokens with
    | zero => exact Leaves.same.suffix read
    | succ bound ih =>
      unfold looseListSteps at read
      split at read
      · exact Leaves.same.suffix read
      · split at read
        · cases read
        · next left first =>
          have shorter := Leaves.suffix first
          split at read
          · exact (ih read).trans ((next_suffix left).trans shorter)
          · cases read
            exact shorter

instance looseList_leaves {close : Mark} [Leaves rule] : Leaves (looseList close rule) where
  suffix {tokens _} read := by
    unfold looseList at read
    split at read
    · exact Leaves.past.suffix read
    · exact (looseListSteps_leaves tokens.length).suffix read

instance between_leaves {opening closing : Mark} [Leaves rule] : Leaves (between opening closing rule) := by
  unfold between
  infer_instance

-- Nothing is collected, or one thing and those behind it.
theorem collectSteps_cases {more : Tokens → Bool} {bound : Nat} {tokens rest : Tokens} {found : List α}
    (read : collectSteps more parse (bound + 1) tokens = .ok (found, rest)) :
    (more tokens = false ∧ found = [] ∧ rest = tokens) ∨
      ∃ first left others, more tokens = true ∧ parse tokens = .ok (first, left) ∧
        collectSteps more parse bound left = .ok (others, rest) ∧ found = first :: others := by
  unfold collectSteps at read
  split at read
  · next goesOn =>
    split at read
    · cases read
    · next first left parsed =>
      split at read
      · cases read
      · next others _ later =>
        cases read
        exact .inr ⟨first, left, others, goesOn, parsed, later, rfl⟩
  · next stops =>
    cases read
    exact .inl ⟨by simpa using stops, rfl, rfl⟩

instance collectSteps_leaves {more : Tokens → Bool} [LeavesAfter parse] (bound : Nat) :
    LeavesAfter (collectSteps more parse bound) where
  suffix {tokens rest found} read := by
    induction bound generalizing tokens found with
    | zero =>
      cases read
      exact List.suffix_rfl
    | succ bound ih =>
      obtain ⟨_, _, rfl⟩ | ⟨_, _, _, _, first, others, _⟩ := collectSteps_cases read
      · exact List.suffix_rfl
      · exact (ih others).trans (LeavesAfter.suffix first)

instance collect_leaves {more : Tokens → Bool} [LeavesAfter parse] : LeavesAfter (collect more parse) where
  suffix {tokens _ _} read := (collectSteps_leaves tokens.length).suffix read

instance spanOf_leaves [Leaves rule] : LeavesAfter (spanOf rule) where
  suffix read := by
    unfold spanOf at read
    split at read
    · cases read
    · next result =>
      cases read
      exact Leaves.suffix result

end Built

-- Rules of one level that all leave ends.
class AllLeave (rules : Rules) : Prop where
  annotationUse : Leaves rules.annotationUse
  type : Leaves rules.type
  value : Leaves rules.value
  initializer : Leaves rules.initializer
  pattern : Leaves rules.pattern
  expression (arrows : Bool) : Leaves (rules.expression arrows)
  block : Leaves rules.block
  statement : Leaves rules.statement
  declaration : Leaves rules.declaration
  body : Leaves rules.body

attribute [instance] AllLeave.annotationUse AllLeave.type AllLeave.value AllLeave.initializer
  AllLeave.pattern AllLeave.expression AllLeave.block AllLeave.statement AllLeave.declaration AllLeave.body

section Annotations

instance qualifiedName_leaves : Leaves qualifiedName := by
  unfold qualifiedName
  infer_instance

variable [AllLeave rules]

instance pair_leaves : Leaves (pair rules) := by
  unfold pair
  infer_instance

instance annotationArguments_leaves : Leaves (annotationArguments rules) := by
  unfold annotationArguments
  infer_instance

instance annotationUse_leaves : LeavesAfter (annotationUse rules) where
  suffix read := by
    unfold annotationUse at read
    split at read
    · cases read
    · next sign =>
      split at read
      · cases read
      · next name rest named =>
        have arguments := (LeavesAfter.withValue name).suffix read
        exact arguments.trans ((LeavesAfter.suffix named).trans (Leaves.suffix sign))

instance annotations_leaves : Leaves (annotations rules) := by
  unfold annotations
  infer_instance

instance value_leaves : Leaves (value rules) := by
  unfold value
  infer_instance

-- What modifiers are read from: one modifier and those behind it, or none.
inductive ModifierStep (rules : Rules) (bound : Nat) (tokens rest : Tokens) : Modifiers → Prop
  | annotated {name : Span} {left : Tokens} {others : Modifiers} (sign : isMark .sign tokens = true)
      (annotated : annotationUse rules tokens = .ok (name, left))
      (later : modifierSteps rules bound left = .ok (others, rest)) :
      ModifierStep rules bound tokens rest (others.annotated name)
  | marked {others : Modifiers} (marked : isMark .nonSealed tokens = true)
      (later : modifierSteps rules bound (next tokens) = .ok (others, rest)) :
      ModifierStep rules bound tokens rest (others.marked "non-sealed")
  | worded {found : Word} {left : Tokens} {others : Modifiers}
      (known : isWordOf modifierWords tokens = true) (worded : word tokens = .ok (found, left))
      (later : modifierSteps rules bound left = .ok (others, rest)) :
      ModifierStep rules bound tokens rest (others.marked found.text)
  | none (stops : startsModifier tokens = false) (here : rest = tokens) :
      ModifierStep rules bound tokens rest .none

omit [AllLeave rules] in
theorem modifierSteps_step {bound : Nat} {tokens rest : Tokens} {found : Modifiers}
    (read : modifierSteps rules (bound + 1) tokens = .ok (found, rest)) :
    ModifierStep rules bound tokens rest found := by
  unfold modifierSteps at read
  split at read
  · next sign =>
    split at read
    · cases read
    · next annotated =>
      obtain ⟨_, later, same⟩ := map_ok read
      cases same
      exact .annotated sign annotated later
  · next unsigned =>
    split at read
    · next marked =>
      obtain ⟨_, later, same⟩ := map_ok read
      cases same
      exact .marked marked later
    · next unmarked =>
      split at read
      · next known =>
        split at read
        · cases read
        · next worded =>
          obtain ⟨_, later, same⟩ := map_ok read
          cases same
          exact .worded known worded later
      · next unknown =>
        cases read
        exact .none (by simp [startsModifier, unsigned, unmarked, unknown]) rfl

instance modifierSteps_leaves (bound : Nat) : LeavesAfter (modifierSteps rules bound) where
  suffix {tokens rest found} read := by
    induction bound generalizing tokens found with
    | zero =>
      cases read
      exact List.suffix_rfl
    | succ bound ih =>
      cases modifierSteps_step read with
      | annotated _ annotated others => exact (ih others).trans (LeavesAfter.suffix annotated)
      | marked _ others => exact (ih others).trans (next_suffix tokens)
      | worded _ worded others => exact (ih others).trans (LeavesAfter.suffix worded)
      | none _ here => exact here ▸ List.suffix_rfl

instance modifiers_leaves : LeavesAfter (modifiers rules) where
  suffix {tokens _ _} read := (modifierSteps_leaves tokens.length).suffix read

instance skipModifiers_leaves : Leaves (skipModifiers rules) := by
  unfold skipModifiers
  infer_instance

end Annotations

section Types
variable [AllLeave rules]

instance dimension_leaves : Leaves (dimension rules) := by
  unfold dimension
  infer_instance

instance dimensions_leaves : Leaves (dimensions rules) := by
  unfold dimensions
  infer_instance

instance wildcardBound_leaves : Leaves (wildcardBound rules) := by
  unfold wildcardBound
  infer_instance

instance typeArgument_leaves : Leaves (typeArgument rules) where
  suffix read := by
    unfold typeArgument at read
    split at read
    · cases read
    · next rest annotated =>
      have shorter := Leaves.suffix annotated
      split at read
      · exact (Leaves.suffix read).trans ((next_suffix rest).trans shorter)
      · exact (Leaves.suffix read).trans shorter

instance typeArguments_leaves : Leaves (typeArguments rules) where
  suffix {tokens _} read := by
    unfold typeArguments at read
    split at read
    · exact (Leaves.past.suffix read).trans (next_suffix tokens)
    · exact Leaves.suffix read

instance typeNameSteps_leaves (bound : Nat) (form : TypeForm) :
    LeavesAfter (typeNameSteps rules bound form) where
  suffix {tokens rest found} read := by
    induction bound generalizing tokens form with
    | zero =>
      cases read
      exact List.suffix_rfl
    | succ bound ih =>
      simp only [typeNameSteps] at read
      split at read
      · cases read
      · next other rest arguments =>
        have shorter : rest <:+ tokens := by
          split at arguments
          · exact (LeavesAfter.withValue _).suffix arguments
          · cases arguments
            exact List.suffix_rfl
        split at read
        · split at read
          · cases read
          · next inner => exact (ih _ read).trans ((Leaves.suffix inner).trans shorter)
        · cases read
          exact shorter

instance typeName_leaves : LeavesAfter (typeName rules) where
  suffix read := by
    unfold typeName at read
    split at read
    · cases read
    · next rest first =>
      split at read
      · cases read
        exact Leaves.suffix first
      · exact ((typeNameSteps_leaves rest.length _).suffix read).trans (Leaves.suffix first)

instance plainType_leaves : LeavesAfter (plainType rules) where
  suffix read := by
    unfold plainType at read
    split at read
    · cases read
    · next named =>
      split at read
      · exact ((LeavesAfter.withValue _).suffix read).trans (LeavesAfter.suffix named)
      · cases read
        exact LeavesAfter.suffix named

instance skipPlainType_leaves : Leaves (skipPlainType rules) := by
  unfold skipPlainType
  infer_instance

instance type_leaves : Leaves (type rules) := by
  unfold type
  infer_instance

theorem typeAhead_suffix {tokens rest : Tokens} {form : TypeForm}
    (ahead : typeAhead? rules tokens = some (form, rest)) : rest <:+ tokens := by
  unfold typeAhead? at ahead
  split at ahead
  · cases result : plainType rules tokens with
    | error left => simp [result, Except.toOption] at ahead
    | ok found =>
      have same : found = (form, rest) := by simpa [result, Except.toOption] using ahead
      exact LeavesAfter.suffix (same ▸ result)
  · cases ahead

theorem declaredAhead_suffix {tokens rest : Tokens} (ahead : declaredAhead? rules tokens = some rest) :
    rest <:+ tokens := by
  unfold declaredAhead? at ahead
  split at ahead
  · next found =>
    split at ahead
    · cases ahead
      exact typeAhead_suffix found
    · cases ahead
  · cases ahead

instance typeBound_leaves : Leaves (typeBound rules) := by
  unfold typeBound
  infer_instance

instance typeParameter_leaves : Leaves (typeParameter rules) := by
  unfold typeParameter
  infer_instance

instance typeParameters_leaves : Leaves (typeParameters rules) := by
  unfold typeParameters
  infer_instance

instance optionalTypeParameters_leaves : Leaves (optionalTypeParameters rules) := by
  unfold optionalTypeParameters
  infer_instance

instance variable_leaves : LeavesAfter (variable_ rules) where
  suffix read := by
    unfold variable_ at read
    split at read
    · cases read
    · next named => exact ((LeavesAfter.withValue _).suffix read).trans (LeavesAfter.suffix named)

instance initialized_leaves : Leaves (initialized rules) := by
  unfold initialized
  infer_instance

instance declarator_leaves : LeavesAfter (declarator rules) where
  suffix read := by
    unfold declarator at read
    split at read
    · cases read
    · next named => exact ((LeavesAfter.withValue _).suffix read).trans (LeavesAfter.suffix named)

instance skipDeclarator_leaves : Leaves (skipDeclarator rules) := by
  unfold skipDeclarator
  infer_instance

instance otherDeclarator_leaves : LeavesAfter (otherDeclarator rules) where
  suffix read := by
    unfold otherDeclarator at read
    split at read
    · cases read
    · next comma => exact (LeavesAfter.suffix read).trans (Leaves.suffix comma)

instance declarators_leaves : LeavesAfter (declarators rules) where
  suffix read := by
    unfold declarators at read
    split at read
    · cases read
    · next first =>
      obtain ⟨_, others, same⟩ := map_ok read
      cases same
      exact (LeavesAfter.suffix others).trans (LeavesAfter.suffix first)

instance skipDeclarators_leaves : Leaves (skipDeclarators rules) := by
  unfold skipDeclarators
  infer_instance

instance initializer_leaves : Leaves (initializer rules) := by
  unfold initializer
  infer_instance

instance receiverPath_leaves : Leaves receiverPath := by
  unfold receiverPath
  infer_instance

instance parameterName_leaves (first : Bool) : Leaves (parameterName rules first) := by
  unfold parameterName
  infer_instance

instance parameter_leaves (first : Bool) : Leaves (parameter rules first) := by
  unfold parameter
  infer_instance

instance parameterList_leaves : Leaves (parameterList rules) := by
  unfold parameterList
  infer_instance

instance parameters_leaves : Leaves (parameters rules) := by
  unfold parameters
  infer_instance

end Types

section Patterns
variable [AllLeave rules]

instance component_leaves : Leaves (component rules) where
  suffix read := by
    unfold component at read
    split at read
    · exact Leaves.past.suffix read
    · split at read
      · cases read
      · next typed =>
        have shorter := LeavesAfter.suffix typed
        split at read
        · exact (Leaves.suffix read).trans shorter
        · exact (Leaves.suffix read).trans shorter

instance components_leaves : Leaves (components rules) := by
  unfold components
  infer_instance

instance testedPattern_leaves : Leaves (testedPattern rules) where
  suffix read := by
    unfold testedPattern at read
    split at read
    · cases read
    · next annotated =>
      split at read
      · cases read
      · next typed =>
        have shorter := (LeavesAfter.suffix typed).trans (Leaves.suffix annotated)
        split at read
        · exact (Leaves.suffix read).trans shorter
        · exact (Leaves.suffix read).trans shorter

theorem labelPattern_suffix {tokens rest : Tokens} (ahead : labelPattern? rules tokens = some rest) :
    rest <:+ tokens := by
  unfold labelPattern? at ahead
  split at ahead
  · cases ahead
  · next left typed =>
    have shorter := typeAhead_suffix typed
    split at ahead
    · cases ahead
      exact (next_suffix left).trans shorter
    · split at ahead
      · split at ahead
        · next apart =>
          split at ahead
          · cases ahead
            exact (tried_suffix apart).trans shorter
          · cases ahead
        · cases ahead
      · cases ahead

end Patterns

end SpringSkeleton.Java.Grammar
