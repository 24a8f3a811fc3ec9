import SpringSkeleton.Proofs.Java.Leaving.Types

namespace SpringSkeleton.Java.Grammar

variable {rule : Rule} {rules : Rules}

section Expressions
variable [AllLeave rules]

instance textEnd_leaves : Leaves textEnd where
  suffix read := by
    unfold textEnd at read
    split at read
    · cases read
      exact List.suffix_cons _ _
    · cases read

instance interruptedText_leaves : Leaves (interruptedText rules) := by
  unfold interruptedText
  infer_instance

instance anyText_leaves : Leaves (anyText rules) := by
  unfold anyText
  infer_instance

instance arguments_leaves : Leaves (arguments rules) := by
  unfold arguments
  infer_instance

instance optionalTypeArguments_leaves : Leaves (optionalTypeArguments rules) := by
  unfold optionalTypeArguments
  infer_instance

instance createdType_leaves : Leaves (createdType rules) := by
  unfold createdType
  infer_instance

instance createdObject_leaves : Leaves (createdObject rules) := by
  unfold createdObject
  infer_instance

instance sizedDimension_leaves : Leaves (sizedDimension rules) := by
  unfold sizedDimension
  infer_instance

instance bracedValues_leaves : Leaves (bracedValues rules) := by
  unfold bracedValues
  infer_instance

instance createdArray_leaves : Leaves (createdArray rules) := by
  unfold createdArray
  infer_instance

instance creation_leaves : Leaves (creation rules) where
  suffix read := by
    unfold creation at read
    split at read
    · cases read
    · next created =>
      have shorter := Leaves.suffix created
      split at read
      · exact (Leaves.suffix read).trans shorter
      · exact (Leaves.suffix read).trans shorter

instance referenceTarget_leaves : Leaves (referenceTarget rules) := by
  unfold referenceTarget
  infer_instance

instance calledName_leaves : LeavesAfter (calledName rules) where
  suffix read := by
    unfold calledName at read
    split at read
    · cases read
    · next named =>
      split at read
      · exact ((LeavesAfter.withValue _).suffix read).trans (Leaves.suffix named)
      · cases read
        exact Leaves.suffix named

instance inheritedMember_leaves : LeavesAfter (inheritedMember rules) where
  suffix read := by
    unfold inheritedMember at read
    split at read
    · cases read
    · next outer =>
      have shorter := Leaves.suffix outer
      split at read
      · exact ((LeavesAfter.withValue _).suffix read).trans shorter
      · exact (LeavesAfter.suffix read).trans shorter

instance selected_leaves (form : OperandForm) : LeavesAfter (selected rules form) where
  suffix {tokens _ _} read := by
    have withOther (rule : Rule) [Leaves rule] : LeavesAfter fun tokens =>
      (rule tokens).map fun rest => (OperandForm.other, rest) := LeavesAfter.withValue _
    unfold selected at read
    split at read
    · exact (withOther _).suffix read
    · split at read
      · exact (withOther _).suffix read
      · split at read
        · split at read
          · cases read
            exact next_suffix tokens
          · cases read
        · split at read
          · exact ((withOther _).suffix read).trans (next_suffix tokens)
          · split at read
            · split at read
              · cases read
              · next outer => exact (LeavesAfter.suffix read).trans (Leaves.suffix outer)
            · split at read
              · cases read
                exact next_suffix tokens
              · exact LeavesAfter.suffix read

instance selectors_leaves (bound : Nat) (form : OperandForm) : LeavesAfter (selectors rules bound form) where
  suffix {tokens rest found} read := by
    induction bound generalizing tokens form with
    | zero =>
      cases read
      exact List.suffix_rfl
    | succ bound ih =>
      unfold selectors at read
      split at read
      · split at read
        · cases read
          exact List.suffix_rfl
        · split at read
          · cases read
          · next chosen => exact (ih _ read).trans ((LeavesAfter.suffix chosen).trans (next_suffix tokens))
      · split at read
        · split at read
          · cases read
          · next indexed => exact (ih _ read).trans (Leaves.suffix indexed)
        · split at read
          · split at read
            · cases read
            · next referred => exact (ih _ read).trans (Leaves.suffix referred)
          · cases read
            exact List.suffix_rfl

instance typeUse_leaves : Leaves (typeUse rules) := by
  unfold typeUse
  infer_instance

theorem usedTypeAhead_suffix {tokens rest : Tokens} (ahead : usedTypeAhead? rules tokens = some rest) :
    rest <:+ tokens := by
  unfold usedTypeAhead? at ahead
  split at ahead
  · next typed =>
    split at ahead
    · cases ahead
      exact typeAhead_suffix typed
    · cases ahead
  · cases ahead

instance namedOperand_leaves : LeavesAfter (namedOperand rules) where
  suffix read := by
    unfold namedOperand at read
    split at read
    · next typed => exact ((LeavesAfter.withValue _).suffix read).trans (usedTypeAhead_suffix typed)
    · split at read
      · cases read
      · next called =>
        cases read
        exact LeavesAfter.suffix called
      · next called =>
        cases read
        exact LeavesAfter.suffix called

instance superOperand_leaves : LeavesAfter (superOperand rules) where
  suffix read := by
    unfold superOperand at read
    split at read
    · exact (LeavesAfter.withValue _).suffix read
    · split at read
      · cases read
      · next dot => exact (LeavesAfter.suffix read).trans (Leaves.suffix dot)

instance wordOperand_leaves (word : Word) : LeavesAfter (wordOperand rules word) where
  suffix {tokens _ _} read := by
    unfold wordOperand at read
    split at read
    · exact (LeavesAfter.withValue _).suffix read
    · split at read
      · exact ((LeavesAfter.withValue _).suffix read).trans (next_suffix tokens)
      · exact (LeavesAfter.suffix read).trans (next_suffix tokens)
      all_goals first | exact LeavesAfter.suffix read | (cases read; exact next_suffix tokens)

instance bareOperand_leaves : LeavesAfter (bareOperand rules) where
  suffix {tokens _ _} read := by
    unfold bareOperand at read
    split at read
    · exact LeavesAfter.suffix read
    · split at read
      · cases read
        exact next_suffix tokens
      · split at read
        · exact (LeavesAfter.withValue _).suffix read
        · split at read
          · exact (LeavesAfter.withValue _).suffix read
          · split at read
            · exact (LeavesAfter.withValue _).suffix read
            · split at read
              · cases read
                exact next_suffix tokens
              · cases read

instance operand_leaves : LeavesAfter (operand rules) where
  suffix read := by
    unfold operand at read
    split at read
    · cases read
    · next form rest bare =>
      exact ((selectors_leaves rest.length form).suffix read).trans (LeavesAfter.suffix bare)

instance lambdaParameters_leaves : Leaves (lambdaParameters rules) := by
  unfold lambdaParameters
  infer_instance

instance lambda_leaves (arrows : Bool) : Leaves (lambda rules arrows) where
  suffix read := by
    unfold lambda at read
    split at read
    · cases read
    · next head =>
      have shorter := Leaves.suffix head
      split at read
      · exact (Leaves.suffix read).trans shorter
      · exact (Leaves.suffix read).trans shorter

instance castTypes_leaves : Leaves (castTypes rules) := by
  unfold castTypes
  infer_instance

theorem castAhead_suffix {tokens rest : Tokens} (ahead : castAhead? rules tokens = some rest) :
    rest <:+ tokens := by
  unfold castAhead? at ahead
  split at ahead
  · split at ahead
    · cases ahead
    · next left types =>
      have shorter := (tried_suffix types).trans (next_suffix tokens)
      simp only at ahead
      split at ahead
      · cases ahead
        exact (next_suffix left).trans shorter
      · cases ahead
  · cases ahead

theorem angleOperator_suffix {tokens : Tokens} {found : AngleOperator}
    (ahead : angleOperator? tokens = some found) :
    match found with
    | .binary rest => rest <:+ tokens
    | .assignment rest => rest <:+ tokens := by
  unfold angleOperator? at ahead
  split at ahead
  · cases ahead
    exact List.suffix_append [_, _, _, _] _
  · cases ahead
    exact List.suffix_append [_, _, _] _
  · cases ahead
    exact List.suffix_append [_, _] _
  · cases ahead
    exact List.suffix_append [_, _, _] _
  · cases ahead
    exact List.suffix_append [_, _] _
  · cases ahead
    exact List.suffix_append [_] _
  · cases ahead

theorem pastBinary_suffix {tokens rest : Tokens} (ahead : pastBinary? tokens = some rest) :
    rest <:+ tokens := by
  unfold pastBinary? at ahead
  split at ahead
  · next found =>
    cases ahead
    exact angleOperator_suffix found
  · cases ahead
  · split at ahead
    · cases ahead
      exact next_suffix tokens
    · cases ahead

theorem pastAssignment_suffix {tokens rest : Tokens} (ahead : pastAssignment? tokens = some rest) :
    rest <:+ tokens := by
  unfold pastAssignment? at ahead
  split at ahead
  · next found =>
    cases ahead
    exact angleOperator_suffix found
  · cases ahead
  · split at ahead
    · cases ahead
      exact next_suffix tokens
    · cases ahead

instance continuation_leaves (arrows : Bool) (bound : Nat) (form : OperandForm) :
    Leaves (continuation rules arrows bound form) where
  suffix {tokens rest} read := by
    induction bound generalizing tokens form with
    | zero => exact Leaves.same.suffix read
    | succ bound ih =>
      unfold continuation at read
      split at read
      · exact (ih _ read).trans (next_suffix tokens)
      · split at read
        · split at read
          · cases read
          · next tested => exact (ih _ read).trans ((Leaves.suffix tested).trans (next_suffix tokens))
        · split at read
          · exact Leaves.suffix read
          · split at read
            · next operator => exact (Leaves.suffix read).trans (pastBinary_suffix operator)
            · split at read
              · next operator =>
                split at read
                · exact Leaves.same.suffix read
                · exact (Leaves.suffix read).trans (pastAssignment_suffix operator)
              · exact Leaves.same.suffix read

instance continued_leaves (arrows : Bool) (form : OperandForm) : Leaves (continued rules arrows form) where
  suffix {tokens _} read := (continuation_leaves arrows tokens.length form).suffix read

end Expressions

section Switches
variable [AllLeave rules]

instance bracketed_leaves : Leaves (bracketed rules) := by
  unfold bracketed
  infer_instance

instance ended_leaves [Leaves rule] : Leaves (ended rule) := by
  unfold ended
  infer_instance

instance expressionStatement_leaves : Leaves (expressionStatement rules) := by
  unfold expressionStatement
  infer_instance

instance throwStatement_leaves : Leaves (throwStatement rules) := by
  unfold throwStatement
  infer_instance

instance labelGuard_leaves : Leaves (labelGuard rules) := by
  unfold labelGuard
  infer_instance

instance labelItems_leaves : Leaves (labelItems rules) where
  suffix read := by
    unfold labelItems at read
    split at read
    · next typed =>
      cases read
      exact labelPattern_suffix typed
    · exact Leaves.suffix read

instance label_leaves : Leaves (label rules) := by
  unfold label
  infer_instance

instance labelledResult_leaves : Leaves (labelledResult rules) := by
  unfold labelledResult
  infer_instance

instance switchRule_leaves : Leaves (switchRule rules) := by
  unfold switchRule
  infer_instance

instance switchStep_leaves : Leaves (switchStep rules) := by
  unfold switchStep
  infer_instance

instance switchItems_leaves : Leaves (switchItems rules) where
  suffix read := by
    unfold switchItems at read
    split at read
    · exact Leaves.same.suffix read
    · split at read
      · cases read
      · next labelled =>
        split at read
        · exact Leaves.suffix read
        · exact (Leaves.suffix read).trans (Leaves.suffix labelled)

instance switch_leaves : Leaves (switch rules) := by
  unfold switch
  infer_instance

instance expression_leaves (arrows : Bool) : Leaves (expression rules arrows) where
  suffix {tokens _} read := by
    unfold expression at read
    split at read
    · exact (Leaves.suffix read).trans (next_suffix tokens)
    · split at read
      · exact Leaves.suffix read
      · split at read
        · exact Leaves.suffix read
        · split at read
          · next cast => exact (Leaves.suffix read).trans (castAhead_suffix cast)
          · split at read
            · cases read
            · next first => exact (Leaves.suffix read).trans (LeavesAfter.suffix first)

end Switches

end SpringSkeleton.Java.Grammar
