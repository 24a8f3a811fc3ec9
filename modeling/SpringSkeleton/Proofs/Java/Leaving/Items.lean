import SpringSkeleton.Proofs.Java.Leaving.Expressions

namespace SpringSkeleton.Java.Grammar

variable {rule : Rule} {rules : Rules}

section Statements
variable [AllLeave rules]

instance block_leaves : Leaves (block rules) := by
  unfold block
  infer_instance

instance ifStatement_leaves : Leaves (ifStatement rules) := by
  unfold ifStatement
  infer_instance

instance whileStatement_leaves : Leaves (whileStatement rules) := by
  unfold whileStatement
  infer_instance

instance doStatement_leaves : Leaves (doStatement rules) := by
  unfold doStatement
  infer_instance

instance declaratorsEnded_leaves : Leaves (declaratorsEnded rules) := by
  unfold declaratorsEnded
  infer_instance

instance forTail_leaves : Leaves (forTail rules) := by
  unfold forTail
  infer_instance

instance forEachTail_leaves : Leaves (forEachTail rules) := by
  unfold forEachTail
  infer_instance

instance forVariable_leaves : Leaves (forVariable rules) where
  suffix read := by
    unfold forVariable at read
    split at read
    · cases read
    · next named =>
      split at read
      · exact (Leaves.suffix read).trans (LeavesAfter.suffix named)
      · exact Leaves.suffix read

instance forHead_leaves : Leaves (forHead rules) where
  suffix read := by
    unfold forHead at read
    split at read
    · exact Leaves.suffix read
    · split at read
      · next typed => exact (Leaves.suffix read).trans (declaredAhead_suffix typed)
      · exact Leaves.suffix read

instance forStatement_leaves : Leaves (forStatement rules) := by
  unfold forStatement
  infer_instance

instance assertStatement_leaves : Leaves (assertStatement rules) := by
  unfold assertStatement
  infer_instance

instance jumpStatement_leaves : Leaves jumpStatement := by
  unfold jumpStatement
  infer_instance

instance returnStatement_leaves : Leaves (returnStatement rules) where
  suffix {tokens _} read := by
    unfold returnStatement at read
    split at read
    · exact (Leaves.past.suffix read).trans (next_suffix tokens)
    · exact Leaves.suffix read

instance yieldStatement_leaves : Leaves (yieldStatement rules) := by
  unfold yieldStatement
  infer_instance

instance synchronizedStatement_leaves : Leaves (synchronizedStatement rules) := by
  unfold synchronizedStatement
  infer_instance

instance switchStatement_leaves : Leaves (switchStatement rules) where
  suffix read := by
    unfold switchStatement at read
    split at read
    · cases read
    · next switched =>
      have shorter := Leaves.suffix switched
      split at read
      · cases read
        exact shorter
      · split at read
        · cases read
        · next after =>
          split at read
          · cases read
            exact shorter
          · exact (Leaves.suffix read).trans ((Leaves.suffix after).trans shorter)

instance caughtTypes_leaves : Leaves (caughtTypes rules) := by
  unfold caughtTypes
  infer_instance

instance catchClause_leaves : Leaves (catchClause rules) := by
  unfold catchClause
  infer_instance

instance finallyClause_leaves : Leaves (finallyClause rules) := by
  unfold finallyClause
  infer_instance

instance tryEnd_leaves : Leaves (tryEnd rules) := by
  unfold tryEnd
  infer_instance

instance declaredResource_leaves : Leaves (declaredResource rules) := by
  unfold declaredResource
  infer_instance

instance resource_leaves : Leaves (resource rules) where
  suffix read := by
    unfold resource at read
    split at read
    · exact Leaves.suffix read
    · split at read
      · next typed => exact (Leaves.suffix read).trans (declaredAhead_suffix typed)
      · split at read
        · cases read
        · next first =>
          split at read
          · cases read
            exact LeavesAfter.suffix first
          · cases read

instance resourceStep_leaves : Leaves (resourceStep rules) := by
  unfold resourceStep
  infer_instance

instance resources_leaves : Leaves (resources rules) := by
  unfold resources
  infer_instance

instance tryStatement_leaves : Leaves (tryStatement rules) where
  suffix read := by
    unfold tryStatement at read
    split at read
    · exact Leaves.suffix read
    · split at read
      · cases read
      · next tried =>
        split at read
        · exact (Leaves.suffix read).trans (Leaves.suffix tried)
        · cases read

instance importDeclaration_leaves : Leaves importDeclaration := by
  unfold importDeclaration
  infer_instance

instance packageName_leaves : LeavesAfter packageName where
  suffix read := by
    unfold packageName at read
    split at read
    · cases read
    · next keyed =>
      split at read
      · cases read
      · next named =>
        have ended := (LeavesAfter.withValue _).suffix read
        exact ended.trans ((LeavesAfter.suffix named).trans (Leaves.suffix keyed))

instance packageDeclaration_leaves : Leaves packageDeclaration := by
  unfold packageDeclaration
  infer_instance

instance directiveTargets_leaves (word : String) : Leaves (directiveTargets word) := by
  unfold directiveTargets
  infer_instance

instance directive_leaves : Leaves directive where
  suffix {tokens _} read := by
    unfold directive at read
    split at read
    · cases read
    · split at read
      all_goals first | exact (Leaves.suffix read).trans (next_suffix tokens) | cases read

instance moduleDeclaration_leaves : Leaves moduleDeclaration := by
  unfold moduleDeclaration
  infer_instance

instance afterModifiers_leaves (found : Modifiers) : Leaves (afterModifiers rules found) := by
  unfold afterModifiers
  infer_instance

instance modifiedStatement_leaves : Leaves (modifiedStatement rules) where
  suffix read := by
    unfold modifiedStatement at read
    split at read
    · cases read
    · next modified => exact (Leaves.suffix read).trans (LeavesAfter.suffix modified)

instance plainStatement_leaves : Leaves (plainStatement rules) where
  suffix {tokens _} read := by
    unfold plainStatement at read
    split at read
    · exact (Leaves.suffix read).trans ((next_suffix _).trans (next_suffix tokens))
    · split at read
      · next typed => exact (Leaves.suffix read).trans (declaredAhead_suffix typed)
      · exact Leaves.suffix read

instance wordStatement_leaves (word : Word) : Leaves (wordStatement rules word) where
  suffix read := by
    unfold wordStatement at read
    split at read
    all_goals first | exact Leaves.suffix read | skip
    split at read
    · exact Leaves.suffix read
    · split at read
      · exact Leaves.suffix read
      · exact Leaves.suffix read

instance statement_leaves : Leaves (statement rules) where
  suffix {tokens _} read := by
    unfold statement at read
    split at read
    · exact Leaves.suffix read
    · split at read
      · exact Leaves.suffix read
      · split at read
        · exact Leaves.suffix read
        · split at read
          · exact Leaves.past.suffix read
          · split at read
            · exact Leaves.suffix read
            · exact Leaves.suffix read

end Statements

section Declarations
variable [AllLeave rules]

instance typeList_leaves : Leaves (typeList rules) := by
  unfold typeList
  infer_instance

instance clause_leaves (word : String) : Leaves (clause rules word) := by
  unfold clause
  infer_instance

instance throwsClause_leaves : Leaves (throwsClause rules) := by
  unfold throwsClause
  infer_instance

instance methodEnd_leaves : Leaves (methodEnd rules) := by
  unfold methodEnd
  infer_instance

instance methodTail_leaves : Leaves (methodTail rules) := by
  unfold methodTail
  infer_instance

instance ownConstructorCall_leaves : Leaves (ownConstructorCall rules) := by
  unfold ownConstructorCall
  infer_instance

instance outerConstructorCall_leaves : Leaves (outerConstructorCall rules) where
  suffix read := by
    unfold outerConstructorCall at read
    split at read
    · cases read
    · next first => exact (Leaves.suffix read).trans (LeavesAfter.suffix first)

instance constructorCall_leaves : Leaves (constructorCall rules) where
  suffix read := by
    unfold constructorCall at read
    split at read
    · exact Leaves.suffix read
    · split at read
      · next called =>
        cases read
        exact tried_suffix called
      · exact Leaves.same.suffix read

instance constructorBody_leaves : Leaves (constructorBody rules) := by
  unfold constructorBody
  infer_instance

instance constructorTail_leaves : Leaves (constructorTail rules) := by
  unfold constructorTail
  infer_instance

instance typedMember_leaves (found : Modifiers) : LeavesAfter (typedMember rules found) where
  suffix read := by
    unfold typedMember at read
    split at read
    · cases read
    · next typed =>
      have shorter := LeavesAfter.suffix typed
      split at read
      · split at read
        · cases read
        · next named =>
          have tail := (LeavesAfter.withValue _).suffix read
          exact tail.trans ((LeavesAfter.suffix named).trans shorter)
      · split at read
        · cases read
        · next declared =>
          have tail := (LeavesAfter.withValue _).suffix read
          exact tail.trans ((LeavesAfter.suffix declared).trans shorter)

instance genericMember_leaves (found : Modifiers) : LeavesAfter (genericMember rules found) where
  suffix read := by
    unfold genericMember at read
    split at read
    · cases read
    · next rest parameters =>
      have shorter := Leaves.suffix parameters
      split at read
      · have tail := (LeavesAfter.withValue _).suffix read
        exact tail.trans ((next_suffix rest).trans shorter)
      · split at read
        · cases read
        · next typed =>
          split at read
          · cases read
          · next named =>
            have tail := (LeavesAfter.withValue _).suffix read
            exact tail.trans ((LeavesAfter.suffix named).trans ((Leaves.suffix typed).trans shorter))

instance asOther_leaves [Leaves rule] : LeavesAfter (asOther rule) := LeavesAfter.withValue _

instance modifiedMember_leaves (found : Modifiers) : LeavesAfter (modifiedMember rules found) where
  suffix {tokens _ _} read := by
    unfold modifiedMember at read
    split at read
    · exact LeavesAfter.suffix read
    · split at read
      · exact LeavesAfter.suffix read
      · split at read
        · exact LeavesAfter.suffix read
        · split at read
          · exact (LeavesAfter.suffix read).trans (next_suffix tokens)
          · split at read
            · exact (LeavesAfter.suffix read).trans (next_suffix tokens)
            · exact LeavesAfter.suffix read

instance member_leaves : LeavesAfter (member rules) where
  suffix {tokens _ _} read := by
    unfold member at read
    split at read
    · cases read
      exact next_suffix tokens
    · split at read
      · exact LeavesAfter.suffix read
      · split at read
        · cases read
        · next modified => exact (LeavesAfter.suffix read).trans (LeavesAfter.suffix modified)

instance skipMember_leaves : Leaves (skipMember rules) := by
  unfold skipMember
  infer_instance

instance members_leaves : LeavesAfter (members rules) := by
  unfold members
  infer_instance

instance classBody_leaves : LeavesAfter (classBody rules) where
  suffix read := by
    unfold classBody at read
    split at read
    · cases read
    · next opened =>
      split at read
      · cases read
      · next found =>
        have closed := (LeavesAfter.withValue _).suffix read
        exact closed.trans ((LeavesAfter.suffix found).trans (Leaves.suffix opened))

instance body_leaves : Leaves (body rules) := by
  unfold body
  infer_instance

instance superclass_leaves : Leaves (superclass rules) := by
  unfold superclass
  infer_instance

instance classHead_leaves : Leaves (classHead rules) := by
  unfold classHead
  infer_instance

instance classDeclaration_leaves (found : Modifiers) : LeavesAfter (classDeclaration rules found) where
  suffix read := by
    unfold classDeclaration at read
    split at read
    · cases read
    · next keyed =>
      split at read
      · cases read
      · next named =>
        split at read
        · cases read
        · next headed =>
          obtain ⟨_, body, same⟩ := map_ok read
          cases same
          have head := (Leaves.suffix headed).trans ((LeavesAfter.suffix named).trans (Leaves.suffix keyed))
          exact (LeavesAfter.suffix body).trans head

instance skipClassDeclaration_leaves : Leaves (skipClassDeclaration rules) := by
  unfold skipClassDeclaration
  infer_instance

instance recordDeclaration_leaves : Leaves (recordDeclaration rules) := by
  unfold recordDeclaration
  infer_instance

instance interfaceMember_leaves : Leaves (interfaceMember rules) where
  suffix {tokens _} read := by
    unfold interfaceMember at read
    split at read
    · exact Leaves.past.suffix read
    · split at read
      · cases read
      · next found _ modified =>
        have shorter := LeavesAfter.suffix modified
        split at read
        · exact (Leaves.suffix read).trans shorter
        · split at read
          · exact (Leaves.suffix read).trans shorter
          · have skipped : Leaves fun tokens => (typedMember rules found tokens).map Prod.snd := Leaves.skip
            exact (skipped.suffix read).trans shorter

instance interfaceDeclaration_leaves : Leaves (interfaceDeclaration rules) := by
  unfold interfaceDeclaration
  infer_instance

instance enumConstant_leaves : Leaves (enumConstant rules) := by
  unfold enumConstant
  infer_instance

instance enumConstantSteps_leaves (bound : Nat) : Leaves (enumConstantSteps rules bound) where
  suffix {tokens rest} read := by
    induction bound generalizing tokens with
    | zero => exact Leaves.same.suffix read
    | succ bound ih =>
      unfold enumConstantSteps at read
      split at read
      · exact Leaves.same.suffix read
      · split at read
        · cases read
        · next left constant =>
          have shorter := Leaves.suffix constant
          split at read
          · exact (ih read).trans ((next_suffix left).trans shorter)
          · cases read
            exact shorter

instance enumConstants_leaves : Leaves (enumConstants rules) where
  suffix {tokens _} read := by
    unfold enumConstants at read
    split at read
    · exact Leaves.past.suffix read
    · exact (enumConstantSteps_leaves tokens.length).suffix read

instance enumBody_leaves : Leaves (enumBody rules) := by
  unfold enumBody
  infer_instance

instance enumDeclaration_leaves : Leaves (enumDeclaration rules) := by
  unfold enumDeclaration
  infer_instance

instance elementDefault_leaves : Leaves (elementDefault rules) := by
  unfold elementDefault
  infer_instance

instance elementTail_leaves : Leaves (elementTail rules) := by
  unfold elementTail
  infer_instance

instance annotationMember_leaves : Leaves (annotationMember rules) where
  suffix {tokens _} read := by
    unfold annotationMember at read
    split at read
    · exact Leaves.past.suffix read
    · split at read
      · cases read
      · next modified =>
        have shorter := LeavesAfter.suffix modified
        split at read
        · exact (Leaves.suffix read).trans shorter
        · split at read
          · cases read
          · next typed =>
            have further := (Leaves.suffix typed).trans shorter
            split at read
            · exact (Leaves.suffix read).trans further
            · exact (Leaves.suffix read).trans further

instance annotationDeclaration_leaves : Leaves (annotationDeclaration rules) := by
  unfold annotationDeclaration
  infer_instance

instance declaration_leaves : Leaves (declaration rules) := by
  unfold declaration
  infer_instance

end Declarations

section Levels

instance empty_allLeave : AllLeave Rules.empty where
  annotationUse := stuck_leaves
  type := stuck_leaves
  value := stuck_leaves
  initializer := stuck_leaves
  pattern := stuck_leaves
  expression _ := stuck_leaves
  block := stuck_leaves
  statement := stuck_leaves
  declaration := stuck_leaves
  body := stuck_leaves

instance deeper_allLeave [AllLeave rules] : AllLeave (deeper rules) where
  annotationUse := Leaves.skip
  type := type_leaves
  value := value_leaves
  initializer := initializer_leaves
  pattern := components_leaves
  expression arrows := expression_leaves arrows
  block := block_leaves
  statement := statement_leaves
  declaration := declaration_leaves
  body := body_leaves

instance rulesTo_allLeave (depth : Nat) : AllLeave (rulesTo depth) := by
  induction depth with
  | zero => exact empty_allLeave
  | succ depth _ =>
    show AllLeave (deeper (rulesTo depth))
    infer_instance

end Levels

section Items
variable [AllLeave rules]

instance itemOther_leaves [Leaves rule] : LeavesAfter (itemOther rule) := LeavesAfter.withValue _

instance itemClass_leaves (found : Modifiers) : LeavesAfter (itemClass rules found) where
  suffix read := by
    obtain ⟨_, declared, same⟩ := map_ok read
    cases same
    exact LeavesAfter.suffix declared

instance itemPackage_leaves : LeavesAfter itemPackage where
  suffix read := by
    obtain ⟨_, named, same⟩ := map_ok read
    cases same
    exact LeavesAfter.suffix named

instance methodAfterType_leaves : Leaves (methodAfterType rules) := by
  unfold methodAfterType
  infer_instance

instance genericMethod_leaves : Leaves (genericMethod rules) := by
  unfold genericMethod
  infer_instance

instance modifiedItem_leaves (found : Modifiers) : LeavesAfter (modifiedItem rules found) where
  suffix read := by
    unfold modifiedItem at read
    split at read
    · exact LeavesAfter.suffix read
    · split at read
      · exact LeavesAfter.suffix read
      · split at read
        · exact LeavesAfter.suffix read
        · split at read
          · next typed =>
            split at read
            · exact (LeavesAfter.suffix read).trans (tried_suffix typed)
            · exact LeavesAfter.suffix read
          · exact LeavesAfter.suffix read

-- Every item of a source is read off the beginning of what is left of its tokens.
instance item_leaves : LeavesAfter (item rules) where
  suffix read := by
    unfold item at read
    split at read
    · split at read
      · cases read
      · next modified => exact (LeavesAfter.suffix read).trans (LeavesAfter.suffix modified)
    · split at read
      · exact LeavesAfter.suffix read
      · split at read
        · exact LeavesAfter.suffix read
        · split at read
          · exact LeavesAfter.suffix read
          · split at read
            · next typed =>
              split at read
              · exact (LeavesAfter.suffix read).trans (declaredAhead_suffix typed)
              · exact LeavesAfter.suffix read
            · exact LeavesAfter.suffix read

end Items
end SpringSkeleton.Java.Grammar
