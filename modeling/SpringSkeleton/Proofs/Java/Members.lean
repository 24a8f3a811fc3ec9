import SpringSkeleton.Proofs.Java.Reading

namespace SpringSkeleton.Java.Grammar
variable {rules : Rules} {tokens rest left tail : Tokens} {word type name : Word} {words : List Word}
variable {modifiers : Modifiers}

section Modified

theorem modifierSteps_stop (stop : startsModifier tokens = false) (bound : Nat) :
    modifierSteps rules bound tokens = .ok (.none, tokens) := by
  cases bound with
  | zero => rfl
  | succ bound =>
    simp only [startsModifier, Bool.or_eq_false_iff] at stop
    simp only [modifierSteps, stop, Bool.false_eq_true, if_false]

theorem modifierSteps_words (known : ∀ word ∈ words, word.text ∈ modifierWords)
    (stop : startsModifier rest = false) {bound : Nat} (enough : words.length ≤ bound) :
    modifierSteps rules bound (words.map .word ++ rest) = .ok (⟨[], words.map (·.text)⟩, rest) := by
  induction words generalizing bound with
  | nil => exact modifierSteps_stop stop bound
  | cons word others ih =>
    obtain ⟨first, tail⟩ := List.forall_mem_cons.mp known
    obtain ⟨bound, rfl⟩ : ∃ less, bound = less + 1 :=
      ⟨bound - 1, by rw [List.length_cons] at enough; omega⟩
    have here : isWordOf modifierWords (.word word :: (others.map .word ++ rest)) = true := by
      simpa [isWordOf] using first
    have more := ih tail (Nat.le_of_succ_le_succ enough)
    simp only [List.map_cons, List.cons_append, modifierSteps, here, if_true, Grammar.word, word?,
      next_cons, more]
    rfl

theorem modifiers_words (known : ∀ word ∈ words, word.text ∈ modifierWords)
    (stop : startsModifier rest = false) :
    Grammar.modifiers rules (words.map .word ++ rest) = .ok (⟨[], words.map (·.text)⟩, rest) :=
  modifierSteps_words known stop (by simp)

theorem skipModifiers_plain (plain : word.Plain) (rules : Rules) (rest : Tokens) :
    skipModifiers rules (.word word :: rest) = .ok (.word word :: rest) := by
  rw [skipModifiers, Grammar.modifiers, modifierSteps_stop (startsModifier_plain plain rest)]
  rfl

-- A member that begins with words, of which the first may be modifiers.
theorem member_words (known : ∀ word ∈ words, word.text ∈ modifierWords) (plain : word.Plain)
    (rest : Tokens) : member rules (words.map .word ++ .word word :: rest) =
      modifiedMember rules ⟨[], words.map (·.text)⟩ (.word word :: rest) := by
  have found : Grammar.modifiers rules (words.map .word ++ .word word :: rest) =
      .ok (⟨[], words.map (·.text)⟩, .word word :: rest) :=
    modifiers_words known (startsModifier_plain plain rest)
  obtain ⟨first, others, begins⟩ : ∃ first others,
      words.map Token.word ++ .word word :: rest = .word first :: others := by
    cases words with
    | nil => exact ⟨_, _, rfl⟩
    | cons first others => exact ⟨_, _, rfl⟩
  rw [begins] at found ⊢
  simp only [member, isMark, Bool.false_eq_true, if_false, found]

-- After the modifiers comes a type, unless a bracket or a brace follows the word.
theorem modifiedMember_typed (plain : type.Plain) (called : isMark .openRound rest = false)
    (compact : isMark .openBrace rest = false) :
    modifiedMember rules modifiers (.word type :: rest) =
      typedMember rules modifiers (.word type :: rest) := by
  have less : isMark .less (.word type :: rest) = false := rfl
  have brace : isMark .openBrace (.word type :: rest) = false := rfl
  have notCalled : isCalled (.word type :: rest) = false := by
    rw [isCalled, next_cons, called, Bool.and_false]
  have notCompact : isCompact (.word type :: rest) = false := by
    rw [isCompact, next_cons, compact, Bool.and_false]
  simp only [modifiedMember, startsDeclaration_plain plain, less, brace, notCalled, notCompact,
    Bool.and_false, Bool.false_eq_true, if_false]

theorem modifiedMember_constructor (plain : word.Plain) (rest : Tokens) :
    modifiedMember rules modifiers (.word word :: .mark .openRound :: rest) =
      asOther (constructorTail rules) (.mark .openRound :: rest) := by
  have less : isMark .less (.word word :: .mark .openRound :: rest) = false := rfl
  have brace : isMark .openBrace (.word word :: .mark .openRound :: rest) = false := rfl
  have called : isCalled (.word word :: .mark .openRound :: rest) = true := rfl
  simp only [modifiedMember, startsDeclaration_plain plain, less, brace, called, Bool.and_false,
    Bool.false_eq_true, if_false, if_true, next_cons]

end Modified

section Fields

theorem declarators_bare (rules : Rules) (name : Word) (tail : Tokens) :
    declarators rules (.word name :: .mark .semicolon :: tail) =
      .ok ([name], .mark .semicolon :: tail) := rfl

-- A field whose type is one word; what follows its name is left to the declarators.
theorem member_field {names : List Word} (known : ∀ word ∈ words, word.text ∈ modifierWords)
    (plain : type.Plain) (called : isMark .openRound rest = false)
    (declared : declarators rules (.word name :: rest) = .ok (names, .mark .semicolon :: tail)) :
    member rules (words.map .word ++ .word type :: .word name :: rest) =
      .ok (.field ⟨⟨[], words.map (·.text)⟩, ⟨rest.length + 2, rest.length + 1⟩, names⟩, tail) := by
  have typed : spanOf (skipPlainType rules) (.word type :: .word name :: rest) =
      .ok (⟨rest.length + 2, rest.length + 1⟩, .word name :: rest) := by
    rw [spanOf, skipPlainType_before plain]
    rfl
  rw [member_words known plain, modifiedMember_typed plain rfl rfl, typedMember, typed]
  simp only [isCalled, next_cons, called, Bool.and_false, Bool.false_eq_true, if_false, declared,
    mark_mark, Except.map]

end Fields

section Parameters

def parameterTokens (parameter : Word × Word) : Tokens := [.word parameter.1, .word parameter.2]

theorem parameter_plain (plain : type.Plain) (first : Bool) (ends : isMark .comma rest = true ∨
    isMark .closeRound rest = true) :
    parameter rules first (.word type :: .word name :: rest) = .ok rest := by
  have named : parameterName rules first (.word name :: rest) = .ok rest := by
    obtain ⟨mark, after, rfl, which⟩ : ∃ mark after, rest = .mark mark :: after ∧
        (mark = .comma ∨ mark = .closeRound) := by
      rcases rest with _ | ⟨_ | mark, after⟩ <;> simp_all [isMark]
    rcases which with rfl | rfl <;> cases first <;> rfl
  rw [parameter, sequence_cons (skipModifiers_plain plain rules _),
    sequence_cons (skipPlainType_before plain rules name rest), sequence_cons named, sequence]

-- What follows a parameter: the others, each after a comma, and the closing bracket.
def laterParameters (others : List (Word × Word)) (rest : Tokens) : Tokens :=
  others.flatMap (fun other => .mark .comma :: parameterTokens other) ++ .mark .closeRound :: rest

theorem laterParameters_end (others : List (Word × Word)) (rest : Tokens) :
    isMark .comma (laterParameters others rest) = true ∨
      isMark .closeRound (laterParameters others rest) = true := by
  cases others with
  | nil => exact .inr rfl
  | cons => exact .inl rfl

theorem laterParameters_rounds {others : List (Word × Word)}
    (plain : ∀ parameter ∈ others, parameter.1.Plain) (rest : Tokens) :
    Rounds (isMark .comma) (sequence [mark .comma, parameter rules false]) others.length
      (laterParameters others rest) (.mark .closeRound :: rest) := by
  induction others with
  | nil => exact .done rfl
  | cons other later ih =>
    obtain ⟨first, more⟩ := List.forall_mem_cons.mp plain
    refine .round rfl ?_ (ih more)
    have read : parameter rules false
        (.word other.1 :: .word other.2 :: laterParameters later rest) =
          .ok (laterParameters later rest) :=
      parameter_plain first false (laterParameters_end later rest)
    show sequence [mark .comma, parameter rules false]
      (.mark .comma :: .word other.1 :: .word other.2 :: laterParameters later rest) = _
    rw [sequence_cons (mark_mark _ _), sequence_cons read, sequence]

-- One parameter or more, each a type of one word and a name.
theorem parameters_plain {first : Word × Word} {others : List (Word × Word)}
    (plain : ∀ parameter ∈ first :: others, parameter.1.Plain) (rest : Tokens) :
    parameters rules
        (.mark .openRound :: (parameterTokens first ++ laterParameters others rest)) = .ok rest := by
  obtain ⟨one, more⟩ := List.forall_mem_cons.mp plain
  have enough : others.length ≤ (laterParameters others rest).length := by
    clear plain more
    induction others with
    | nil => exact Nat.zero_le _
    | cons other later ih =>
      have whole : laterParameters (other :: later) rest =
        .mark .comma :: .word other.1 :: .word other.2 :: laterParameters later rest := rfl
      simp only [whole, List.length_cons]
      omega
  have read : parameter rules true
      (.word first.1 :: .word first.2 :: laterParameters others rest) =
        .ok (laterParameters others rest) :=
    parameter_plain one true (laterParameters_end others rest)
  have list : parameterList rules (parameterTokens first ++ laterParameters others rest) =
      .ok (.mark .closeRound :: rest) := by
    show sequence _ (.word first.1 :: .word first.2 :: laterParameters others rest) = _
    rw [sequence_cons read, sequence_cons (repeated_rounds (laterParameters_rounds more rest) enough),
      sequence]
  rw [parameters, between, sequence_cons (mark_mark _ _), sequence_cons list,
    sequence_cons (mark_mark _ _), sequence]

end Parameters

section Operands

-- What is no lambda, no switch and no cast is an operand with what continues it.
theorem expression_operand {form : OperandForm} (prefixed : startsPrefix tokens = false)
    (lambda : (startsShortLambda tokens || startsBracketLambda tokens) = false)
    (switch : isKeyword "switch" tokens = false) (cast : castAhead? rules tokens = none)
    (read : operand rules tokens = .ok (form, rest)) :
    expression rules true tokens = continued rules true form rest := by
  simp only [expression, prefixed, lambda, switch, cast, read, Bool.and_false, Bool.false_eq_true,
    if_false]

theorem declaredAhead_typed {form : TypeForm} (ahead : typeAhead? rules tokens = some (form, rest))
    (named : startsWord rest = true) (plain : isKeyword "instanceof" rest = false) :
    declaredAhead? rules tokens = some rest := by
  simp [declaredAhead?, ahead, named, plain]

theorem plainStatement_declared (unlabelled : isLabelled tokens = false)
    (ahead : declaredAhead? rules tokens = some rest) :
    plainStatement rules tokens = declaratorsEnded rules rest := by
  simp only [plainStatement, unlabelled, ahead, Bool.false_eq_true, if_false]

end Operands

section ClassLiterals

theorem wordOperand_plain (plain : word.Plain) (rules : Rules) (tokens : Tokens) :
    wordOperand rules word tokens = namedOperand rules tokens := by
  have primitive : primitiveTypes.contains word.text = false := by
    simp only [List.contains_eq_mem, decide_eq_false_iff_not]
    have known : ∀ text ∈ primitiveTypes, text ∈ grammarWords := by decide
    exact fun member => plain (known _ member)
  have other : ∀ text ∈ operandWords, word.text ≠ text := by
    have known : ∀ text ∈ operandWords, text ∈ grammarWords := by decide
    exact fun text member same => plain (same ▸ known text member)
  simp only [wordOperand, primitive, Bool.false_eq_true, if_false]
  split
  · exact absurd ‹_› (other "new" (by decide))
  · exact absurd ‹_› (other "super" (by decide))
  · exact absurd ‹_› (other "this" (by decide))
  · exact absurd ‹_› (other "true" (by decide))
  · exact absurd ‹_› (other "false" (by decide))
  · exact absurd ‹_› (other "null" (by decide))
  · rfl

-- The class of a type, as it is passed to a function: the tokens up to the closing bracket.
def literalTokens (word : Word) (rest : Tokens) : Tokens :=
  .word word :: .mark .dot :: .word (.of "class") :: .mark .closeRound :: rest

theorem expression_literal (plain : word.Plain) (depth : Nat) (rest : Tokens) :
    expression (rulesTo depth) true (literalTokens word rest) = .ok (.mark .closeRound :: rest) := by
  have type : plainType (rulesTo depth) (literalTokens word rest) =
      .ok (.simpleName, .mark .dot :: .word (.of "class") :: .mark .closeRound :: rest) :=
    plainType_plain plain _ rfl rfl rfl
  have typeless : isWordOf typelessWords (literalTokens word rest) = false :=
    isWordOf_plain plain (by decide) _
  have bare : bareOperand (rulesTo depth) (literalTokens word rest) =
      .ok (.name, .mark .dot :: .word (.of "class") :: .mark .closeRound :: rest) := by
    have operand : bareOperand (rulesTo depth) (literalTokens word rest) =
      wordOperand (rulesTo depth) word (literalTokens word rest) := rfl
    rw [operand, wordOperand_plain plain, namedOperand, usedTypeAhead?, typeAhead?, typeless, type]
    rfl
  have operand : Grammar.operand (rulesTo depth) (literalTokens word rest) =
      .ok (.other, .mark .closeRound :: rest) := by
    rw [Grammar.operand, bare]
    rfl
  have switch : isKeyword "switch" (literalTokens word rest) = false :=
    isKeyword_plain plain (by decide) _
  have lambda : startsShortLambda (literalTokens word rest) = false := by
    rw [startsShortLambda, literalTokens, next_cons]
    exact Bool.and_false _
  have prefixed : startsPrefix (literalTokens word rest) = false := rfl
  have bracketed : startsBracketLambda (literalTokens word rest) = false := rfl
  have cast : castAhead? (rulesTo depth) (literalTokens word rest) = none := rfl
  rw [expression_operand prefixed (by rw [lambda, bracketed]; rfl) switch cast operand]
  rfl

theorem arguments_literal (plain : word.Plain) (depth : Nat) (rest : Tokens) :
    arguments (rulesTo (depth + 1)) (.mark .openRound :: literalTokens word rest) = .ok rest := by
  have read : (rulesTo (depth + 1)).expression true (literalTokens word rest) =
      .ok (.mark .closeRound :: rest) := expression_literal plain depth rest
  have list : listedUpTo .closeRound ((rulesTo (depth + 1)).expression true) (literalTokens word rest) =
      .ok (.mark .closeRound :: rest) := by
    show listed _ (literalTokens word rest) = _
    rw [listed, sequence_cons read]
    rfl
  rw [arguments, between, sequence_cons (mark_mark _ _), sequence_cons list,
    sequence_cons (mark_mark _ _), sequence]

end ClassLiterals

section Bodies

-- A constructor: its parameters, and a body that is read as such.
theorem member_constructor (known : ∀ word ∈ words, word.text ∈ modifierWords) (plain : name.Plain)
    {first : Word × Word} {others : List (Word × Word)}
    (types : ∀ parameter ∈ first :: others, parameter.1.Plain)
    (body : constructorBody rules (.mark .openBrace :: rest) = .ok tail) :
    member rules (words.map .word ++ .word name :: .mark .openRound ::
      (parameterTokens first ++ laterParameters others (.mark .openBrace :: rest))) =
        .ok (.other, tail) := by
  have throws : throwsClause rules (.mark .openBrace :: rest) = .ok (.mark .openBrace :: rest) := rfl
  rw [member_words known plain, modifiedMember_constructor plain, asOther, constructorTail,
    sequence_cons (parameters_plain types _), sequence_cons throws, sequence_cons body]
  rfl

-- A method without parameters whose type is read as such.
theorem typedMember_method {form : TypeForm}
    (typed : plainType rules tokens = .ok (form, .word name :: .mark .openRound :: .mark .closeRound ::
      .mark .openBrace :: rest))
    (body : rules.block (.mark .openBrace :: rest) = .ok tail) :
    typedMember rules modifiers tokens = .ok (.method ⟨modifiers, name⟩, tail) := by
  have ending : methodTail rules (.mark .openRound :: .mark .closeRound :: .mark .openBrace :: rest) =
      .ok tail := by
    have none : parameters rules (.mark .openRound :: .mark .closeRound :: .mark .openBrace :: rest) =
      .ok (.mark .openBrace :: rest) := rfl
    have array : dimensions rules (.mark .openBrace :: rest) = .ok (.mark .openBrace :: rest) := rfl
    have throws : throwsClause rules (.mark .openBrace :: rest) = .ok (.mark .openBrace :: rest) := rfl
    have braced : methodEnd rules (.mark .openBrace :: rest) = .ok tail := body
    rw [methodTail, sequence_cons none, sequence_cons array, sequence_cons throws, sequence_cons braced,
      sequence]
  have spanned : spanOf (skipPlainType rules) tokens = .ok (⟨tokens.length, rest.length + 4⟩,
      .word name :: .mark .openRound :: .mark .closeRound :: .mark .openBrace :: rest) := by
    rw [spanOf, skipPlainType, typed]
    rfl
  have called : isCalled (.word name :: .mark .openRound :: .mark .closeRound :: .mark .openBrace :: rest) =
    true := rfl
  have named : Grammar.word (.word name :: .mark .openRound :: .mark .closeRound :: .mark .openBrace :: rest) =
    .ok (name, .mark .openRound :: .mark .closeRound :: .mark .openBrace :: rest) := rfl
  simp only [typedMember, spanned, called, if_true, named, ending, Except.map]

-- The same after an annotation and other modifiers.
theorem member_method {form : TypeForm} {ahead : Tokens}
    (modified : Grammar.modifiers rules (.mark .sign :: tokens) = .ok (modifiers, .word type :: ahead))
    (plain : type.Plain) (called : isMark .openRound ahead = false)
    (compact : isMark .openBrace ahead = false)
    (typed : plainType rules (.word type :: ahead) =
      .ok (form, .word name :: .mark .openRound :: .mark .closeRound :: .mark .openBrace :: rest))
    (body : rules.block (.mark .openBrace :: rest) = .ok tail) :
    member rules (.mark .sign :: tokens) = .ok (.method ⟨modifiers, name⟩, tail) := by
  have starts : isMark .semicolon (.mark .sign :: tokens) = false ∧
    isMark .openBrace (.mark .sign :: tokens) = false := ⟨rfl, rfl⟩
  simp only [member, starts, Bool.false_eq_true, if_false, modified]
  rw [modifiedMember_typed plain called compact]
  exact typedMember_method typed body

-- A block of statements that are read one after the other.
theorem block_rounds {count : Nat}
    (rounds : Rounds (fun tokens => !isMark .closeBrace tokens) rules.statement count tokens
      (.mark .closeBrace :: rest)) (enough : count ≤ tokens.length) :
    block rules (.mark .openBrace :: tokens) = .ok rest := by
  have all : repeatedTo .closeBrace rules.statement tokens = .ok (.mark .closeBrace :: rest) :=
    repeated_rounds rounds enough
  rw [block, between, sequence_cons (mark_mark _ _), sequence_cons all, sequence_cons (mark_mark _ _),
    sequence]

-- A class with no ancestors, and its members.
theorem classDeclaration_members {values : List Member}
    (members : Values (fun tokens => !isMark .closeBrace tokens) (member rules) values tokens
      (.mark .closeBrace :: rest)) (enough : values.length ≤ tokens.length) :
    classDeclaration rules modifiers
        (.word (.of "class") :: .word name :: .mark .openBrace :: tokens) =
      .ok (⟨modifiers, name, values⟩, rest) := by
  have named : Grammar.word (.word name :: .mark .openBrace :: tokens) =
    .ok (name, .mark .openBrace :: tokens) := rfl
  have head : classHead rules (.mark .openBrace :: tokens) = .ok (.mark .openBrace :: tokens) := rfl
  have body : classBody rules (.mark .openBrace :: tokens) = .ok (values, rest) := by
    have all : Grammar.members rules tokens = .ok (values, .mark .closeBrace :: rest) :=
      collect_values members enough
    simp only [classBody, mark_mark, all, Except.map]
  simp only [classDeclaration, keyword_of, named, head, body, Except.map]

-- A class at the top level that begins with an annotation.
theorem item_class {found : ClassDeclaration}
    (modified : Grammar.modifiers rules (.mark .sign :: tokens) =
      .ok (modifiers, .word (.of "class") :: rest))
    (declared : classDeclaration rules modifiers (.word (.of "class") :: rest) = .ok (found, tail)) :
    item rules (.mark .sign :: tokens) = .ok (.classItem found, tail) := by
  have starts : startsModified (.mark .sign :: tokens) = true := rfl
  have inner : modifiedItem rules modifiers (.word (.of "class") :: rest) =
    itemClass rules modifiers (.word (.of "class") :: rest) := rfl
  simp only [item, starts, if_true, modified, inner, itemClass, declared, Except.map]

end Bodies

section Items

-- Items one after the other, up to some tokens that are left.
inductive Items (rules : Rules) : List Item → Tokens → Tokens → Prop where
  | done (rest : Tokens) : Items rules [] rest rest
  | item {tokens rest left : Tokens} {found : Item} {others : List Item}
    (reads : item rules tokens = .ok (found, rest)) (shorter : rest.length < tokens.length)
    (later : Items rules others rest left) : Items rules (found :: others) tokens left

theorem itemSteps_items {found : List Item} (read : Items rules found tokens left) {bound : Nat}
    (enough : tokens.length ≤ bound) : ∃ less, left.length ≤ less ∧
      itemSteps rules bound tokens = (itemSteps rules less left).map (found ++ ·) := by
  induction read generalizing bound with
  | done rest =>
    refine ⟨bound, enough, ?_⟩
    cases itemSteps rules bound rest <;> rfl
  | @item tokens rest left found others reads shorter _ ih =>
    obtain ⟨bound, rfl⟩ : ∃ less, bound = less + 1 := ⟨bound - 1, by omega⟩
    obtain ⟨less, further, same⟩ := @ih bound (by omega)
    have some_ : tokens ≠ [] := List.ne_nil_of_length_pos (Nat.zero_lt_of_lt shorter)
    refine ⟨less, further, ?_⟩
    rw [itemSteps, reads]
    · simp only [same]
      cases itemSteps rules less left <;> rfl
    · exact some_

theorem items_read {found : List Item} (read : Items (rulesTo (depthOf tokens)) found tokens []) :
    items tokens = .ok found := by
  obtain ⟨less, _, same⟩ := itemSteps_items read (Nat.le_refl _)
  rw [items, same, itemSteps]
  exact congrArg Except.ok (List.append_nil found)

-- What cannot be read after some items makes the whole unreadable.
theorem items_failed {found : List Item} (read : Items (rulesTo (depthOf tokens)) found tokens left)
    (some_ : left ≠ []) (failed : ∃ place, item (rulesTo (depthOf tokens)) left = .error place) :
    ∃ place, items tokens = .error place := by
  obtain ⟨less, further, same⟩ := itemSteps_items read (Nat.le_refl _)
  obtain ⟨place, failed⟩ := failed
  have positive := List.length_pos_iff.mpr some_
  obtain ⟨less, rfl⟩ : ∃ fewer, less = fewer + 1 := ⟨less - 1, by omega⟩
  refine ⟨place, ?_⟩
  rw [items, same, itemSteps, failed]
  · rfl
  · exact some_

end Items

end SpringSkeleton.Java.Grammar
