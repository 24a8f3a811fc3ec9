import SpringSkeleton.Java.Program

namespace SpringSkeleton.Java

-- A text that is a word, known by itself: the check is made once for each text that is spelled out.
class Spelled (text : String) : Prop where
  valid : isWord text = true

-- A text that is written out is one of characters, which are checked without taking it apart.
theorem Spelled.ofChars {chars : List Char} (word : isWordChars chars = true) :
    Spelled (String.ofList chars) := ⟨by rwa [isWord, String.toList_ofList]⟩

instance Spelled.package : Spelled "package" := .ofChars (by decide)
instance Spelled.import_ : Spelled "import" := .ofChars (by decide)
instance Spelled.class_ : Spelled "class" := .ofChars (by decide)

def Word.of (text : String) [Spelled text] : Word := ⟨text, Spelled.valid⟩

-- All words that some rule used below names.
def grammarWords : List String :=
  modifierWords ++ primitiveTypes ++ halfReservedWords ++ operandWords ++ memberWords
    ++ Grammar.statementWords ++ ["instanceof"]

def Word.Plain (word : Word) : Prop := word.text ∉ grammarWords

namespace Grammar
variable {rules : Rules} {tokens rest left : Tokens} {word type name : Word}

theorem next_cons (token : Token) (rest : Tokens) : next (token :: rest) = rest := rfl

theorem anyWord_word (word : Word) (rest : Tokens) : anyWord (.word word :: rest) = .ok rest := rfl

theorem keyword_of (text : String) [Spelled text] (rest : Tokens) :
    keyword text (.word (.of text) :: rest) = .ok rest := by
  simp [keyword, isKeyword, Word.of, next]

@[simp] theorem mark_mark (mark : Mark) (rest : Tokens) :
    Grammar.mark mark (.mark mark :: rest) = .ok rest := by
  simp [Grammar.mark, isMark, next]

theorem sequence_cons {rule : Rule} (reads : rule tokens = .ok rest) (rules : List Rule) :
    sequence (rule :: rules) tokens = sequence rules rest := by
  rw [sequence, reads]

section Rounds

variable {α : Type} {more : Tokens → Bool} {rule : Rule} {parse : Parse α}

-- Rounds of a repeated rule, as many as there are.
inductive Rounds (more : Tokens → Bool) (rule : Rule) : Nat → Tokens → Tokens → Prop where
  | done {rest : Tokens} (stop : more rest = false) : Rounds more rule 0 rest rest
  | round {tokens rest left : Tokens} {count : Nat} (goesOn : more tokens = true)
    (reads : rule tokens = .ok rest) (others : Rounds more rule count rest left) :
    Rounds more rule (count + 1) tokens left

theorem repeatSteps_rounds {count bound : Nat} (rounds : Rounds more rule count tokens left)
    (enough : count ≤ bound) : repeatSteps more rule bound tokens = .ok left := by
  induction rounds generalizing bound with
  | done stop => cases bound <;> simp [repeatSteps, stop]
  | round goesOn reads _ ih =>
    obtain ⟨bound, rfl⟩ : ∃ less, bound = less + 1 := ⟨bound - 1, by omega⟩
    simp only [repeatSteps, goesOn, if_true, reads]
    exact ih (by omega)

theorem repeated_rounds {count : Nat} (rounds : Rounds more rule count tokens left)
    (enough : count ≤ tokens.length) : repeated more rule tokens = .ok left :=
  repeatSteps_rounds rounds enough

-- The same for a rule that gives values.
inductive Values (more : Tokens → Bool) (parse : Parse α) : List α → Tokens → Tokens → Prop where
  | done {rest : Tokens} (stop : more rest = false) : Values more parse [] rest rest
  | value {tokens rest left : Tokens} {found : α} {others : List α} (goesOn : more tokens = true)
    (reads : parse tokens = .ok (found, rest)) (later : Values more parse others rest left) :
    Values more parse (found :: others) tokens left

theorem collect_values {values : List α} (found : Values more parse values tokens left)
    (enough : values.length ≤ tokens.length) : collect more parse tokens = .ok (values, left) := by
  suffices ∀ bound, values.length ≤ bound → collectSteps more parse bound tokens = .ok (values, left) from
    this _ enough
  clear enough
  induction found with
  | done stop =>
    intro bound _
    cases bound <;> simp [collectSteps, stop]
  | value goesOn reads _ ih =>
    intro bound enough
    obtain ⟨bound, rfl⟩ : ∃ less, bound = less + 1 := ⟨bound - 1, by rw [List.length_cons] at enough; omega⟩
    simp only [collectSteps, goesOn, if_true, reads, ih bound (Nat.le_of_succ_le_succ enough)]

end Rounds

section Names

-- A name of several words as it stands among the tokens.
def nameTokens (first : Word) (others : List Word) : Tokens :=
  .word first :: others.flatMap fun word => [.mark .dot, .word word]

theorem qualifiedName_name (first : Word) (others : List Word) (stop : continuesName rest = false) :
    qualifiedName (nameTokens first others ++ rest) = .ok rest := by
  have rounds : Rounds continuesName (sequence [mark .dot, anyWord]) others.length
      ((others.flatMap fun word => [.mark .dot, .word word]) ++ rest) rest := by
    induction others with
    | nil => exact .done stop
    | cons word more ih => exact .round rfl rfl ih
  have enough : others.length ≤
      ((others.flatMap fun word => [Token.mark .dot, .word word]) ++ rest).length := by
    clear rounds
    induction others with
    | nil => exact Nat.zero_le _
    | cons word more ih =>
      simp only [List.flatMap_cons, List.cons_append, List.nil_append, List.length_cons]
      omega
  rw [qualifiedName, nameTokens, List.cons_append, sequence_cons (anyWord_word first _),
    sequence_cons (repeated_rounds rounds enough)]
  rfl

theorem item_package (first : Word) (others : List Word) (rest : Tokens) :
    item rules (.word (.of "package") :: (nameTokens first others ++ .mark .semicolon :: rest)) =
      .ok (.package ⟨(nameTokens first others).length + (rest.length + 1), rest.length + 1⟩, rest) := by
  have named : spanOf qualifiedName (nameTokens first others ++ .mark .semicolon :: rest) =
      .ok (⟨(nameTokens first others).length + (rest.length + 1), rest.length + 1⟩,
        .mark .semicolon :: rest) := by
    rw [spanOf, qualifiedName_name first others rfl]
    simp
  have item : item rules (.word (.of "package") :: (nameTokens first others ++ .mark .semicolon :: rest)) =
      itemPackage (.word (.of "package") :: (nameTokens first others ++ .mark .semicolon :: rest)) := rfl
  rw [item, itemPackage, packageName, keyword_of]
  simp only [named, mark_mark, Except.map]

-- Any qualified name can be imported, but `static` before it would be no part of it.
theorem importDeclaration_name {first : Word} (plain : first.text ≠ "static") (others : List Word)
    (rest : Tokens) : importDeclaration
      (.word (.of "import") :: (nameTokens first others ++ .mark .semicolon :: rest)) = .ok rest := by
  have static : optional (isKeyword "static") anyWord
      (nameTokens first others ++ .mark .semicolon :: rest) =
        .ok (nameTokens first others ++ .mark .semicolon :: rest) := by
    simp [optional, nameTokens, isKeyword, plain]
  have named : qualifiedName (nameTokens first others ++ .mark .semicolon :: rest) =
      .ok (.mark .semicolon :: rest) := qualifiedName_name first others rfl
  have star : optional continuesImport (sequence [mark .dot, mark .star]) (.mark .semicolon :: rest) =
      .ok (.mark .semicolon :: rest) := rfl
  have whole : sequence
      [keyword "import", optional (isKeyword "static") anyWord, qualifiedName,
       optional continuesImport (sequence [mark .dot, mark .star])]
      (.word (.of "import") :: (nameTokens first others ++ .mark .semicolon :: rest)) =
        .ok (.mark .semicolon :: rest) := by
    rw [sequence_cons (keyword_of _ _), sequence_cons static, sequence_cons named,
      sequence_cons star, sequence]
  rw [importDeclaration, ended, sequence_cons whole, sequence_cons (mark_mark _ _), sequence]

theorem item_import {first : Word} (plain : first.text ≠ "static") (others : List Word)
    (rest : Tokens) :
    item rules (.word (.of "import") :: (nameTokens first others ++ .mark .semicolon :: rest)) =
      .ok (.other, rest) := by
  have item : item rules
      (.word (.of "import") :: (nameTokens first others ++ .mark .semicolon :: rest)) =
    itemOther importDeclaration
      (.word (.of "import") :: (nameTokens first others ++ .mark .semicolon :: rest)) := rfl
  rw [item, itemOther, importDeclaration_name plain]
  rfl

end Names

section Plain

theorem isWordOf_plain (plain : word.Plain) {texts : List String}
    (known : ∀ text ∈ texts, text ∈ grammarWords) (rest : Tokens) :
    isWordOf texts (.word word :: rest) = false := by
  simp only [isWordOf, List.contains_eq_mem, decide_eq_false_iff_not]
  exact fun member => plain (known _ member)

theorem isKeyword_plain (plain : word.Plain) {text : String} (known : text ∈ grammarWords)
    (rest : Tokens) : isKeyword text (.word word :: rest) = false := by
  simp only [isKeyword, decide_eq_false_iff_not]
  rintro rfl
  exact plain known

theorem startsModifier_plain (plain : word.Plain) (rest : Tokens) :
    startsModifier (.word word :: rest) = false := by
  rw [startsModifier, isWordOf_plain plain (by decide)]
  rfl

theorem startsDeclaration_plain (plain : word.Plain) (rest : Tokens) :
    startsDeclaration (.word word :: rest) = false := by
  rw [startsDeclaration, isWordOf_plain plain (by decide)]
  rfl

theorem plainType_plain (plain : word.Plain) (rules : Rules) (arguments : isMark .less rest = false)
    (scope : continuesType rest = false) (array : meetsDimension rules rest = false) :
    plainType rules (.word word :: rest) = .ok (.simpleName, rest) := by
  have steps : ∀ bound, typeNameSteps rules bound .simpleName rest = .ok (.simpleName, rest) := by
    intro bound
    cases bound with
    | zero => rfl
    | succ bound => simp [typeNameSteps, arguments, scope]
  have primitive : isWordOf primitiveTypes (.word word :: rest) = false :=
    isWordOf_plain plain (by decide) rest
  have named : typeName rules (.word word :: rest) = .ok (.simpleName, rest) := by
    simp only [typeName, anyWord_word, primitive, Bool.false_eq_true, if_false, steps]
  simp only [plainType, named, array, Bool.false_eq_true, if_false]

theorem plainType_before (plain : type.Plain) (rules : Rules) (name : Word) (rest : Tokens) :
    plainType rules (.word type :: .word name :: rest) = .ok (.simpleName, .word name :: rest) :=
  plainType_plain plain rules rfl rfl rfl

theorem skipPlainType_before (plain : type.Plain) (rules : Rules) (name : Word) (rest : Tokens) :
    skipPlainType rules (.word type :: .word name :: rest) = .ok (.word name :: rest) := by
  rw [skipPlainType, plainType_before plain]
  rfl

theorem typeArguments_plain (plain : word.Plain) (depth : Nat) (joined : Bool) (rest : Tokens) :
    typeArguments (rulesTo (depth + 1)) (.mark .less :: .word word :: .greater joined :: rest) =
      .ok rest := by
  have read : plainType (rulesTo depth) (.word word :: .greater joined :: rest) =
      .ok (.simpleName, .greater joined :: rest) := plainType_plain plain _ rfl rfl rfl
  have argument : typeArgument (rulesTo (depth + 1)) (.word word :: .greater joined :: rest) =
      .ok (.greater joined :: rest) := by
    have unmarked : annotations (rulesTo depth) (.word word :: .greater joined :: rest) =
        .ok (.word word :: .greater joined :: rest) := rfl
    show Grammar.type (rulesTo depth) (.word word :: .greater joined :: rest) = _
    rw [Grammar.type, sequence_cons unmarked, sequence, skipPlainType, read]
    rfl
  have list : listed (typeArgument (rulesTo (depth + 1))) (.word word :: .greater joined :: rest) =
      .ok (.greater joined :: rest) := by
    rw [listed, sequence_cons argument]
    rfl
  have some_ : typeArguments (rulesTo (depth + 1)) (.mark .less :: .word word :: .greater joined :: rest) =
      sequence [mark .less, listed (typeArgument (rulesTo (depth + 1))), greater]
        (.mark .less :: .word word :: .greater joined :: rest) := rfl
  rw [some_, sequence_cons (mark_mark _ _), sequence_cons list]
  rfl

-- A type with one argument, as that of a list.
theorem plainType_generic (plain : word.Plain) (outer : type.Plain) (depth : Nat) (joined : Bool)
    (name : Word) (rest : Tokens) :
    plainType (rulesTo (depth + 1))
        (.word type :: .mark .less :: .word word :: .greater joined :: .word name :: rest) =
      .ok (.generic, .word name :: rest) := by
  have primitive := isWordOf_plain outer (show ∀ text ∈ primitiveTypes, text ∈ grammarWords by decide)
    (.mark .less :: .word word :: .greater joined :: .word name :: rest)
  have named : typeName (rulesTo (depth + 1))
      (.word type :: .mark .less :: .word word :: .greater joined :: .word name :: rest) =
        .ok (.generic, .word name :: rest) := by
    simp only [typeName, anyWord_word, primitive, List.length_cons, typeNameSteps,
      typeArguments_plain plain]
    rfl
  rw [plainType, named]
  rfl

end Plain

end Grammar
end SpringSkeleton.Java
