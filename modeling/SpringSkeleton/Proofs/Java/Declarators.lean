import SpringSkeleton.Proofs.Java.Naming
import SpringSkeleton.Proofs.Java.Spelling

namespace SpringSkeleton.Java
open Grammar

section Parts
variable {lexemes part rest : List Lexeme} {left : Tokens} {rule : Rule}

-- What a rule reads of some lexemes, and what it leaves of them.
def part? (rule : Rule) (lexemes : List Lexeme) : Option (List Lexeme × List Lexeme) :=
  (tried rule (tokensOf lexemes)).map fun left => lexemes.splitAt (lexemes.length - left.length)

-- The lexemes that are left when some tokens are.
def behind (lexemes : List Lexeme) (left : Tokens) : List Lexeme :=
  lexemes.drop (lexemes.length - left.length)

theorem tokensOf_behind (inside : left <:+ tokensOf lexemes) : tokensOf (behind lexemes left) = left := by
  obtain ⟨front, whole⟩ := inside
  have length : lexemes.length = front.length + left.length := by
    rw [← List.length_append, whole, tokensOf, List.length_map]
  have skipped : lexemes.length - left.length = front.length := by omega
  rw [behind, tokensOf, List.map_drop, skipped]
  rw [tokensOf] at whole
  rw [← whole, List.drop_left]

theorem part?_eq_some_iff [Leaves rule] : part? rule lexemes = some (part, rest) ↔
    lexemes = part ++ rest ∧ rule (tokensOf lexemes) = .ok (tokensOf rest) := by
  constructor
  · intro read
    obtain ⟨left, reads, same⟩ := Option.map_eq_some_iff.mp read
    have reads := tried_ok reads
    rw [List.splitAt_eq, Prod.mk.injEq] at same
    obtain ⟨rfl, rfl⟩ := same
    have again : tokensOf (behind lexemes left) = left := tokensOf_behind (Leaves.suffix reads)
    exact ⟨(List.take_append_drop _ _).symm, reads.trans (congrArg _ again.symm)⟩
  · rintro ⟨rfl, reads⟩
    have length : (part ++ rest).length - (tokensOf rest).length = part.length := by
      rw [List.length_append, tokensOf, List.length_map, Nat.add_sub_cancel]
    rw [part?, tried, reads]
    simp only [Except.toOption, Option.map_some, length, List.splitAt_eq, List.take_left, List.drop_left]

end Parts

section Variables
variable {rules : Rules} {lexemes rest : List Lexeme}

-- A variable of a declaration: its name, the dimensions and the value behind the name, and the mark
-- that ends it.
structure Variable where
  name : List Lexeme
  dimensions : List Lexeme
  value : List Lexeme
  stop : Lexeme
  deriving DecidableEq

def Variable.stretch (one : Variable) : List Lexeme :=
  one.name ++ (one.dimensions ++ (one.value ++ [one.stop]))

def readVariable? (rules : Rules) (lexemes : List Lexeme) : Option (Variable × List Lexeme) :=
  match part? anyWord lexemes with
  | none => none
  | some (name, lexemes) =>
    match part? (dimensions rules) lexemes with
    | none => none
    | some (own, lexemes) =>
      match part? (initialized rules) lexemes with
      | some (value, stop :: rest) => some (⟨name, own, value, stop⟩, rest)
      | _ => none

-- Variables with commas between them, up to a semicolon.
def readVariables? (rules : Rules) : Nat → List Lexeme → Option (List Variable × List Lexeme)
  | 0, _ => none
  | bound + 1, lexemes =>
    match readVariable? rules lexemes with
    | none => none
    | some (first, rest) =>
      if first.stop.token = .mark .comma then
        (readVariables? rules bound rest).map fun (others, rest) => (first :: others, rest)
      else if first.stop.token = .mark .semicolon then some ([first], rest)
      else none

-- How a variable is read: every part of it by its own rule.
structure Variable.Reads (rules : Rules) (one : Variable) (rest : List Lexeme) : Prop where
  name : anyWord (tokensOf (one.stretch ++ rest)) =
    .ok (tokensOf (one.dimensions ++ (one.value ++ one.stop :: rest)))
  dimensions : Grammar.dimensions rules (tokensOf (one.dimensions ++ (one.value ++ one.stop :: rest))) =
    .ok (tokensOf (one.value ++ one.stop :: rest))
  value : initialized rules (tokensOf (one.value ++ one.stop :: rest)) = .ok (tokensOf (one.stop :: rest))

theorem readVariable?_eq_some_iff [AllLeave rules] {one : Variable} : readVariable? rules lexemes = some (one, rest) ↔
    lexemes = one.stretch ++ rest ∧ one.Reads rules rest := by
  constructor
  · intro read
    unfold readVariable? at read
    split at read
    · cases read
    · next name afterName named =>
      split at read
      · cases read
      · next own afterOwn dimensioned =>
        split at read
        · next value stop left valued =>
          cases read
          obtain ⟨rfl, readName⟩ := part?_eq_some_iff.mp named
          obtain ⟨rfl, readOwn⟩ := part?_eq_some_iff.mp dimensioned
          obtain ⟨rfl, readValue⟩ := part?_eq_some_iff.mp valued
          have whole : name ++ (own ++ (value ++ stop :: rest)) =
              Variable.stretch ⟨name, own, value, stop⟩ ++ rest := by simp [Variable.stretch]
          exact ⟨whole, ⟨whole ▸ readName, readOwn, readValue⟩⟩
        · cases read
  · rintro ⟨rfl, reads⟩
    have whole : one.stretch ++ rest = one.name ++ (one.dimensions ++ (one.value ++ one.stop :: rest)) := by
      simp [Variable.stretch]
    have named := part?_eq_some_iff.mpr ⟨whole, reads.name⟩
    have dimensioned := part?_eq_some_iff.mpr ⟨rfl, reads.dimensions⟩
    have valued := part?_eq_some_iff.mpr ⟨rfl, reads.value⟩
    simp only [readVariable?, named, dimensioned, valued]

theorem declarator_parts {tokens left : Tokens} {name : Word} (read : declarator rules tokens = .ok (name, left)) :
    ∃ afterName afterOwn, word tokens = .ok (name, afterName) ∧
      Grammar.dimensions rules afterName = .ok afterOwn ∧ initialized rules afterOwn = .ok left := by
  unfold declarator at read
  split at read
  · cases read
  · next named =>
    obtain ⟨_, valued, same⟩ := map_ok read
    cases same
    unfold variable_ at named
    split at named
    · cases named
    · next worded =>
      obtain ⟨_, dimensioned, same⟩ := map_ok named
      cases same
      exact ⟨_, _, worded, dimensioned, valued⟩

theorem declarator_variable [AllLeave rules] {found : Word} {token : Token} {left : Tokens}
    (read : declarator rules (tokensOf lexemes) = .ok (found, token :: left)) :
    ∃ one rest, readVariable? rules lexemes = some (one, rest) ∧ tokensOf one.name = [.word found] ∧
      one.stop.token = token ∧ tokensOf rest = left := by
  obtain ⟨_, _, worded, dimensioned, valued⟩ := declarator_parts read
  obtain ⟨name, afterName, rfl, rfl⟩ := suffix_parts (LeavesAfter.suffix worded)
  obtain ⟨own, afterOwn, rfl, rfl⟩ := suffix_parts (Leaves.suffix dimensioned)
  obtain ⟨value, afterValue, rfl, ends⟩ := suffix_parts (Leaves.suffix valued)
  obtain ⟨stop, rest, rfl, stops, behind⟩ := List.map_eq_cons_iff.mp ends
  have whole : name ++ (own ++ (value ++ stop :: rest)) =
      Variable.stretch ⟨name, own, value, stop⟩ ++ rest := by simp [Variable.stretch]
  have named := word_ok worded
  refine ⟨⟨name, own, value, stop⟩, rest, readVariable?_eq_some_iff.mpr ⟨whole, ?_, dimensioned, ?_⟩, ?_,
    stops, behind⟩
  · rw [← whole, named, anyWord_word]
  · exact valued.trans (congrArg _ ends.symm)
  · rw [tokensOf, List.map_append] at named
    exact List.append_cancel_right (show tokensOf name ++ _ = [Token.word found] ++ _ from named)

theorem otherDeclarator_ok {tokens left : Tokens} {name : Word}
    (read : otherDeclarator rules tokens = .ok (name, left)) :
    ∃ more, tokens = .mark .comma :: more ∧ declarator rules more = .ok (name, left) := by
  unfold otherDeclarator at read
  split at read
  · cases read
  · next more comma => exact ⟨more, mark_ok comma, read⟩

variable {one : Variable} {bound : Nat}

theorem readVariables?_comma (first : readVariable? rules lexemes = some (one, rest))
    (goesOn : one.stop.token = .mark .comma) : readVariables? rules (bound + 1) lexemes =
      (readVariables? rules bound rest).map fun (others, left) => (one :: others, left) := by
  simp only [readVariables?, first, goesOn, if_true]

theorem readVariables?_semicolon (first : readVariable? rules lexemes = some (one, rest))
    (ends : one.stop.token = .mark .semicolon) :
    readVariables? rules (bound + 1) lexemes = some ([one], rest) := by
  have other : Token.mark .semicolon ≠ .mark .comma := by decide
  simp only [readVariables?, first, ends, other, if_false, if_true]

-- The names in the order of the variables.
def AreNames (ones : List Variable) (names : List Word) : Prop :=
  ones.map (fun one => tokensOf one.name) = names.map fun name => [.word name]

theorem declarators_steps [AllLeave rules] {limit : Nat} (enough : bound < limit) {middle left : Tokens}
    {name : Word} {names : List Word} (first : declarator rules (tokensOf lexemes) = .ok (name, middle))
    (later : collectSteps (isMark .comma) (otherDeclarator rules) bound middle = .ok (names, left))
    (ends : isMark .semicolon left = true) : ∃ ones rest,
      readVariables? rules limit lexemes = some (ones, rest) ∧ AreNames ones (name :: names) := by
  induction bound generalizing lexemes name middle names limit with
  | zero =>
    obtain ⟨limit, rfl⟩ : ∃ less, limit = less + 1 := ⟨limit - 1, by omega⟩
    cases later
    obtain ⟨more, rfl⟩ := isMark_cons ends
    obtain ⟨one, rest, read, named, stops, _⟩ := declarator_variable first
    exact ⟨[one], rest, readVariables?_semicolon read stops, congrArg (fun tokens => [tokens]) named⟩
  | succ bound ih =>
    obtain ⟨limit, rfl⟩ : ∃ less, limit = less + 1 := ⟨limit - 1, by omega⟩
    obtain ⟨_, rfl, rfl⟩ | ⟨_, _, _, _, another, collected, rfl⟩ := collectSteps_cases later
    · obtain ⟨more, rfl⟩ := isMark_cons ends
      obtain ⟨one, rest, read, named, stops, _⟩ := declarator_variable first
      exact ⟨[one], rest, readVariables?_semicolon read stops, congrArg (fun tokens => [tokens]) named⟩
    · obtain ⟨behind, rfl, declared⟩ := otherDeclarator_ok another
      obtain ⟨one, rest, read, named, stops, rfl⟩ := declarator_variable first
      have fewer : bound < limit := by omega
      obtain ⟨others, last, reads, names⟩ := ih fewer declared collected
      refine ⟨one :: others, last, ?_, ?_⟩
      · rw [readVariables?_comma read stops, reads]
        rfl
      · rw [AreNames, List.map_cons, List.map_cons, named]
        exact congrArg _ names

theorem declarators_variables [AllLeave rules] {left : Tokens} {names : List Word}
    (read : declarators rules (tokensOf lexemes) = .ok (names, left)) (ends : isMark .semicolon left = true) :
    ∃ ones rest, readVariables? rules lexemes.length lexemes = some (ones, rest) ∧
      AreNames ones names := by
  unfold declarators at read
  split at read
  · cases read
  · next first middle declared =>
    obtain ⟨⟨others, _⟩, later, same⟩ := map_ok read
    cases same
    obtain ⟨afterName, afterOwn, worded, dimensioned, valued⟩ := declarator_parts declared
    have shorter : middle.length < lexemes.length := by
      have inside := (Leaves.suffix valued).trans (Leaves.suffix dimensioned)
      have whole := congrArg List.length (word_ok worded)
      rw [tokensOf, List.length_map, List.length_cons] at whole
      have fewer := inside.length_le
      omega
    exact declarators_steps shorter declared later ends

end Variables

section Forms
variable {rules : Rules} {tokens rest : Tokens} {word name : Word}

-- What can neither go on with a variable behind its name nor end it.
structure Foreign (tokens : Tokens) : Prop where
  square : isMark .openSquare tokens = false
  sign : isMark .sign tokens = false
  equals : isMark .equals tokens = false
  comma : isMark .comma tokens = false
  semicolon : isMark .semicolon tokens = false

theorem foreign_word (word : Word) (rest : Tokens) : Foreign (.word word :: rest) := ⟨rfl, rfl, rfl, rfl, rfl⟩

theorem foreign_keyword {text : String} (begins : isKeyword text tokens = true) : Foreign tokens := by
  obtain ⟨word, more, rfl, _⟩ := isKeyword_cons begins
  exact foreign_word word more

theorem foreign_mark {mark : Mark} (begins : isMark mark tokens = true)
    (other : mark ∉ [.openSquare, .sign, .equals, .comma, .semicolon]) : Foreign tokens := by
  obtain ⟨more, rfl⟩ := isMark_cons begins
  simp only [List.mem_cons, List.not_mem_nil, or_false, not_or] at other
  constructor <;> simp [isMark, other]

-- The name of a variable, and what can stand behind it.
def BeginsVariables (rules : Rules) (tokens : Tokens) : Prop :=
  ∃ name afterName afterOwn left, tokens = .word name :: afterName ∧
    Grammar.dimensions rules afterName = .ok afterOwn ∧ initialized rules afterOwn = .ok left ∧
    (isMark .comma left = true ∨ isMark .semicolon left = true)

theorem meetsDimension_foreign (foreign : Foreign tokens) : meetsDimension rules tokens = false := by
  simp [meetsDimension, startsDimension, foreign.square, foreign.sign]

theorem dimensions_foreign (foreign : Foreign tokens) : Grammar.dimensions rules tokens = .ok tokens := by
  unfold Grammar.dimensions repeated
  cases tokens.length with
  | zero => rfl
  | succ bound => simp only [repeatSteps, meetsDimension_foreign foreign, Bool.false_eq_true, if_false]

theorem not_beginsVariables (foreign : Foreign rest) : ¬ BeginsVariables rules (.word name :: rest) := by
  rintro ⟨_, _, _, left, same, own, value, ends⟩
  cases same
  cases (dimensions_foreign foreign).symm.trans own
  have none : initialized rules rest = .ok rest := by
    simp [initialized, Grammar.optional, foreign.equals]
  cases none.symm.trans value
  rw [foreign.comma, foreign.semicolon] at ends
  cases ends with
  | inl comma => cases comma
  | inr semicolon => cases semicolon

-- A type of one word.
theorem skipPlainType_word (foreign : Foreign rest) (less : isMark .less rest = false)
    (dot : isMark .dot rest = false) : skipPlainType rules (.word word :: rest) = .ok rest := by
  have steps : ∀ bound, typeNameSteps rules bound .simpleName rest = .ok (.simpleName, rest) := by
    intro bound
    cases bound with
    | zero => rfl
    | succ bound => simp [typeNameSteps, less, continuesType, dot]
  unfold skipPlainType plainType typeName
  rw [anyWord_word]
  by_cases primitive : isWordOf primitiveTypes (.word word :: rest) = true
  · simp only [primitive, if_true, meetsDimension_foreign foreign, Bool.false_eq_true, if_false]
    rfl
  · simp only [primitive, Bool.false_eq_true, if_false, steps, meetsDimension_foreign foreign]
    rfl

theorem typeName_ok [AllLeave rules] {form : TypeForm} (read : typeName rules tokens = .ok (form, rest)) :
    ∃ word more, tokens = .word word :: more ∧ rest <:+ more := by
  unfold typeName at read
  split at read
  · cases read
  · next begins =>
    obtain ⟨word, rfl⟩ := anyWord_ok begins
    refine ⟨word, _, rfl, ?_⟩
    split at read
    · cases read
      exact List.suffix_rfl
    · exact LeavesAfter.suffix read

-- A type begins with a word, and there is nothing else that it must have.
theorem skipPlainType_ok [AllLeave rules] (read : skipPlainType rules tokens = .ok rest) :
    ∃ word more, tokens = .word word :: more ∧ rest <:+ more := by
  obtain ⟨⟨form, left⟩, typed, same⟩ := map_ok read
  cases same
  unfold plainType at typed
  split at typed
  · cases typed
  · next named =>
    obtain ⟨word, more, rfl, inside⟩ := typeName_ok named
    refine ⟨word, more, rfl, ?_⟩
    split at typed
    · obtain ⟨_, dimensioned, same⟩ := map_ok typed
      cases same
      exact (Leaves.suffix dimensioned).trans inside
    · cases typed
      exact inside

theorem foreign_optional {starts : Tokens → Bool} {rule : Rule} (read : Grammar.optional starts rule tokens = .ok rest)
    (begins : starts tokens = true → Foreign tokens) (later : Foreign rest) : Foreign tokens := by
  unfold Grammar.optional at read
  split at read
  · next found => exact begins found
  · cases read
    exact later

theorem foreign_clause {text : String} (read : clause rules text tokens = .ok rest) (later : Foreign rest) :
    Foreign tokens := foreign_optional read foreign_keyword later

theorem foreign_typeParameters (read : optionalTypeParameters rules tokens = .ok rest) (later : Foreign rest) :
    Foreign tokens := foreign_optional read (fun begins => foreign_mark begins (by decide)) later

theorem foreign_between {opening closing : Mark} {rule : Rule}
    (read : between opening closing rule tokens = .ok rest)
    (other : opening ∉ [.openSquare, .sign, .equals, .comma, .semicolon]) : Foreign tokens := by
  obtain ⟨more, opens, _⟩ := sequence_ok read
  refine foreign_mark ?_ other
  rw [mark_ok opens]
  simp [isMark]

-- What begins a declaration of a type: no variable could stand there after a type of one word.
def BeginsType (tokens : Tokens) : Prop :=
  (∃ more, tokens = .mark .signInterface :: more) ∨
  ∃ word name more, tokens = .word word :: .word name :: more ∧ Foreign more

theorem named_beginsType {text : String} {others : List Rule}
    (read : sequence (keyword text :: anyWord :: others) tokens = .ok rest)
    (later : ∀ {left}, sequence others left = .ok rest → Foreign left) : BeginsType tokens := by
  obtain ⟨_, begins, named⟩ := sequence_ok read
  obtain ⟨left, named, behind⟩ := sequence_ok named
  obtain ⟨word, rfl⟩ := keyword_ok begins
  obtain ⟨name, rfl⟩ := anyWord_ok named
  exact .inr ⟨word, name, left, rfl, later behind⟩

theorem classDeclaration_beginsType {modifiers : Modifiers} {declaration : ClassDeclaration}
    (read : classDeclaration rules modifiers tokens = .ok (declaration, rest)) : BeginsType tokens := by
  obtain ⟨_, left, _, keyed, named, headed, bodied, _⟩ := classDeclaration_ok read
  obtain ⟨_, _, rfl, _⟩ := classBody_ok bodied
  obtain ⟨word, rfl⟩ := keyword_ok keyed
  obtain ⟨_, parameters, headed⟩ := sequence_ok headed
  obtain ⟨_, extended, headed⟩ := sequence_ok headed
  obtain ⟨_, implemented, permitted⟩ := sequence_ok headed
  refine .inr ⟨word, _, left, congrArg _ (word_ok named), ?_⟩
  have permits := foreign_clause (sequence_last permitted) ⟨rfl, rfl, rfl, rfl, rfl⟩
  have extends_ := foreign_optional extended foreign_keyword (foreign_clause implemented permits)
  exact foreign_typeParameters parameters extends_

theorem interfaceDeclaration_beginsType (read : interfaceDeclaration rules tokens = .ok rest) :
    BeginsType tokens := by
  refine named_beginsType read fun read => ?_
  obtain ⟨_, parameters, read⟩ := sequence_ok read
  obtain ⟨_, extended, read⟩ := sequence_ok read
  obtain ⟨_, permitted, read⟩ := sequence_ok read
  have opens := foreign_between (sequence_last read) (by decide)
  exact foreign_typeParameters parameters (foreign_clause extended (foreign_clause permitted opens))

theorem enumDeclaration_beginsType (read : enumDeclaration rules tokens = .ok rest) : BeginsType tokens := by
  refine named_beginsType read fun read => ?_
  obtain ⟨_, implemented, read⟩ := sequence_ok read
  exact foreign_clause implemented (foreign_between (sequence_last read) (by decide))

theorem recordDeclaration_beginsType (read : recordDeclaration rules tokens = .ok rest) :
    BeginsType tokens := by
  refine named_beginsType read fun read => ?_
  obtain ⟨_, parameters, read⟩ := sequence_ok read
  obtain ⟨_, components, _⟩ := sequence_ok read
  exact foreign_typeParameters parameters (foreign_between components (by decide))

theorem declaration_beginsType (read : declaration rules tokens = .ok rest) : BeginsType tokens := by
  unfold declaration at read
  split at read
  · next sign => exact .inl (isMark_cons sign)
  · split at read
    · obtain ⟨⟨found, left⟩, declared, _⟩ := map_ok read
      exact classDeclaration_beginsType declared
    · split at read
      · exact interfaceDeclaration_beginsType read
      · split at read
        · exact enumDeclaration_beginsType read
        · exact recordDeclaration_beginsType read

theorem rulesTo_beginsType {depth : Nat} (read : (rulesTo depth).declaration tokens = .ok rest) :
    BeginsType tokens := by
  cases depth with
  | zero => cases read
  | succ depth => exact declaration_beginsType read

end Forms

section Shapes
variable {rules : Rules} {lexemes rest : List Lexeme} {one : Variable}

-- The name of a variable is a word, and its dimensions begin with a mark if there are any.
structure Variable.Formed (one : Variable) : Prop where
  name : ∃ word, tokensOf one.name = [.word word]
  dimensions : ∀ first ∈ one.dimensions.head?, ∃ mark, first.token = .mark mark

theorem Variable.Reads.formed (reads : one.Reads rules rest) : one.Formed := by
  constructor
  · obtain ⟨word, named⟩ := anyWord_ok reads.name
    have parted : tokensOf one.name ++ tokensOf (one.dimensions ++ (one.value ++ one.stop :: rest)) =
        [.word word] ++ tokensOf (one.dimensions ++ (one.value ++ one.stop :: rest)) := by
      simpa [Variable.stretch, tokensOf] using named
    exact ⟨word, List.append_cancel_right parted⟩
  · intro first begins
    obtain ⟨more, own⟩ := List.head?_eq_some_iff.mp begins
    have read := reads.dimensions
    rw [own] at read
    have fewer : tokensOf (first :: more ++ (one.value ++ one.stop :: rest)) ≠
        tokensOf (one.value ++ one.stop :: rest) := by
      intro same
      have lengths := congrArg List.length same
      simp only [tokensOf, List.length_map, List.length_append, List.length_cons] at lengths
      omega
    by_contra other
    have foreign : Foreign (tokensOf (first :: more ++ (one.value ++ one.stop :: rest))) := by
      cases token : first.token with
      | mark mark => exact absurd ⟨mark, token⟩ other
      | _ => constructor <;> simp [tokensOf, isMark, token]
    exact fewer (Except.ok.inj ((dimensions_foreign foreign).symm.trans read))

theorem readVariables?_formed [AllLeave rules] {bound : Nat} {ones : List Variable}
    (read : readVariables? rules bound lexemes = some (ones, rest)) :
    lexemes = ones.flatMap Variable.stretch ++ rest ∧ ∀ one ∈ ones, one.Formed := by
  induction bound generalizing lexemes ones with
  | zero => cases read
  | succ bound ih =>
    unfold readVariables? at read
    split at read
    · cases read
    · next one behind first =>
      obtain ⟨rfl, reads⟩ := readVariable?_eq_some_iff.mp first
      split at read
      · obtain ⟨⟨others, left⟩, later, same⟩ := Option.map_eq_some_iff.mp read
        cases same
        obtain ⟨rfl, formed⟩ := ih later
        refine ⟨by rw [List.flatMap_cons, List.append_assoc], ?_⟩
        exact List.forall_mem_cons.mpr ⟨reads.formed, formed⟩
      · split at read
        · cases read
          exact ⟨by rw [List.flatMap_singleton], List.forall_mem_singleton.mpr reads.formed⟩
        · cases read

end Shapes
end SpringSkeleton.Java
