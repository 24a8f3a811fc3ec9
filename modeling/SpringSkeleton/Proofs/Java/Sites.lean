import Mathlib.Data.List.Forall2
import SpringSkeleton.Proofs.Java.Declarators

namespace SpringSkeleton.Java
open Grammar

section Sites
variable {rules : Rules} {lexemes : List Lexeme} {tokens rest : Tokens} {modifiers : Modifiers}

-- A declaration of fields. Each modifier is an annotation or a word.
structure FieldSite where
  modifiers : List (List Lexeme)
  type : List Lexeme
  declared : List Variable
  deriving DecidableEq

def FieldSite.stretch (site : FieldSite) : List Lexeme :=
  site.modifiers.flatten ++ (site.type ++ site.declared.flatMap Variable.stretch)

-- An annotation has at least two lexemes.
def wordAlone? : List Lexeme → Option String
  | [one] => some (String.ofList one.text)
  | _ => none

def FieldSite.words (site : FieldSite) : List String := site.modifiers.filterMap wordAlone?

def modifierParts (rules : Rules) : Nat → List Lexeme → List (List Lexeme)
  | 0, _ => []
  | _ + 1, [] => []
  | bound + 1, one :: rest =>
    if one.token = .mark .sign then
      match part? (fun tokens => (annotationUse rules tokens).map Prod.snd) (one :: rest) with
      | none => []
      | some (part, rest) => part :: modifierParts rules bound rest
    else if startsModifier [one.token] then [one] :: modifierParts rules bound rest
    else []

def fieldSite? (rules : Rules) (lexemes : List Lexeme) : Option FieldSite :=
  match part? (skipModifiers rules) lexemes with
  | none => none
  | some (_, afterModifiers) =>
    match part? (skipPlainType rules) afterModifiers with
    | none => none
    | some (type, afterType) =>
      (readVariables? rules afterType.length afterType).map fun (declared, _) =>
        ⟨modifierParts rules lexemes.length lexemes, type, declared⟩

theorem annotationUse_parts [AllLeave rules] {name : Span} (read : annotationUse rules tokens = .ok (name, rest)) :
    ∃ word more, tokens = .mark .sign :: .word word :: more ∧ rest <:+ more := by
  obtain ⟨more, left, rfl, named, ends⟩ := annotationUse_ok read
  obtain ⟨words, _⟩ := spanOf_ok named
  obtain ⟨_, begins, later⟩ := sequence_ok words
  obtain ⟨word, rfl⟩ := anyWord_ok begins
  exact ⟨word, _, rfl, (Leaves.suffix ends).trans (Leaves.suffix later)⟩

theorem wordAlone?_annotated [AllLeave rules] {name : Span} {part after : List Lexeme}
    (read : annotationUse rules (tokensOf (part ++ after)) = .ok (name, tokensOf after)) :
    wordAlone? part = none := by
  obtain ⟨word, more, whole, inside⟩ := annotationUse_parts read
  have lengths := congrArg List.length whole
  have fewer := inside.length_le
  simp only [tokensOf, List.length_map, List.length_append, List.length_cons] at lengths fewer
  cases part with
  | nil => rfl
  | cons sign others =>
    cases others with
    | nil =>
      rw [List.length_singleton] at lengths
      omega
    | cons _ _ => rfl

theorem startsModifier_cons (one : Lexeme) (more : List Lexeme) :
    startsModifier (tokensOf (one :: more)) = startsModifier [one.token] := by
  show startsModifier (one.token :: tokensOf more) = _
  cases one.token <;> rfl

-- The modifiers stand in their parts, up to the tokens that are left, and their words are those that
-- stand there alone.
def StandInParts (rules : Rules) (bound : Nat) (lexemes : List Lexeme) (modifiers : Modifiers) (rest : Tokens) :
    Prop :=
  ∃ after, lexemes = (modifierParts rules bound lexemes).flatten ++ after ∧ tokensOf after = rest ∧
    ((∀ lexeme ∈ lexemes, lexeme.Genuine) →
      modifiers.words = (modifierParts rules bound lexemes).filterMap wordAlone?)

theorem StandInParts.word {bound : Nat} {one : Lexeme} {more : List Lexeme} {text : String}
    (others : StandInParts rules bound more modifiers rest) (other : one.token ≠ .mark .sign)
    (starts : startsModifier [one.token] = true) (spelled : one.Genuine → one.text = text.toList) :
    StandInParts rules (bound + 1) (one :: more) (modifiers.marked text) rest := by
  have parts : modifierParts rules (bound + 1) (one :: more) = [one] :: modifierParts rules bound more := by
    rw [modifierParts, if_neg other, if_pos starts]
  obtain ⟨after, stretch, behind, words⟩ := others
  refine ⟨after, ?_, behind, fun genuine => ?_⟩
  · rw [parts, List.flatten_cons, List.append_assoc, ← stretch]
    rfl
  · obtain ⟨here, there⟩ := List.forall_mem_cons.mp genuine
    rw [parts, List.filterMap_cons, wordAlone?, spelled here, String.ofList_toList, ← words there]
    rfl

theorem StandInParts.annotated [AllLeave rules] {bound : Nat} {one : Lexeme} {more : List Lexeme} {name : Span}
    {left : Tokens} (begins : one.token = .mark .sign)
    (annotated : annotationUse rules (tokensOf (one :: more)) = .ok (name, left))
    (others : ∀ {behind : List Lexeme}, tokensOf behind = left → StandInParts rules bound behind modifiers rest) :
    StandInParts rules (bound + 1) (one :: more) (modifiers.annotated name) rest := by
  obtain ⟨part, behind, whole, rfl⟩ := suffix_parts (LeavesAfter.suffix annotated)
  have parted : part? (fun tokens => (annotationUse rules tokens).map Prod.snd) (one :: more) =
      some (part, behind) := part?_eq_some_iff.mpr ⟨whole, by rw [annotated]; rfl⟩
  have parts : modifierParts rules (bound + 1) (one :: more) = part :: modifierParts rules bound behind := by
    rw [modifierParts, if_pos begins, parted]
  obtain ⟨after, stretch, left, words⟩ := others rfl
  refine ⟨after, ?_, left, fun genuine => ?_⟩
  · rw [parts, List.flatten_cons, List.append_assoc, ← stretch, whole]
  · have alone := wordAlone?_annotated (whole ▸ annotated)
    rw [whole] at genuine
    rw [parts, List.filterMap_cons, alone]
    exact words (List.forall_mem_append.mp genuine).2

theorem modifierSteps_parts [AllLeave rules] {bound : Nat}
    (read : modifierSteps rules bound (tokensOf lexemes) = .ok (modifiers, rest)) :
    StandInParts rules bound lexemes modifiers rest := by
  induction bound generalizing lexemes modifiers with
  | zero =>
    cases read
    exact ⟨lexemes, rfl, rfl, fun _ => rfl⟩
  | succ bound ih =>
    cases lexemes with
    | nil =>
      cases (modifierSteps_stop rfl _).symm.trans read
      exact ⟨[], rfl, rfl, fun _ => rfl⟩
    | cons one more =>
      cases modifierSteps_step read with
      | annotated sign annotated later =>
        obtain ⟨_, same⟩ := isMark_cons sign
        refine StandInParts.annotated (List.cons.inj same).1 annotated ?_
        rintro behind rfl
        exact ih later
      | marked marked later =>
        obtain ⟨_, same⟩ := isMark_cons marked
        have token : one.token = .mark .nonSealed := (List.cons.inj same).1
        have others : StandInParts rules bound more _ _ := ih later
        refine others.word (by simp [token]) (by rw [token]; rfl) fun genuine => ?_
        obtain ⟨text, among, spelled⟩ := genuine.mark token
        have only : ∀ entry ∈ markTexts, entry.2 = .nonSealed → entry.1 = "non-sealed" := by decide
        have same : text = "non-sealed" := only (text, .nonSealed) among rfl
        rw [spelled, same]
      | worded known worded later =>
        obtain ⟨token, same⟩ := List.cons.inj (word_ok worded)
        have others : StandInParts rules bound more _ _ := ih (same ▸ later)
        refine others.word (by simp [token]) ?_ fun genuine => genuine.word token
        rw [← startsModifier_cons one more, startsModifier, known, Bool.or_true]
      | none stops here =>
        have other : one.token ≠ .mark .sign := by
          intro sign
          simp [startsModifier, tokensOf, isMark, sign] at stops
        have none : modifierParts rules (bound + 1) (one :: more) = [] := by
          rw [modifierParts, if_neg other, ← startsModifier_cons one more, stops]
          rfl
        exact ⟨one :: more, by rw [none]; rfl, here.symm, fun _ => by rw [none]; rfl⟩

-- What is read as a declaration of fields, against what stands there.
structure FieldSite.Tells (whole : Program) (site : FieldSite) (declaration : FieldDeclaration) : Prop where
  words : declaration.modifiers.words = site.words
  type : whole.stretch declaration.type = site.type
  names : AreNames site.declared declaration.names

theorem typedMember_field {declaration : FieldDeclaration}
    (read : typedMember rules modifiers tokens = .ok (.field declaration, rest)) :
    ∃ type left names ending, spanOf (skipPlainType rules) tokens = .ok (type, left) ∧
      declarators rules left = .ok (names, ending) ∧ isMark .semicolon ending = true ∧
      declaration = ⟨modifiers, type, names⟩ := by
  unfold typedMember at read
  split at read
  · cases read
  · next typed =>
    split at read
    · split at read
      · cases read
      · obtain ⟨_, _, same⟩ := map_ok read
        cases same
    · split at read
      · cases read
      · next declared =>
        obtain ⟨_, ends, same⟩ := map_ok read
        cases same
        refine ⟨_, _, _, _, typed, declared, ?_, rfl⟩
        rw [mark_ok ends]
        simp [isMark]

theorem asOther_ok {rule : Rule} {found : Member} (read : asOther rule tokens = .ok (found, rest)) :
    found = .other := by
  obtain ⟨_, _, same⟩ := map_ok read
  cases same
  rfl

theorem genericMember_field {declaration : FieldDeclaration} :
    genericMember rules modifiers tokens ≠ .ok (.field declaration, rest) := by
  intro read
  unfold genericMember at read
  split at read
  · cases read
  · split at read
    · obtain ⟨_, _, same⟩ := map_ok read
      cases same
    · split at read
      · cases read
      · split at read
        · cases read
        · obtain ⟨_, _, same⟩ := map_ok read
          cases same

theorem modifiedMember_field {declaration : FieldDeclaration}
    (read : modifiedMember rules modifiers tokens = .ok (.field declaration, rest)) :
    typedMember rules modifiers tokens = .ok (.field declaration, rest) := by
  unfold modifiedMember at read
  split at read
  · cases asOther_ok read
  · split at read
    · cases asOther_ok read
    · split at read
      · exact absurd read genericMember_field
      · split at read
        · cases asOther_ok read
        · split at read
          · cases asOther_ok read
          · exact read

theorem member_field_parts {declaration : FieldDeclaration}
    (read : member rules tokens = .ok (.field declaration, rest)) :
    ∃ found left, Grammar.modifiers rules tokens = .ok (found, left) ∧
      typedMember rules found left = .ok (.field declaration, rest) := by
  unfold member at read
  split at read
  · cases read
  · split at read
    · cases asOther_ok read
    · split at read
      · cases read
      · next modified => exact ⟨_, _, modified, modifiedMember_field read⟩

-- A member that is read as fields has the form of a declaration of fields.
theorem member_field_site [AllLeave rules] {whole : Program}
    (genuine : ∀ lexeme ∈ whole.lexemes, lexeme.Genuine) (inside : lexemes <:+ whole.lexemes)
    {declaration : FieldDeclaration} (read : member rules (tokensOf lexemes) = .ok (.field declaration, rest)) :
    ∃ site, fieldSite? rules lexemes = some site ∧ site.Tells whole declaration := by
  obtain ⟨found, left, modified, typed⟩ := member_field_parts read
  obtain ⟨type, afterType, names, ending, spanned, declared, ends, rfl⟩ := typedMember_field typed
  obtain ⟨before, behind, rfl, rfl⟩ := suffix_parts (LeavesAfter.suffix modified)
  obtain ⟨part, others, rfl, rfl⟩ := suffix_parts (LeavesAfter.suffix spanned)
  obtain ⟨ones, _, reads, named⟩ := declarators_variables declared ends
  have words : found.words =
      (modifierParts rules (before ++ (part ++ others)).length (before ++ (part ++ others))).filterMap wordAlone? := by
    rw [Grammar.modifiers, tokensOf, List.length_map] at modified
    obtain ⟨_, _, _, words⟩ := modifierSteps_parts modified
    exact words fun lexeme member => genuine lexeme (inside.subset member)
  have skipped : part? (skipModifiers rules) (before ++ (part ++ others)) = some (before, part ++ others) :=
    part?_eq_some_iff.mpr ⟨rfl, by rw [skipModifiers, modified]; rfl⟩
  obtain ⟨plain, rfl⟩ := spanOf_ok spanned
  have typePart : part? (skipPlainType rules) (part ++ others) = some (part, others) :=
    part?_eq_some_iff.mpr ⟨rfl, plain⟩
  refine ⟨⟨_, part, ones⟩, ?_, words, ?_, named⟩
  · simp only [fieldSite?, skipped, typePart, reads, Option.map_some]
  · have stands : part ++ others <:+ whole.lexemes := (List.suffix_append _ _).trans inside
    simpa [tokensOf] using Program.stretch_part stands

theorem readVariables?_begins [AllLeave rules] {bound : Nat} {ones : List Variable} {left : List Lexeme}
    (read : readVariables? rules bound lexemes = some (ones, left)) : BeginsVariables rules (tokensOf lexemes) := by
  cases bound with
  | zero => cases read
  | succ bound =>
    unfold readVariables? at read
    split at read
    · cases read
    · next one behind first =>
      obtain ⟨rfl, reads⟩ := readVariable?_eq_some_iff.mp first
      obtain ⟨name, named⟩ := anyWord_ok reads.name
      refine ⟨name, _, _, _, named, reads.dimensions, reads.value, ?_⟩
      split at read
      · next comma => exact .inl (by simp [tokensOf, isMark, comma])
      · split at read
        · next semicolon => exact .inr (by simp [tokensOf, isMark, semicolon])
        · cases read

theorem fieldSite?_form [AllLeave rules] {site : FieldSite} (found : fieldSite? rules lexemes = some site) :
    ∃ modified left afterType, Grammar.modifiers rules (tokensOf lexemes) = .ok (modified, left) ∧
      skipPlainType rules left = .ok afterType ∧ BeginsVariables rules afterType := by
  unfold fieldSite? at found
  split at found
  · cases found
  · next skipped =>
    split at found
    · cases found
    · next typed =>
      obtain ⟨_, read, _⟩ := Option.map_eq_some_iff.mp found
      obtain ⟨_, modified⟩ := part?_eq_some_iff.mp skipped
      obtain ⟨⟨words, left⟩, reads, same⟩ := map_ok modified
      cases same
      exact ⟨words, _, _, reads, (part?_eq_some_iff.mp typed).2, readVariables?_begins read⟩

theorem word_then_mark {mark : Mark} (begins : (startsWord tokens && isMark mark (next tokens)) = true) :
    ∃ word more, tokens = .word word :: .mark mark :: more := by
  obtain ⟨worded, marked⟩ := Bool.and_eq_true_iff.mp begins
  obtain ⟨word, found⟩ := Option.isSome_iff_exists.mp worded
  obtain ⟨more, behind⟩ := isMark_cons marked
  cases tokens with
  | nil => cases found
  | cons token others =>
    have same : others = .mark mark :: more := behind
    cases token with
    | word first => exact ⟨first, more, by rw [same]⟩
    | _ => cases found

theorem typedMember_variables {found : Member} {afterType : Tokens}
    (plain : skipPlainType rules tokens = .ok afterType) (begins : BeginsVariables rules afterType)
    (read : typedMember rules modifiers tokens = .ok (found, rest)) : ∃ declaration, found = .field declaration := by
  have spanned : spanOf (skipPlainType rules) tokens = .ok (⟨tokens.length, afterType.length⟩, afterType) := by
    rw [spanOf, plain]
  rw [typedMember, spanned] at read
  simp only at read
  split at read
  · next called =>
    obtain ⟨word, more, rfl⟩ := word_then_mark called
    exact absurd begins (not_beginsVariables ⟨rfl, rfl, rfl, rfl, rfl⟩)
  · split at read
    · cases read
    · obtain ⟨_, _, same⟩ := map_ok read
      cases same
      exact ⟨_, rfl⟩

-- Behind its modifiers, no other member begins with a type and a variable.
theorem modifiedMember_variables {depth : Nat} {found : Member} {afterType : Tokens}
    (plain : skipPlainType (rulesTo depth) tokens = .ok afterType)
    (begins : BeginsVariables (rulesTo depth) afterType)
    (read : modifiedMember (rulesTo depth) modifiers tokens = .ok (found, rest)) :
    ∃ declaration, found = .field declaration := by
  obtain ⟨first, more, rfl, _⟩ := skipPlainType_ok plain
  have single {mark : Mark} {left : Tokens} (other : mark ∉ [.openSquare, .sign, .equals, .comma, .semicolon])
      (less : mark ≠ .less) (dot : mark ≠ .dot) (same : more = .mark mark :: left) : False := by
    subst same
    have foreign : Foreign (.mark mark :: left) := foreign_mark (by simp [isMark]) other
    have alone : skipPlainType (rulesTo depth) (.word first :: .mark mark :: left) = .ok (.mark mark :: left) :=
      skipPlainType_word foreign (by simpa [isMark] using less) (by simpa [isMark] using dot)
    cases plain.symm.trans alone
    obtain ⟨_, _, _, _, word, _⟩ := begins
    cases word
  unfold modifiedMember at read
  split at read
  · obtain ⟨_, declared, _⟩ := map_ok read
    rcases rulesTo_beginsType declared with ⟨_, sign⟩ | ⟨word, name, behind, same, foreign⟩
    · cases sign
    · cases same
      cases plain.symm.trans (skipPlainType_word (foreign_word name behind) rfl rfl)
      exact absurd begins (not_beginsVariables foreign)
  · split at read
    · next block => cases (Bool.and_eq_true_iff.mp block).2
    · split at read
      · next generic => cases generic
      · split at read
        · next called =>
          obtain ⟨_, _, same⟩ := word_then_mark called
          exact (single (by decide) (by decide) (by decide) (List.cons.inj same).2).elim
        · split at read
          · next compact =>
            obtain ⟨_, _, same⟩ := word_then_mark compact
            exact (single (by decide) (by decide) (by decide) (List.cons.inj same).2).elim
          · exact typedMember_variables plain begins read

theorem modifiers_mark {mark : Mark} {left : Tokens} (sign : mark ≠ .sign) (nonSealed : mark ≠ .nonSealed) :
    Grammar.modifiers rules (.mark mark :: left) = .ok (.none, .mark mark :: left) :=
  modifierSteps_stop (by simp [startsModifier, isMark, isWordOf, sign, nonSealed]) _

-- A member of the form of a declaration of fields is read as fields.
theorem member_site_field {depth : Nat} {site : FieldSite} {found : Member}
    (here : fieldSite? (rulesTo depth) lexemes = some site)
    (read : member (rulesTo depth) (tokensOf lexemes) = .ok (found, rest)) :
    ∃ declaration, found = .field declaration := by
  obtain ⟨modified, left, afterType, modifies, plain, begins⟩ := fieldSite?_form here
  obtain ⟨first, more, rfl, _⟩ := skipPlainType_ok plain
  have unmarked {mark : Mark} (sign : mark ≠ .sign) (nonSealed : mark ≠ .nonSealed) :
      isMark mark (tokensOf lexemes) = false := by
    refine Bool.eq_false_iff.mpr fun marked => ?_
    obtain ⟨behind, same⟩ := isMark_cons marked
    rw [same, modifiers_mark sign nonSealed] at modifies
    cases modifies
  rw [member, unmarked (by decide) (by decide), unmarked (by decide) (by decide)] at read
  simp only [Bool.false_eq_true, if_false, modifies] at read
  exact modifiedMember_variables plain begins read

end Sites

section Bodies
variable {rules : Rules} {lexemes : List Lexeme} {tokens rest : Tokens} {whole : Program}

-- The declarations of fields among the members that stand next.
def bodySites (rules : Rules) : Nat → List Lexeme → List FieldSite
  | 0, _ => []
  | bound + 1, lexemes =>
    if isMark .closeBrace (tokensOf lexemes) then []
    else match part? (skipMember rules) lexemes with
      | none => []
      | some (_, rest) => (fieldSite? rules lexemes).toList ++ bodySites rules bound rest

-- The declarations of fields in the body of the class that stands next.
def classSites (rules : Rules) (lexemes : List Lexeme) : List FieldSite :=
  match part? (sequence
    [skipModifiers rules, keyword "class", anyWord, classHead rules, mark .openBrace]) lexemes with
  | none => []
  | some (_, body) => bodySites rules body.length body

def Item.isClassNamed (name : String) : Item → Bool
  | .classItem declaration => declaration.name.text = name
  | _ => false

def sitesNamed (rules : Rules) (className : String) : Nat → List Lexeme → List FieldSite
  | 0, _ => []
  | bound + 1, lexemes =>
    match item rules (tokensOf lexemes) with
    | .error _ => []
    | .ok (found, left) =>
      if found.isClassNamed className then classSites rules lexemes
      else sitesNamed rules className bound (behind lexemes left)

-- The declarations of fields directly in the body of the first class of a name.
def fieldSites (source className : String) : List FieldSite :=
  sitesNamed (rulesTo (depthOf (tokensOf (Java.lexemes source)))) className (Java.lexemes source).length
    (Java.lexemes source)

def fieldsAmong (members : List Member) : List FieldDeclaration :=
  members.filterMap fun
    | .field declaration => some declaration
    | _ => none

-- A member is read as fields exactly if it has their form.
theorem member_tells {depth : Nat} {found : Member}
    (genuine : ∀ lexeme ∈ whole.lexemes, lexeme.Genuine) (inside : lexemes <:+ whole.lexemes)
    (read : member (rulesTo depth) (tokensOf lexemes) = .ok (found, rest)) :
    List.Forall₂ (FieldSite.Tells whole) (fieldSite? (rulesTo depth) lexemes).toList (fieldsAmong [found]) := by
  cases here : fieldSite? (rulesTo depth) lexemes with
  | none =>
    cases found with
    | field declaration =>
      obtain ⟨site, there, _⟩ := member_field_site genuine inside read
      cases here.symm.trans there
    | method _ => exact .nil
    | other => exact .nil
  | some site =>
    obtain ⟨declaration, rfl⟩ := member_site_field here read
    obtain ⟨again, there, tells⟩ := member_field_site genuine inside read
    cases here.symm.trans there
    exact .cons tells .nil

theorem members_tell {depth bound : Nat} {found : List Member}
    (genuine : ∀ lexeme ∈ whole.lexemes, lexeme.Genuine) (inside : lexemes <:+ whole.lexemes)
    (read : collectSteps (fun tokens => !isMark .closeBrace tokens) (member (rulesTo depth)) bound
      (tokensOf lexemes) = .ok (found, rest)) :
    List.Forall₂ (FieldSite.Tells whole) (bodySites (rulesTo depth) bound lexemes) (fieldsAmong found) := by
  induction bound generalizing lexemes found with
  | zero =>
    cases read
    exact .nil
  | succ bound ih =>
    obtain ⟨closed, rfl, _⟩ | ⟨first, _, others, goesOn, membered, collected, rfl⟩ :=
      collectSteps_cases read
    · have closing : isMark .closeBrace (tokensOf lexemes) = true := by simpa using closed
      rw [bodySites, closing, if_pos rfl]
      exact .nil
    · obtain ⟨part, left, rfl, rfl⟩ := suffix_parts (LeavesAfter.suffix membered)
      have skipped : part? (skipMember (rulesTo depth)) (part ++ left) = some (part, left) :=
        part?_eq_some_iff.mpr ⟨rfl, by rw [skipMember, membered]; rfl⟩
      have more := ih ((List.suffix_append part left).trans inside) collected
      have parted : fieldsAmong ([first] ++ others) = fieldsAmong [first] ++ fieldsAmong others :=
        List.filterMap_append
      have unclosed : isMark .closeBrace (tokensOf (part ++ left)) = false := by simpa using goesOn
      rw [bodySites, unclosed, ← List.singleton_append, parted]
      simp only [Bool.false_eq_true, if_false, skipped]
      exact List.rel_append (member_tells genuine inside membered) more

theorem class_tells {depth : Nat} {found : Modifiers} {left : Tokens} {declaration : ClassDeclaration}
    (genuine : ∀ lexeme ∈ whole.lexemes, lexeme.Genuine) (inside : lexemes <:+ whole.lexemes)
    (modified : Grammar.modifiers (rulesTo depth) (tokensOf lexemes) = .ok (found, left))
    (read : classDeclaration (rulesTo depth) found left = .ok (declaration, rest)) :
    List.Forall₂ (FieldSite.Tells whole) (classSites (rulesTo depth) lexemes) (fieldsAmong declaration.members) := by
  obtain ⟨_, _, _, keyed, named, headed, bodied, _⟩ := classDeclaration_ok read
  obtain ⟨body, _, rfl, collected, _⟩ := classBody_ok bodied
  have head : sequence [skipModifiers (rulesTo depth), keyword "class", anyWord, classHead (rulesTo depth),
      mark .openBrace] (tokensOf lexemes) = .ok body := by
    rw [sequence_cons (by rw [skipModifiers, modified]; rfl), sequence_cons keyed,
      sequence_cons (by rw [anyWord, named]; rfl), sequence_cons headed, sequence_cons (mark_mark _ _)]
    rfl
  obtain ⟨part, left, rfl, rfl⟩ := suffix_parts (Leaves.suffix head)
  have parted := part?_eq_some_iff.mpr ⟨rfl, head⟩
  have stands := (List.suffix_append part left).trans inside
  rw [Grammar.members, collect, tokensOf, List.length_map] at collected
  rw [classSites, parted]
  exact members_tell genuine stands collected

end Bodies

section Places
variable {rules : Rules} {lexemes rest : List Lexeme} {one : Variable} {site : FieldSite}

-- A declaration of fields that stands among some lexemes.
structure FieldSite.Placed (lexemes : List Lexeme) (site : FieldSite) : Prop where
  stands : site.stretch <:+: lexemes
  type : site.type ≠ []
  declared : ∀ one ∈ site.declared, one.Formed

theorem FieldSite.stretch_subset (declared : one ∈ site.declared) : one.stretch ⊆ site.stretch := by
  intro lexeme inside
  simp only [FieldSite.stretch, List.mem_append, List.mem_flatMap]
  exact .inr (.inr ⟨one, declared, inside⟩)

theorem fieldSite?_placed [AllLeave rules] (found : fieldSite? rules lexemes = some site) :
    site.Placed lexemes := by
  unfold fieldSite? at found
  split at found
  · cases found
  · next skipped =>
    split at found
    · cases found
    · next type afterType typed =>
      obtain ⟨⟨ones, left⟩, read, rfl⟩ := Option.map_eq_some_iff.mp found
      obtain ⟨whole, modified⟩ := part?_eq_some_iff.mp skipped
      obtain ⟨⟨words, _⟩, reads, same⟩ := map_ok modified
      cases same
      rw [Grammar.modifiers, tokensOf, List.length_map] at reads
      obtain ⟨after, stretch, behind, _⟩ := modifierSteps_parts reads
      have length := congrArg List.length behind
      simp only [tokensOf, List.length_map] at length
      obtain ⟨_, rfl⟩ := List.append_inj' (whole.symm.trans stretch) length.symm
      obtain ⟨rfl, plain⟩ := part?_eq_some_iff.mp typed
      obtain ⟨rfl, formed⟩ := readVariables?_formed read
      refine ⟨⟨[], left, ?_⟩, ?_, formed⟩
      · rw [FieldSite.stretch, List.nil_append, List.append_assoc, List.append_assoc]
        exact stretch.symm
      · rintro rfl
        obtain ⟨word, more, same, inside⟩ := skipPlainType_ok plain
        have fewer := inside.length_le
        have lengths := congrArg List.length same
        rw [List.nil_append, List.length_cons] at lengths
        omega

theorem FieldSite.Placed.within {whole : List Lexeme} (placed : site.Placed lexemes)
    (inside : lexemes <:+ whole) : site.Placed whole :=
  ⟨placed.stands.trans inside.isInfix, placed.type, placed.declared⟩

theorem bodySites_placed [AllLeave rules] {bound : Nat} :
    ∀ site ∈ bodySites rules bound lexemes, site.Placed lexemes := by
  induction bound generalizing lexemes with
  | zero => exact List.forall_mem_nil _
  | succ bound ih =>
    unfold bodySites
    split
    · exact List.forall_mem_nil _
    · split
      · exact List.forall_mem_nil _
      · next part behind skipped =>
        obtain ⟨rfl, _⟩ := part?_eq_some_iff.mp skipped
        refine List.forall_mem_append.mpr ⟨?_, ?_⟩
        · intro site member
          exact fieldSite?_placed (Option.mem_toList.mp member)
        · intro site member
          exact (ih site member).within (List.suffix_append _ _)

theorem classSites_placed [AllLeave rules] : ∀ site ∈ classSites rules lexemes, site.Placed lexemes := by
  unfold classSites
  split
  · exact List.forall_mem_nil _
  · next part body headed =>
    obtain ⟨rfl, _⟩ := part?_eq_some_iff.mp headed
    intro site member
    exact (bodySites_placed site member).within (List.suffix_append _ _)

theorem sitesNamed_placed [AllLeave rules] {className : String} {bound : Nat} :
    ∀ site ∈ sitesNamed rules className bound lexemes, site.Placed lexemes := by
  induction bound generalizing lexemes with
  | zero => exact List.forall_mem_nil _
  | succ bound ih =>
    unfold sitesNamed
    split
    · exact List.forall_mem_nil _
    · split
      · exact classSites_placed
      · intro site member
        exact (ih site member).within (List.drop_suffix _ _)

theorem fieldSites_placed {source className : String} :
    ∀ site ∈ fieldSites source className, site.Placed (Java.lexemes source) := sitesNamed_placed

end Places
end SpringSkeleton.Java
