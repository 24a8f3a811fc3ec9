import SpringSkeleton.Proofs.FeatureModule.Extraction
import SpringSkeleton.Proofs.Java.Strays

namespace SpringSkeleton.FeatureModule.Sources
open Java Grammar

section Packages
variable {rules : Rules} {rest : Tokens}

theorem dottedTokens_name (first : Word) (others : List Word) (rest : Tokens) :
    dottedTokens (first :: others) ++ rest = nameTokens first others ++ .mark .dot :: rest := by
  induction others generalizing first with
  | nil => rfl
  | cons next more ih => exact congrArg (fun tokens => .word first :: .mark .dot :: tokens) (ih next)

theorem dottedTokens_word (words : List Word) (last : Word) (rest : Tokens) : ∃ first others,
    dottedTokens words ++ .word last :: rest = nameTokens first others ++ rest := by
  induction words with
  | nil => exact ⟨last, [], rfl⟩
  | cons word more ih =>
    obtain ⟨first, others, same⟩ := ih
    have longer := congrArg (fun tokens => Token.word word :: .mark .dot :: tokens) same
    exact ⟨word, first :: others, longer⟩

-- After the name of a package there must be a semicolon.
theorem item_package_open (first : Word) (others : List Word) (stop : continuesName rest = false)
    (unended : isMark .semicolon rest = false) : ∃ place,
      item rules (.word (.of "package") :: (nameTokens first others ++ rest)) = .error place := by
  have named : ∃ span, spanOf qualifiedName (nameTokens first others ++ rest) = .ok (span, rest) := by
    rw [spanOf, qualifiedName_name first others stop]
    exact ⟨_, rfl⟩
  obtain ⟨span, named⟩ := named
  have item : item rules (.word (.of "package") :: (nameTokens first others ++ rest)) =
    itemPackage (.word (.of "package") :: (nameTokens first others ++ rest)) := rfl
  have ending : Grammar.mark .semicolon rest = .error rest.length := by
    rw [Grammar.mark, unended]
    rfl
  refine ⟨rest.length, ?_⟩
  rw [item, itemPackage, packageName, keyword_of]
  simp only [named, ending, Except.map]

theorem item_package_stray (words : List Word) {tokens : Tokens} (few : AtMostWord tokens) (later : Tokens) :
    ∃ place, item rules (.word (.of "package") :: (dottedTokens words ++ (tokens ++ .stray :: later))) =
      .error place := by
  rcases few with rfl | ⟨word, rfl⟩
  · cases words with
    | nil => exact ⟨_, rfl⟩
    | cons first others =>
      rw [List.nil_append, dottedTokens_name]
      exact item_package_open first others rfl rfl
  · obtain ⟨first, others, same⟩ := dottedTokens_word words word (.stray :: later)
    rw [List.singleton_append, same]
    exact item_package_open first others rfl rfl

-- No class can be read whose name is no word, or is followed by no brace.
theorem item_class_stray {tokens : Tokens} {modifiers : Modifiers} {few : Tokens} {later : Tokens}
    (modified : Grammar.modifiers rules (.mark .sign :: tokens) =
      .ok (modifiers, .word (.of "class") :: (few ++ .stray :: later))) (atMost : AtMostWord few) :
    ∃ place, item rules (.mark .sign :: tokens) = .error place := by
  have starts : startsModified (.mark .sign :: tokens) = true := rfl
  have class_ : item rules (.mark .sign :: tokens) =
      itemClass rules modifiers (.word (.of "class") :: (few ++ .stray :: later)) := by
    simp only [item, starts, if_true, modified]
    rfl
  rw [class_]
  rcases atMost with rfl | ⟨word, rfl⟩
  · exact ⟨_, rfl⟩
  · exact ⟨_, rfl⟩

end Packages

section Sources
variable {spec : FeatureModule}

theorem exists_words {names : List String} (valid : ∀ name ∈ names, isWord name = true) :
    ∃ words : List Word, words.map (·.text) = names := by
  induction names with
  | nil => exact ⟨[], rfl⟩
  | cons name more ih =>
    obtain ⟨first, others⟩ := List.forall_mem_cons.mp valid
    obtain ⟨words, rfl⟩ := ih others
    exact ⟨⟨name, first⟩ :: words, rfl⟩

theorem first_unword {names : List String} (other : ∃ name ∈ names, isWord name = false) :
    ∃ name front back, names = front ++ name :: back ∧ (∀ word ∈ front, isWord word = true) ∧
      isWord name = false := by
  cases found : names.find? fun name => !isWord name with
  | none =>
    obtain ⟨name, member, unword⟩ := other
    have word := List.find?_eq_none.mp found name member
    simp [unword] at word
  | some name =>
    obtain ⟨unword, front, back, parted, valid⟩ := List.find?_eq_some_iff_append.mp found
    exact ⟨name, front, back, parted, by simpa using valid, by simpa using unword⟩

theorem sourceText_toList (before : List String) (line : String) (after : List String) :
    (sourceText (before ++ line :: after)).toList =
      (sourceText before).toList ++ (line.toList ++ '\n' :: (sourceText after).toList) := by
  simp [sourceText]

-- Whatever source begins with a package that has a name which is no word.
theorem package_refused {names : List String} (joined : Text.joined '.' names = spec.featurePackage)
    (like : ∀ name ∈ names, LikeName name) (other : ∃ name ∈ names, isWord name = false)
    (after : List String) :
    ∃ place, items (tokensOf (lexemes (sourceText (spec.packageLine :: after)))) = .error place := by
  obtain ⟨name, front, back, parted, valid, unword⟩ := first_unword other
  obtain ⟨words, rfl⟩ := exists_words valid
  have begins := like name (by simp [parted])
  obtain ⟨tail, chars⟩ := joined_front words name back
  rw [← parted, joined] at chars
  have whole : (sourceText (spec.packageLine :: after)).toList = "package".toList ++ ' ' ::
      (dottedChars words ++ (name.toList ++ (tail ++ ';' :: '\n' :: (sourceText after).toList))) := by
    have start : "package ".toList = "package".toList ++ [' '] := by decide
    have text := sourceText_toList [] spec.packageLine after
    simp only [List.nil_append] at text
    rw [text, packageLine, String.toList_append, String.toList_append, chars, start]
    simp [sourceText]
  obtain ⟨few, c, rest, atMost, strange, reads⟩ :=
    begins.reads unword (tail ++ ';' :: '\n' :: (sourceText after).toList)
  obtain ⟨d, more, first, starts, _⟩ := begins
  have dotted := Reads.dotted words starts (more ++ (tail ++ ';' :: '\n' :: (sourceText after).toList))
  rw [← List.cons_append, ← first] at dotted
  have front := (Reads.word (.of "package") _).append (dotted.append reads)
  rw [Word.of, ← whole] at front
  have plain : (sourceText (spec.packageLine :: after)).toList.head? ≠ some byteOrderMark := by
    rw [whole]
    show some 'p' ≠ some byteOrderMark
    decide
  obtain ⟨later, tokens⟩ := tokens_stray plain strange front
  rw [tokens, List.append_assoc, List.append_assoc]
  exact items_failed (.done _) (List.cons_ne_nil _ _) (item_package_stray words atMost later)

-- A class that is to be named by what is no word.
theorem class_refused {first : Word} {others : List Word}
    (named : Text.joined '.' (first.text :: others.map (·.text)) = spec.featurePackage)
    (like : LikeName spec.entity) (other : isWord spec.entity = false) :
    ∃ place, items (tokensOf (lexemes (sourceText spec.serviceLines))) = .error place := by
  have spelled : List.Forall₂ Spells (head first others serviceImports ++ markerLines)
      (spec.serviceLines.take 11) := by
    have markers : List.Forall₂ Spells markerLines ["@Service", "@Transactional"] :=
      .cons rfl (.cons rfl .nil)
    exact List.rel_append (serviceHead_spelled named) markers
  have spaced : ∀ line ∈ head first others serviceImports ++ markerLines, line.spaced = true :=
    List.forall_mem_append.mpr ⟨head_spaced _ _ rfl, by decide⟩
  obtain ⟨rest, whole⟩ : ∃ rest, (sourceText spec.serviceLines).toList =
      linesChars (head first others serviceImports ++ markerLines) ++ ("public".toList ++ ' ' ::
        ("class".toList ++ ' ' :: (spec.entity.toList ++ rest))) := by
    have parts : spec.serviceLines = spec.serviceLines.take 11 ++
      ("public class " ++ spec.entity ++ "Service \x7b") :: spec.serviceLines.drop 12 := rfl
    have start : "public class ".toList = "public".toList ++ ' ' :: ("class".toList ++ [' ']) := by decide
    rw [parts, sourceText_toList, sourceText_spelled spelled, String.toList_append, String.toList_append,
      start]
    exact ⟨_, by simp only [List.append_assoc, List.cons_append, List.nil_append]; rfl⟩
  obtain ⟨few, c, after, atMost, strange, reads⟩ := like.reads other rest
  have front := (Reads.lines spaced _).append
    ((Reads.word (.of "public") _).append ((Reads.word (.of "class") _).append reads))
  have plain : (sourceText spec.serviceLines).toList.head? ≠ some byteOrderMark := by
    rw [whole]
    show some 'p' ≠ some byteOrderMark
    decide
  simp only [Word.of] at front
  rw [← whole] at front
  obtain ⟨later, tokens⟩ := tokens_stray plain strange front
  have imported : ∀ type ∈ serviceImports, type.1.text ≠ "static" := by decide
  rw [tokens, linesTokens_append, List.append_assoc, List.append_assoc]
  exact items_failed (items_head first others imported (.done _)) (List.cons_ne_nil _ _)
    (item_class_stray rfl atMost)

end Sources

end SpringSkeleton.FeatureModule.Sources
