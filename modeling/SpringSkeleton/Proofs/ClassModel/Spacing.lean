import SpringSkeleton.Proofs.ClassModel.Mocks
import SpringSkeleton.Proofs.Java.Naming
import SpringSkeleton.Proofs.Java.Spelling
import SpringSkeleton.Proofs.Keyed

namespace SpringSkeleton

namespace Java

-- A closing angle bracket that is joined to the next character is another token than one that is not.
def SameTokens (one other : String) : Prop := tokensOf (lexemes one) = tokensOf (lexemes other)

instance (one other : String) : Decidable (SameTokens one other) := inferInstanceAs (Decidable (_ = _))

def Token.unjoined : Token → Token
  | .greater _ => .greater false
  | token => token

-- Sources that are read as the same items, from tokens that are the same whatever brackets are joined to:
-- between two brackets that close type arguments there may be a blank or none.
structure ReadAlike (one other : String) : Prop where
  items : (Grammar.items (tokensOf (lexemes one))).toOption =
    (Grammar.items (tokensOf (lexemes other))).toOption
  tokens : (tokensOf (lexemes one)).map Token.unjoined = (tokensOf (lexemes other)).map Token.unjoined

theorem SameTokens.readAlike {one other : String} (same : SameTokens one other) : ReadAlike one other :=
  ⟨congrArg (fun tokens => (Grammar.items tokens).toOption) same, congrArg (List.map Token.unjoined) same⟩

-- The lexemes of a name: words with dots between them.
structure IsName (name : List Lexeme) : Prop where
  tokens : ∃ first others, tokensOf name = Grammar.nameTokens first others
  genuine : ∀ lexeme ∈ name, lexeme.Genuine

-- Nothing stands between the words and dots of a name.
def Tight (name : List Lexeme) : Prop := ∀ lexeme ∈ name.tail, lexeme.gap = []

-- Nothing stands between the last dot of a name and its last word.
def TightEnd (name : List Lexeme) : Prop := ∀ lexeme ∈ name.tail.getLast?, lexeme.gap = []

instance (name : List Lexeme) : Decidable (Tight name) := inferInstanceAs (Decidable (∀ _ ∈ _, _))

instance (name : List Lexeme) : Decidable (TightEnd name) := inferInstanceAs (Decidable (∀ _ ∈ _, _))

-- What a name says, whatever stands between its words.
def bareName (name : List Lexeme) : String := String.ofList (name.flatMap (·.text))

def lastWord (name : List Lexeme) : String := String.ofList ((name.getLast?.map (·.text)).getD [])

section Names
variable {name : List Lexeme}

theorem written_eq_bareName_iff (some_ : name ≠ []) : written name = bareName name ↔ Tight name := by
  obtain ⟨first, rest, rfl⟩ := List.exists_cons_of_ne_nil some_
  rw [written, bareName, List.flatMap_cons, String.ofList_inj, List.append_cancel_left_eq, Tight, List.tail_cons]
  clear some_
  -- What is left out are the gaps, so the lengths tell whether there are any.
  have lengths : (rest.flatMap fun lexeme => lexeme.gap ++ lexeme.text).length =
      (rest.flatMap (·.text)).length + (rest.flatMap (·.gap)).length := by
    induction rest with
    | nil => rfl
    | cons lexeme others ih =>
      simp only [List.flatMap_cons, List.length_append, ih]
      omega
  constructor
  · intro same lexeme member
    rw [same] at lengths
    have none : rest.flatMap (·.gap) = [] := List.length_eq_zero_iff.mp (by omega)
    exact List.flatMap_eq_nil_iff.mp none lexeme member
  · intro tight
    refine List.flatMap_congr fun lexeme member => ?_
    rw [tight lexeme member, List.nil_append]

theorem IsName.ne_nil (named : IsName name) : name ≠ [] := by
  obtain ⟨first, others, tokens⟩ := named.tokens
  rintro rfl
  cases tokens

-- A name of one word, or a name with a dot and a word behind it.
theorem IsName.cases_end (named : IsName name) :
    (∃ (last : Lexeme) (word : Word), name = [last] ∧ last.text = word.text.toList) ∨
    ∃ (front : List Lexeme) (dot last : Lexeme) (word : Word), front ≠ [] ∧ name = front ++ [dot, last] ∧
      dot.text = ['.'] ∧ Gap last.gap ∧ last.text = word.text.toList := by
  obtain ⟨first, others, tokens⟩ := named.tokens
  rcases List.eq_nil_or_concat others with rfl | ⟨init, word, rfl⟩
  · obtain ⟨last, rfl, token⟩ := List.map_eq_singleton_iff.mp tokens
    exact .inl ⟨last, first, rfl, (named.genuine last (List.mem_singleton_self _)).word token⟩
  · have parted : tokensOf name = Grammar.nameTokens first init ++ [.mark .dot, .word word] := by
      simp [tokens, Grammar.nameTokens]
    obtain ⟨front, back, rfl, before, after⟩ := List.map_eq_append_iff.mp parted
    obtain ⟨dot, rest, rfl, dotted, more⟩ := List.map_eq_cons_iff.mp after
    obtain ⟨last, rfl, token⟩ := List.map_eq_singleton_iff.mp more
    have genuineDot := named.genuine dot (by simp)
    have genuineLast := named.genuine last (by simp)
    obtain ⟨text, among, spelled⟩ := genuineDot.mark dotted
    have only : ∀ entry ∈ markTexts, entry.2 = .dot → entry.1 = "." := by decide
    have same : text = "." := only (text, .dot) among rfl
    refine .inr ⟨front, dot, last, word, ?_, rfl, ?_, genuineLast.gap, genuineLast.word token⟩
    · rintro rfl
      cases before
    · rw [spelled, same]
      rfl

theorem tightEnd_iff {front : List Lexeme} {dot last : Lexeme} (some_ : front ≠ []) :
    TightEnd (front ++ [dot, last]) ↔ last.gap = [] := by
  have ending : (front ++ [dot, last]).tail.getLast? = some last := by
    rw [List.tail_append_of_ne_nil some_, List.getLast?_append_of_ne_nil _ (List.cons_ne_nil dot _)]
    rfl
  rw [TightEnd, ending]
  simp

theorem IsName.lastWord_word (named : IsName name) : isWord (lastWord name) = true := by
  rcases named.cases_end with ⟨last, word, rfl, text⟩ | ⟨front, dot, last, word, _, rfl, _, _, text⟩
  · simpa [lastWord, text] using word.valid
  · simpa [lastWord, text] using word.valid

-- How the tokens of a name are spelled.
def Token.spelling : Token → List Char
  | .word found => found.text.toList
  | .mark found => found.spelling
  | _ => []

theorem IsName.texts (named : IsName name) : name.map (·.text) = (tokensOf name).map Token.spelling := by
  obtain ⟨first, others, tokens⟩ := named.tokens
  rw [tokensOf, List.map_map]
  refine List.map_congr_left fun lexeme member => ?_
  have among : lexeme.token ∈ Grammar.nameTokens first others := tokens ▸ List.mem_map_of_mem member
  have kind : (∃ word, lexeme.token = .word word) ∨ lexeme.token = .mark .dot := by
    rcases List.mem_cons.mp among with here | later
    · exact .inl ⟨first, here⟩
    · obtain ⟨word, _, inside⟩ := List.mem_flatMap.mp later
      rcases List.mem_pair.mp inside with dot | here
      · exact .inr dot
      · exact .inl ⟨word, here⟩
  rcases kind with ⟨word, token⟩ | token
  · rw [(named.genuine lexeme member).word token, Function.comp_apply, token]
    rfl
  · obtain ⟨text, entry, spelled⟩ := (named.genuine lexeme member).mark token
    have only : ∀ entry ∈ markTexts, entry.2 = .dot → entry.1.toList = Mark.dot.spelling := by decide
    rw [spelled, Function.comp_apply, token]
    exact only (text, .dot) entry rfl

theorem map_spelling (tokens : Tokens) :
    tokens.map Token.spelling = (tokens.map Token.unjoined).map Token.spelling := by
  rw [List.map_map]
  refine List.map_congr_left fun token _ => ?_
  cases token <;> rfl

-- What a name says comes from its tokens, and no bracket is among them.
theorem IsName.alike {other : List Lexeme} (named : IsName name) (again : IsName other)
    (same : (tokensOf name).map Token.unjoined = (tokensOf other).map Token.unjoined) :
    bareName name = bareName other ∧ lastWord name = lastWord other := by
  have texts : name.map (·.text) = other.map (·.text) := by
    rw [named.texts, again.texts, map_spelling, map_spelling (tokensOf other), same]
  constructor
  · rw [bareName, bareName, List.flatMap_def, List.flatMap_def, texts]
  · rw [lastWord, lastWord, ← List.getLast?_map, ← List.getLast?_map, texts]

theorem Program.isName_stretch {source : String} {program : Program} {span : Span}
    (lexed : program.lexemes = Java.lexemes source) (named : Grammar.Named (tokensOf program.lexemes) span) :
    IsName (program.stretch span) := by
  obtain ⟨first, others, rest, stands, rfl⟩ := named
  refine ⟨⟨first, others, Program.tokensOf_stretch stands⟩, fun lexeme member => ?_⟩
  exact lexemes_genuine source lexeme (lexed ▸ program.stretch_subset _ member)

end Names
end Java

namespace Text

-- The last piece of a text holds the end of the text, as far as there is no separator in it.
theorem cut_getLast? {separator : Char} {ending : List Char} (front : List Char) (clean : separator ∉ ending) :
    ∃ piece, (cut separator (front ++ ending)).getLast? = some piece ∧ ending <:+ piece := by
  induction front with
  | nil => exact ⟨ending, by rw [List.nil_append, cut_of_not_mem clean]; rfl, List.suffix_rfl⟩
  | cons c rest ih =>
    obtain ⟨piece, last, inside⟩ := ih
    rw [List.cons_append, cut]
    split
    · refine ⟨piece, ?_, inside⟩
      rw [List.getLast?_cons, last]
      rfl
    · split
      · next none => exact absurd none (cut_ne_nil separator _)
      · next only more found =>
        rw [found] at last
        cases more with
        | nil =>
          cases last
          exact ⟨c :: only, rfl, inside.trans (List.suffix_cons c only)⟩
        | cons next others => exact ⟨piece, last, inside⟩

end Text

namespace ClassModel
open Java (Lexeme IsName Tight TightEnd Word lastWord bareName isWord)

variable {name : List Lexeme}

section Markers

theorem simpleName_behind (front back : List Char) :
    simpleName (String.ofList (front ++ '.' :: back)) =
      String.ofList (((Text.cut '.' back).getLast?).getD []) := by
  have some_ : Text.cut '.' back ≠ [] := Text.cut_ne_nil '.' back
  rw [simpleName, Text.pieces, String.toList_ofList, Text.cut_append, List.getLast?_map,
    List.getLast?_append_of_ne_nil _ some_, List.getLast?_eq_some_getLast some_]
  rfl

theorem simpleName_dotted {front : List Lexeme} {dot last : Lexeme} (some_ : front ≠ [])
    (dotted : dot.text = ['.']) : simpleName (Java.written (front ++ [dot, last])) =
      String.ofList (((Text.cut '.' (last.gap ++ last.text)).getLast?).getD []) := by
  have written : Java.written (front ++ [dot, last]) = String.ofList
      ((Java.written front).toList ++ dot.gap ++ '.' :: (last.gap ++ last.text)) := by
    rw [Java.written_append some_]
    simp [dotted]
  rw [written, simpleName_behind]

theorem simpleName_word (word : Word) : simpleName word.text = word.text := by
  rw [simpleName, Text.pieces_of_not_mem (word.not_mem (by decide))]
  rfl

-- The simple name of an annotation is the last word of its name, if nothing stands before the word.
theorem simpleName_tightEnd (named : IsName name) (tight : TightEnd name) :
    simpleName (Java.written name) = lastWord name := by
  rcases named.cases_end with ⟨last, word, rfl, text⟩ | ⟨front, dot, last, word, some_, rfl, dotted, _, text⟩
  · have written : Java.written [last] = word.text := by simp [Java.written, text]
    rw [written, simpleName_word]
    simp [lastWord, text]
  · have none : last.gap = [] := (Java.tightEnd_iff some_).mp tight
    rw [simpleName_dotted some_ dotted, none, List.nil_append, text,
      Text.cut_of_not_mem (word.not_mem (by decide))]
    simp [lastWord, text]

-- Otherwise it is no word at all: it holds what the gap before the word ends in.
theorem tightEnd_of_word (named : IsName name) (valid : isWord (simpleName (Java.written name)) = true) :
    TightEnd name := by
  rcases named.cases_end with ⟨last, word, rfl, text⟩ | ⟨front, dot, last, word, some_, rfl, dotted, gap, text⟩
  · exact nofun
  · rw [Java.tightEnd_iff some_]
    rcases List.eq_nil_or_concat last.gap with none | ⟨before, c, whole⟩
    · exact none
    · have ends : c ∈ Java.otherStarts := (gap c (by simp [whole])).other
      have dot : c ≠ '.' := by
        rintro rfl
        rcases gap '.' (by simp [whole]) with blank | slash
        · cases blank
        · cases slash
      have clean : '.' ∉ c :: word.text.toList := by
        simp [dot.symm, word.not_mem (show '.' ∈ Java.otherStarts by decide)]
      obtain ⟨piece, found, inside⟩ := Text.cut_getLast? before clean
      have chars : last.gap ++ last.text = before ++ c :: word.text.toList := by simp [whole, text]
      rw [simpleName_dotted some_ dotted, chars, found, Option.getD_some] at valid
      have member : c ∈ piece := inside.subset List.mem_cons_self
      have absent := Word.not_mem ⟨_, valid⟩ ends
      exact absurd (String.toList_ofList.symm ▸ member) absent

end Markers

-- The names that a class is known by: that of the package of its source, if it has one, and those of the
-- annotations on the class, each with what stands between its words.
structure Names where
  package : Option (List Lexeme)
  annotations : List (List Lexeme)

namespace Names

def packageSpan? : List Java.Item → Option Java.Span
  | [] => none
  | .package name :: _ => some name
  | _ :: items => packageSpan? items

def find? (source className : String) : Option Names :=
  match Java.parse source with
  | .error _ => none
  | .ok program => (classNamed? className program.items).map fun declaration =>
    { package := (packageSpan? program.items).map program.stretch
      annotations := declaration.modifiers.annotations.map program.stretch }

-- The simple names of the annotations, each once, in ascending order.
def simpleNames (names : Names) : List String :=
  Keyed.keys (Keyed.ofList (names.annotations.map fun name => (lastWord name, ())))

-- An annotation that makes a class face the web, with nothing before its last word.
def FacesWeb (names : Names) : Prop :=
  ∃ name ∈ names.annotations, TightEnd name ∧ lastWord name ∈ controllerMarkers

-- What is found out about a class, against what the tokens of its names say.
structure Tell (names : Names) (fallback : String) (model : ClassModel) : Prop where
  package : model.package = (names.package.map bareName).getD fallback ↔
    ∀ name ∈ names.package, Tight name
  markers : model.markers = names.simpleNames ↔ ∀ name ∈ names.annotations, TightEnd name
  role : model.role = .httpFacing ↔ names.FacesWeb
  test : model.testLines model.role = model.webTestLines ↔ names.FacesWeb

-- Names of the same words.
structure Alike (one other : Names) : Prop where
  package : one.package.map bareName = other.package.map bareName
  annotations : one.annotations.map lastWord = other.annotations.map lastWord

theorem Alike.simpleNames {one other : Names} (alike : Alike one other) :
    one.simpleNames = other.simpleNames := by
  have texts : ∀ names : Names, names.annotations.map (fun name => (lastWord name, ())) =
      (names.annotations.map lastWord).map fun text => (text, ()) := fun names => by
    rw [List.map_map]
    rfl
  rw [Names.simpleNames, Names.simpleNames, texts, texts, alike.annotations]

end Names

section Extracted
variable {fallback className source : String} {program : Java.Program} {model : ClassModel}
  {declaration : Java.ClassDeclaration}

theorem classNamed?_mem {items : List Java.Item} (found : classNamed? className items = some declaration) :
    .classItem declaration ∈ items := by
  induction items with
  | nil => cases found
  | cons item others ih =>
    unfold classNamed? at found
    split at found
    · cases found
    · next same =>
      obtain ⟨rfl, rfl⟩ := List.cons.inj same
      split at found
      · cases found
        exact List.mem_cons_self
      · exact List.mem_cons_of_mem _ (ih found)
    · next same =>
      obtain ⟨rfl, rfl⟩ := List.cons.inj same
      exact List.mem_cons_of_mem _ (ih found)

theorem packageSpan?_mem {items : List Java.Item} {span : Java.Span}
    (found : Names.packageSpan? items = some span) : .package span ∈ items := by
  induction items with
  | nil => cases found
  | cons item others ih => cases item with
    | package name =>
      cases found
      exact List.mem_cons_self
    | classItem _ => exact List.mem_cons_of_mem _ (ih found)
    | other => exact List.mem_cons_of_mem _ (ih found)

theorem packageOf?_eq (program : Java.Program) (items : List Java.Item) :
    packageOf? program items = (Names.packageSpan? items).map program.written := by
  induction items with
  | nil => rfl
  | cons item others ih => cases item with
    | package name => rfl
    | classItem _ => exact ih
    | other => exact ih

-- A class is found in what a source is read as.
theorem extract_ok_iff : extract fallback ⟨source, className⟩ = .ok model ↔
    ∃ program declaration, Java.parse source = .ok program ∧
      classNamed? className program.items = some declaration ∧
      model = ofDeclaration program ((packageOf? program program.items).getD fallback) declaration := by
  unfold extract
  cases parsed : Java.parse source with
  | error line => simp
  | ok program =>
    cases declared : classNamed? className program.items with
    | none => simp [declared]
    | some declaration => simp [declared, eq_comm]

theorem annotations_named (parsed : Java.parse source = .ok program)
    (declared : classNamed? className program.items = some declaration) :
    ∀ span ∈ declaration.modifiers.annotations, IsName (program.stretch span) := by
  obtain ⟨lexed, read⟩ := Java.parse_ok_iff.mp parsed
  obtain ⟨left, rest, inside, _, modified, _⟩ := Java.Grammar.items_from read (classNamed?_mem declared)
  intro span member
  have named := Java.Grammar.modifiers_named modified span member
  exact Java.Program.isName_stretch lexed (lexed ▸ named.within inside)

theorem package_named (parsed : Java.parse source = .ok program) {span : Java.Span}
    (found : Names.packageSpan? program.items = some span) : IsName (program.stretch span) := by
  obtain ⟨lexed, read⟩ := Java.parse_ok_iff.mp parsed
  obtain ⟨left, rest, inside, named⟩ := Java.Grammar.items_from read (packageSpan?_mem found)
  exact Java.Program.isName_stretch lexed (lexed ▸ Java.Grammar.Named.within named inside)

theorem find?_names (parsed : Java.parse source = .ok program)
    (declared : classNamed? className program.items = some declaration) :
    Names.find? source className = some
      { package := (Names.packageSpan? program.items).map program.stretch
        annotations := declaration.modifiers.annotations.map program.stretch } := by
  simp [Names.find?, parsed, declared]

-- Every name that was found is made of words and dots.
theorem find?_isName {names : Names} (found : Names.find? source className = some names) :
    (∀ name ∈ names.package, IsName name) ∧ ∀ name ∈ names.annotations, IsName name := by
  unfold Names.find? at found
  split at found
  · cases found
  · next program parsed =>
    obtain ⟨declaration, declared, rfl⟩ := Option.map_eq_some_iff.mp found
    constructor
    · intro name member
      obtain ⟨span, here, rfl⟩ := Option.map_eq_some_iff.mp member
      exact package_named parsed here
    · intro name member
      obtain ⟨span, here, rfl⟩ := List.mem_map.mp member
      exact annotations_named parsed declared span here

end Extracted

section Told
variable {fallback className source : String} {names : Names} {model : ClassModel}

-- The package and the markers of a class are read off the names as they are written.
theorem extract_names (extracted : extract fallback ⟨source, className⟩ = .ok model) :
    ∃ names, Names.find? source className = some names ∧
      model.package = (names.package.map Java.written).getD fallback ∧
      model.markers = Keyed.keys (Keyed.ofList
        (names.annotations.map fun name => (simpleName (Java.written name), ()))) := by
  obtain ⟨program, declaration, parsed, declared, rfl⟩ := extract_ok_iff.mp extracted
  refine ⟨_, find?_names parsed declared, ?_, ?_⟩
  · show (packageOf? program program.items).getD fallback = _
    rw [packageOf?_eq, Option.map_map]
    rfl
  · show markersOf program declaration.modifiers = _
    rw [markersOf, List.map_map]
    rfl

theorem package_iff (named : ∀ name ∈ names.package, IsName name) :
    (names.package.map Java.written).getD fallback = (names.package.map bareName).getD fallback ↔
      ∀ name ∈ names.package, Tight name := by
  cases whole : names.package with
  | none => simp
  | some name => simpa using Java.written_eq_bareName_iff (named name whole).ne_nil

theorem mem_markers {marker : String} : marker ∈ Keyed.keys (Keyed.ofList
      (names.annotations.map fun name => (simpleName (Java.written name), ()))) ↔
    ∃ name ∈ names.annotations, simpleName (Java.written name) = marker := by
  rw [Keyed.mem_keys_ofList, List.map_map, List.mem_map]
  rfl

theorem markers_iff (named : ∀ name ∈ names.annotations, IsName name) :
    Keyed.keys (Keyed.ofList (names.annotations.map fun name => (simpleName (Java.written name), ()))) =
      names.simpleNames ↔ ∀ name ∈ names.annotations, TightEnd name := by
  constructor
  · intro same name member
    have marker := mem_markers.mpr ⟨name, member, rfl⟩
    rw [same, Names.simpleNames, Keyed.mem_keys_ofList, List.map_map, List.mem_map] at marker
    obtain ⟨other, among, text⟩ := marker
    have word : isWord (lastWord other) = true := (named other among).lastWord_word
    have valid : isWord (simpleName (Java.written name)) = true := (show lastWord other = _ from text) ▸ word
    exact tightEnd_of_word (named name member) valid
  · intro tight
    rw [Names.simpleNames]
    refine congrArg (fun entries => Keyed.keys (Keyed.ofList entries)) (List.map_congr_left ?_)
    intro name member
    rw [simpleName_tightEnd (named name member) (tight name member)]

theorem role_eq_httpFacing_iff : model.role = .httpFacing ↔ ∃ marker ∈ controllerMarkers, marker ∈ model.markers := by
  rw [ClassModel.role]
  simp

theorem facesWeb_iff (named : ∀ name ∈ names.annotations, IsName name) :
    (∃ marker ∈ controllerMarkers, ∃ name ∈ names.annotations, simpleName (Java.written name) = marker) ↔
      names.FacesWeb := by
  have words : ∀ marker ∈ controllerMarkers, isWord marker = true := by decide
  constructor
  · rintro ⟨marker, web, name, member, rfl⟩
    have tight := tightEnd_of_word (named name member) (words _ web)
    exact ⟨name, member, tight, simpleName_tightEnd (named name member) tight ▸ web⟩
  · rintro ⟨name, member, tight, web⟩
    exact ⟨lastWord name, web, name, member, simpleName_tightEnd (named name member) tight⟩

-- The kind of a test tells the role.
theorem testLines_eq_webTestLines_iff : model.testLines model.role = model.webTestLines ↔
    model.role = .httpFacing := by
  cases model.role with
  | httpFacing => exact ⟨fun _ => rfl, fun _ => rfl⟩
  | plain =>
    refine ⟨fun same => ?_, nofun⟩
    have fourth := congrArg (·[3]?) (show model.unitTestLines = model.webTestLines from same)
    simp [unitTestLines, webTestLines] at fourth

theorem extract_told (extracted : extract fallback ⟨source, className⟩ = .ok model) :
    ∃ names, Names.find? source className = some names ∧ names.Tell fallback model := by
  obtain ⟨names, found, package, markers⟩ := extract_names extracted
  obtain ⟨packageNamed, annotationsNamed⟩ := find?_isName found
  have role : model.role = .httpFacing ↔ names.FacesWeb := by
    rw [role_eq_httpFacing_iff, markers, ← facesWeb_iff annotationsNamed]
    exact exists_congr fun marker => and_congr_right fun _ => mem_markers
  refine ⟨names, found, ?_, ?_, role, testLines_eq_webTestLines_iff.trans role⟩
  · rw [package]
    exact package_iff packageNamed
  · rw [markers]
    exact markers_iff annotationsNamed

end Told

section Respaced
variable {fallback className one other : String} {model : ClassModel}

theorem stretch_alike {program again : Java.Program} (lexed : program.lexemes = Java.lexemes one)
    (lexedAgain : again.lexemes = Java.lexemes other) (alike : Java.ReadAlike one other) (span : Java.Span) :
    (Java.tokensOf (program.stretch span)).map Java.Token.unjoined =
      (Java.tokensOf (again.stretch span)).map Java.Token.unjoined := by
  have tokens : (program.lexemes.map (·.token)).map Java.Token.unjoined =
      (again.lexemes.map (·.token)).map Java.Token.unjoined := by
    rw [lexed, lexedAgain]
    exact alike.tokens
  have length : program.lexemes.length = again.lexemes.length := by
    simpa using congrArg List.length tokens
  simp only [Java.tokensOf, Java.Program.stretch, List.map_take, List.map_drop, tokens, length]

theorem parse_alike {program : Java.Program} (alike : Java.ReadAlike one other)
    (parsed : Java.parse one = .ok program) : ∃ again, Java.parse other = .ok again ∧
      again.lexemes = Java.lexemes other ∧ again.items = program.items := by
  obtain ⟨_, read⟩ := Java.parse_ok_iff.mp parsed
  refine ⟨⟨Java.lexemes other, program.items⟩, Java.parse_ok_iff.mpr ⟨rfl, ok_of_toOption ?_⟩, rfl, rfl⟩
  rw [← alike.items, read]
  rfl

theorem find?_alike {names : Names} (alike : Java.ReadAlike one other)
    (found : Names.find? one className = some names) :
    ∃ namesAgain, Names.find? other className = some namesAgain ∧ names.Alike namesAgain := by
  unfold Names.find? at found
  split at found
  · cases found
  · next program parsed =>
    obtain ⟨declaration, declared, rfl⟩ := Option.map_eq_some_iff.mp found
    obtain ⟨again, parsedAgain, lexedAgain, items⟩ := parse_alike alike parsed
    have lexed := (Java.parse_ok_iff.mp parsed).1
    have declaredAgain : classNamed? className again.items = some declaration := items ▸ declared
    have tokens := stretch_alike lexed lexedAgain alike
    refine ⟨_, find?_names parsedAgain declaredAgain, ?_, ?_⟩
    · rw [items]
      cases here : Names.packageSpan? program.items with
      | none => rfl
      | some span =>
        have named := package_named parsed here
        have namedAgain := package_named parsedAgain (items ▸ here)
        exact congrArg some (named.alike namedAgain (tokens span)).1
    · rw [List.map_map, List.map_map]
      refine List.map_congr_left fun span member => ?_
      have named := annotations_named parsed declared span member
      have namedAgain := annotations_named parsedAgain declaredAgain span member
      exact (named.alike namedAgain (tokens span)).2

-- What a field is declared with, apart from its type.
def access (field : FieldModel) : String × Visibility × Bool :=
  (field.name, field.visibility, field.isStatic)

-- The members come from the items, the texts of types apart.
theorem extract_alike (alike : Java.ReadAlike one other)
    (extracted : extract fallback ⟨one, className⟩ = .ok model) :
    ∃ again, extract fallback ⟨other, className⟩ = .ok again ∧ again.name = model.name ∧
      again.methods = model.methods ∧ again.fields.map access = model.fields.map access := by
  obtain ⟨program, declaration, parsed, declared, rfl⟩ := extract_ok_iff.mp extracted
  obtain ⟨again, parsedAgain, _, items⟩ := parse_alike alike parsed
  refine ⟨ofDeclaration again ((packageOf? again again.items).getD fallback) declaration,
    extract_ok_iff.mpr ⟨again, declaration, parsedAgain, items ▸ declared, rfl⟩, rfl, rfl, ?_⟩
  simp only [ofDeclaration, List.map_flatMap]
  refine List.flatMap_congr fun member _ => ?_
  cases member with
  | field declaration =>
    simp only [fieldsOf, List.map_map]
    rfl
  | method _ => rfl
  | other => rfl

-- The same class in two sources of the same tokens. Where the names of the first are written without gaps,
-- the second tells the same exactly if its names are, too.
structure Kept (names namesAgain : Names) (model again : ClassModel) : Prop where
  name : again.name = model.name
  methods : again.methods = model.methods
  fields : again.fields.map access = model.fields.map access
  package : (∀ name ∈ names.package, Tight name) →
    (again.package = model.package ↔ ∀ name ∈ namesAgain.package, Tight name)
  markers : (∀ name ∈ names.annotations, TightEnd name) →
    (again.markers = model.markers ↔ ∀ name ∈ namesAgain.annotations, TightEnd name)
  role : again.role = model.role ↔ (namesAgain.FacesWeb ↔ names.FacesWeb)

theorem role_eq_iff {one other : ClassModel} :
    one.role = other.role ↔ (one.role = .httpFacing ↔ other.role = .httpFacing) := by
  cases one.role <;> cases other.role <;> decide

-- What comes from the items is the same; the rest is what the names tell, as they are written.
theorem extract_readAlike (alike : Java.ReadAlike one other)
    (extracted : extract fallback ⟨one, className⟩ = .ok model) :
    ∃ again names namesAgain, extract fallback ⟨other, className⟩ = .ok again ∧
      Names.find? one className = some names ∧ Names.find? other className = some namesAgain ∧
      names.Alike namesAgain ∧ names.Tell fallback model ∧ namesAgain.Tell fallback again ∧
      Kept names namesAgain model again := by
  obtain ⟨again, extractedAgain, name, methods, fields⟩ := extract_alike alike extracted
  obtain ⟨names, found, told⟩ := extract_told extracted
  obtain ⟨namesAgain, foundAgain, toldAgain⟩ := extract_told extractedAgain
  obtain ⟨_, foundOnce, same⟩ := find?_alike alike found
  cases foundAgain.symm.trans foundOnce
  refine ⟨again, names, namesAgain, extractedAgain, found, foundAgain, same, told, toldAgain,
    name, methods, fields, fun tight => ?_, fun tight => ?_, ?_⟩
  · rw [told.package.mpr tight, same.package]
    exact toldAgain.package
  · rw [told.markers.mpr tight, same.simpleNames]
    exact toldAgain.markers
  · rw [role_eq_iff, told.role, toldAgain.role]

-- A blank between two closing brackets.
example : Java.ReadAlike "A<B<C>> d;" "A<B<C> > d;" ∧ ¬Java.SameTokens "A<B<C>> d;" "A<B<C> > d;" := by
  refine ⟨⟨?_, ?_⟩, ?_⟩ <;> decide +kernel

-- What a source is read as comes from its tokens.
theorem extract_respaced (same : Java.SameTokens one other)
    (extracted : extract fallback ⟨one, className⟩ = .ok model) :
    ∃ again names namesAgain, extract fallback ⟨other, className⟩ = .ok again ∧
      Names.find? one className = some names ∧ Names.find? other className = some namesAgain ∧
      names.Alike namesAgain ∧ names.Tell fallback model ∧ namesAgain.Tell fallback again ∧
      Kept names namesAgain model again :=
  extract_readAlike same.readAlike extracted

-- A class at the web in one line, in several lines, and with a blank inside the name of its annotation.
def oneLine : String := "@a.Controller class C \x7b\x7d"

def severalLines : String := "@a.Controller\nclass C\n\x7b\n\x7d\n"

def blankInside : String := "@a. Controller class C \x7b\x7d"

def atWeb : ClassModel := ⟨"p", "C", ["Controller"], [], []⟩

theorem oneLine_extracted : extract "p" ⟨oneLine, "C"⟩ = .ok atWeb :=
  ok_of_toOption (by decide +kernel)

theorem extract_respaced_lines : Java.SameTokens oneLine severalLines ∧
    extract "p" ⟨oneLine, "C"⟩ = .ok atWeb ∧ ∃ again, extract "p" ⟨severalLines, "C"⟩ = .ok again ∧
      again.markers = ["Controller"] ∧ again.role = .httpFacing := by
  have same : Java.SameTokens oneLine severalLines := by decide +kernel
  obtain ⟨again, names, namesAgain, extracted, found, foundAgain, _, _, _, kept⟩ :=
    extract_respaced same oneLine_extracted
  have tight : ((Names.find? oneLine "C").all fun names =>
      decide (∀ name ∈ names.annotations, TightEnd name)) = true := by decide +kernel
  have tightAgain : ((Names.find? severalLines "C").all fun names =>
      decide (∀ name ∈ names.annotations, TightEnd name)) = true := by decide +kernel
  rw [found] at tight
  rw [foundAgain] at tightAgain
  have markers := (kept.markers (of_decide_eq_true tight)).mpr (of_decide_eq_true tightAgain)
  refine ⟨same, oneLine_extracted, again, extracted, markers, ?_⟩
  rw [role_eq_httpFacing_iff, markers]
  decide

-- Sources that differ in nothing but the blanks between their tokens.
def DifferInBlanks (one other : String) : Prop :=
  (Java.lexemes one).map (fun lexeme => (lexeme.token, lexeme.text)) =
      (Java.lexemes other).map (fun lexeme => (lexeme.token, lexeme.text)) ∧
    ((Java.lexemes one ++ Java.lexemes other).all fun lexeme => lexeme.gap.all Java.isGapChar) = true

instance (one other : String) : Decidable (DifferInBlanks one other) := inferInstanceAs (Decidable (_ ∧ _))

-- A blank inside the name changes the markers, the role and with it the kind of the test.
theorem extract_blankInside : DifferInBlanks oneLine blankInside ∧
    ∃ again, extract "p" ⟨oneLine, "C"⟩ = .ok atWeb ∧ extract "p" ⟨blankInside, "C"⟩ = .ok again ∧
      again.markers ≠ atWeb.markers ∧ again.role ≠ atWeb.role ∧
      atWeb.testLines atWeb.role = atWeb.webTestLines ∧ again.testLines again.role = again.unitTestLines := by
  refine ⟨by decide +kernel, { atWeb with markers := [" Controller"] }, oneLine_extracted,
    ok_of_toOption (by decide +kernel), ?_⟩
  decide

end Respaced
end ClassModel
end SpringSkeleton
