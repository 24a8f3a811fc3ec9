import SpringSkeleton.Proofs.FeatureModule.Sources

namespace SpringSkeleton.FeatureModule.Sources
open Java Grammar

variable {rules : Rules} {rest left : Tokens} {found : List Item}

-- No word of the grammar ends like the name of a generated type.
theorem type_plain (names : Names) (kind : ArtifactKind) : (names.type kind).Plain := by
  have endings : ∀ text ∈ grammarWords, ¬ kind.suffix.toList <:+ text.toList := by
    cases kind <;> decide
  intro member
  refine endings _ member ?_
  show kind.suffix.toList <:+ (kind.typeName names.entity.text).toList
  rw [ArtifactKind.typeName, String.toList_append]
  exact List.suffix_append _ _

theorem items_named {imports : List (Word × List Word)}
    (plain : ∀ type ∈ imports, type.1.text ≠ "static") (later : Items rules found rest left) :
    Items rules (List.replicate imports.length .other ++ found)
      (linesTokens (imports.map fun type => namingParts "import" type.1 type.2) ++ rest) left := by
  induction imports with
  | nil => exact later
  | cons type others ih =>
    obtain ⟨first, more⟩ := List.forall_mem_cons.mp plain
    have tokens : linesTokens ((type :: others).map fun type => namingParts "import" type.1 type.2) ++ rest =
        .word (.of "import") :: (nameTokens type.1 type.2 ++ .mark .semicolon ::
          (linesTokens (others.map fun type => namingParts "import" type.1 type.2) ++ rest)) := by
      rw [List.map_cons, linesTokens, List.flatMap_cons, List.append_assoc, tokens_namingParts]
      rfl
    rw [tokens]
    exact .item (item_import first type.2 _) (by simp; omega) (ih more)

theorem items_imports {imports : List (Word × List Word)}
    (plain : ∀ type ∈ imports, type.1.text ≠ "static") (later : Items rules found rest left) :
    Items rules (List.replicate imports.length .other ++ .other :: found)
      (linesTokens (importLines imports) ++ rest) left := by
  have last : Items rules (.other :: found)
      (linesTokens [[], namingParts "import" (.of "java") [.of "util", .of "List"], []] ++ rest) left := by
    have plain : ∀ type ∈ [(Word.of "java", [Word.of "util", .of "List"])], type.1.text ≠ "static" := by
      decide
    exact items_named plain later
  rw [importLines, linesTokens_append, List.append_assoc]
  exact items_named plain last

-- Where the name of the package stands, when some tokens follow its line.
def packageSpan (first : Word) (others : List Word) (later : Tokens) : Span :=
  ⟨(nameTokens first others).length + (later.length + 1), later.length + 1⟩

theorem items_head (first : Word) (others : List Word) {imports : List (Word × List Word)}
    (plain : ∀ type ∈ imports, type.1.text ≠ "static") (later : Items rules found rest left) :
    Items rules
      (.package (packageSpan first others (linesTokens (importLines imports) ++ rest)) ::
        (List.replicate imports.length .other ++ .other :: found))
      (linesTokens (head first others imports) ++ rest) left := by
  have tokens : linesTokens (head first others imports) ++ rest =
      .word (.of "package") :: (nameTokens first others ++ .mark .semicolon ::
        (linesTokens (importLines imports) ++ rest)) := by
    rw [head, linesTokens, List.flatMap_cons, List.append_assoc, tokens_namingParts]
    rfl
  rw [tokens]
  exact .item (item_package _ _ _) (by simp; omega) (items_imports plain later)

section Members
variable (names : Names) (depth : Nat)

theorem plain_known : Word.Plain (.of "Logger") ∧ Word.Plain (.of "List") := by
  unfold Word.Plain
  decide

-- The call that gives the logger, from the name of the class on.
def loggerTokens (named : Tokens) : Tokens :=
  .word (.of "LoggerFactory") :: .mark .dot :: .word (.of "getLogger") :: .mark .openRound :: named

theorem expression_logger (rest : Tokens) :
    (rulesTo (depth + 4)).expression true
        (loggerTokens (literalTokens (names.type .service) (.mark .semicolon :: rest))) =
      .ok (.mark .semicolon :: rest) := by
  have passed := arguments_literal (type_plain names .service) (depth + 2) (.mark .semicolon :: rest)
  generalize literalTokens (names.type .service) (.mark .semicolon :: rest) = named at passed ⊢
  have bare : bareOperand (rulesTo (depth + 3)) (loggerTokens named) =
    .ok (.name, .mark .dot :: .word (.of "getLogger") :: .mark .openRound :: named) := rfl
  have selected : selected (rulesTo (depth + 3)) .name
      (.word (.of "getLogger") :: .mark .openRound :: named) = .ok (.other, .mark .semicolon :: rest) := by
    have call : selected (rulesTo (depth + 3)) .name
        (.word (.of "getLogger") :: .mark .openRound :: named) =
      (arguments (rulesTo (depth + 3)) (.mark .openRound :: named)).map fun rest => (.other, rest) := rfl
    rw [call, passed]
    rfl
  have operand : operand (rulesTo (depth + 3)) (loggerTokens named) =
      .ok (.other, .mark .semicolon :: rest) := by
    have dot : isMark .dot (.mark .dot :: .word (.of "getLogger") :: .mark .openRound :: named) = true :=
      rfl
    have constructs : startsConstructorCall (rulesTo (depth + 3))
      (.word (.of "getLogger") :: .mark .openRound :: named) = false := rfl
    rw [operand, bare]
    simp only [List.length_cons, selectors, dot, if_true, next_cons, constructs, Bool.false_eq_true,
      if_false, selected]
    rfl
  exact expression_operand rfl rfl rfl rfl operand

theorem declarators_log (rest : Tokens) :
    declarators (rulesTo (depth + 5)) (.word (.of "log") :: .mark .equals ::
        loggerTokens (literalTokens (names.type .service) (.mark .semicolon :: rest))) =
      .ok ([.of "log"], .mark .semicolon :: rest) := by
  have read := expression_logger names depth rest
  generalize literalTokens (names.type .service) (.mark .semicolon :: rest) = named at read ⊢
  have value : initialized (rulesTo (depth + 5)) (.mark .equals :: loggerTokens named) =
      .ok (.mark .semicolon :: rest) := by
    have value : initialized (rulesTo (depth + 5)) (.mark .equals :: loggerTokens named) =
      sequence [(rulesTo (depth + 4)).expression true] (loggerTokens named) := rfl
    rw [value, sequence_cons read, Grammar.sequence]
  have first : declarator (rulesTo (depth + 5))
        (.word (.of "log") :: .mark .equals :: loggerTokens named) =
      .ok (.of "log", .mark .semicolon :: rest) := by
    have first : declarator (rulesTo (depth + 5))
        (.word (.of "log") :: .mark .equals :: loggerTokens named) =
      (initialized (rulesTo (depth + 5)) (.mark .equals :: loggerTokens named)).map fun rest =>
        (.of "log", rest) := rfl
    rw [first, value]
    rfl
  rw [declarators, first]
  rfl

theorem member_log (rest : Tokens) :
    member (rulesTo (depth + 5)) ((logParts names).tokens ++ rest) =
      .ok (.field ⟨⟨[], ["private", "static", "final"]⟩, ⟨rest.length + 12, rest.length + 11⟩,
        [.of "log"]⟩, rest) := by
  have known : ∀ word ∈ [Word.of "private", .of "static", .of "final"], word.text ∈ modifierWords := by
    decide
  exact member_field known plain_known.1 rfl (declarators_log names depth rest)

-- A field that is given by the constructor.
def givenTokens (type name : Word) : Tokens :=
  [.word (.of "private"), .word (.of "final"), .word type, .word name, .mark .semicolon]

theorem member_given (kind : ArtifactKind) (name : Word) (rest : Tokens) :
    member rules (givenTokens (names.type kind) name ++ rest) =
      .ok (.field ⟨⟨[], ["private", "final"]⟩, ⟨rest.length + 3, rest.length + 2⟩, [name]⟩, rest) := by
  have known : ∀ word ∈ [Word.of "private", .of "final"], word.text ∈ modifierWords := by decide
  exact member_field known (type_plain names kind) rfl (declarators_bare _ _ _)

theorem public_known : ∀ word ∈ [Word.of "public"], word.text ∈ modifierWords := by decide

theorem member_serviceConstructor (rest : Tokens) :
    member (rulesTo (depth + 8)) (linesTokens (serviceConstructor names) ++ rest) = .ok (.other, rest) := by
  have types : ∀ parameter ∈ [(names.type .repository, Word.of "repository"),
      (names.type .mapper, .of "mapper")], parameter.1.Plain := by
    simp [type_plain]
  have body : constructorBody (rulesTo (depth + 8))
    (.mark .openBrace :: (linesTokens (serviceConstructor names).tail ++ rest)) = .ok rest := rfl
  have read := member_constructor public_known (type_plain names .service) types body
  exact read

theorem member_controllerConstructor (rest : Tokens) :
    member (rulesTo (depth + 8)) (linesTokens (controllerConstructor names) ++ rest) = .ok (.other, rest) := by
  have types : ∀ parameter ∈ [(names.type .service, Word.of "service")], parameter.1.Plain := by
    simp [type_plain]
  have body : constructorBody (rulesTo (depth + 8))
    (.mark .openBrace :: (linesTokens (controllerConstructor names).tail ++ rest)) = .ok rest := rfl
  have read := member_constructor public_known (type_plain names .controller) types body
  exact read

-- The result is a list of objects of a generated type, so its declaration is no row of fixed words.
theorem statement_result (rest : Tokens) :
    (rulesTo (depth + 8)).statement ((resultParts names).tokens ++ rest) = .ok rest := by
  have typed := plainType_generic (type_plain names .dto) plain_known.2 (depth + 6) false (.of "result")
    ((resultParts names).tokens.drop 5 ++ rest)
  have tokens : (resultParts names).tokens ++ rest = .word (.of "List") :: .mark .less ::
    .word (names.type .dto) :: .greater false :: .word (.of "result") ::
      ((resultParts names).tokens.drop 5 ++ rest) := rfl
  rw [← tokens] at typed
  have ahead : declaredAhead? (rulesTo (depth + 7)) ((resultParts names).tokens ++ rest) =
      some (.word (.of "result") :: ((resultParts names).tokens.drop 5 ++ rest)) :=
    declaredAhead_typed (congrArg Except.toOption typed) rfl rfl
  have statement : (rulesTo (depth + 8)).statement ((resultParts names).tokens ++ rest) =
    plainStatement (rulesTo (depth + 7)) ((resultParts names).tokens ++ rest) := rfl
  rw [statement, plainStatement_declared rfl ahead]
  rfl

theorem block_service (rest : Tokens) :
    (rulesTo (depth + 9)).block (.mark .openBrace :: ((enteringParts names).tokens ++
      ((resultParts names).tokens ++ ((exitingParts names).tokens ++
        (.word (.of "return") :: .word (.of "result") :: .mark .semicolon :: .mark .closeBrace :: rest))))) =
      .ok rest := by
  have entering (rest : Tokens) :
    (rulesTo (depth + 8)).statement ((enteringParts names).tokens ++ rest) = .ok rest := rfl
  have exiting (rest : Tokens) :
    (rulesTo (depth + 8)).statement ((exitingParts names).tokens ++ rest) = .ok rest := rfl
  have returning (rest : Tokens) : (rulesTo (depth + 8)).statement
    (.word (.of "return") :: .word (.of "result") :: .mark .semicolon :: rest) = .ok rest := rfl
  exact block_rounds
    (.round rfl (entering _) (.round rfl (statement_result names depth _) (.round rfl (exiting _)
      (.round rfl (returning _) (.done rfl))))) (by simp [enteringParts, Line.tokens])

-- A method that lists objects of a generated type, after its annotation.
theorem member_listing {tokens body : Tokens} {modifiers : Modifiers}
    (modified : Grammar.modifiers (rulesTo (depth + 1)) (.mark .sign :: tokens) =
      .ok (modifiers, .word (.of "List") :: .mark .less :: .word (names.type .dto) :: .greater false ::
        .word (.of "findAll") :: .mark .openRound :: .mark .closeRound :: .mark .openBrace :: body))
    (read : (rulesTo (depth + 1)).block (.mark .openBrace :: body) = .ok rest) :
    member (rulesTo (depth + 1)) (.mark .sign :: tokens) =
      .ok (.method ⟨modifiers, .of "findAll"⟩, rest) :=
  member_method modified plain_known.2 rfl rfl
    (plainType_generic (type_plain names .dto) plain_known.2 depth false (.of "findAll") _) read

theorem member_serviceMethod (rest : Tokens) :
    ∃ span, member (rulesTo (depth + 9)) (linesTokens (serviceMethod names) ++ rest) =
      .ok (.method ⟨⟨[span], ["public"]⟩, .of "findAll"⟩, rest) :=
  ⟨_, member_listing names (depth + 8) rfl (block_service names depth rest)⟩

theorem member_controllerMethod (rest : Tokens) :
    ∃ span, member (rulesTo (depth + 9)) (linesTokens (controllerMethod names) ++ rest) =
      .ok (.method ⟨⟨[span], ["public"]⟩, .of "findAll"⟩, rest) :=
  ⟨_, member_listing names (depth + 8) rfl rfl⟩

end Members

section Classes
variable (names : Names) (depth : Nat)

def serviceMembers (log repository mapper sign : Span) : List Member :=
  [.field ⟨⟨[], ["private", "static", "final"]⟩, log, [.of "log"]⟩,
   .field ⟨⟨[], ["private", "final"]⟩, repository, [.of "repository"]⟩,
   .field ⟨⟨[], ["private", "final"]⟩, mapper, [.of "mapper"]⟩,
   .other,
   .method ⟨⟨[sign], ["public"]⟩, .of "findAll"⟩]

def controllerMembers (service sign : Span) : List Member :=
  [.field ⟨⟨[], ["private", "final"]⟩, service, [.of "service"]⟩,
   .other,
   .method ⟨⟨[sign], ["public"]⟩, .of "findAll"⟩]

-- What a body ends in: the constructor, a blank line, the method and the brace.
theorem tokens_ending (one two : List Line) :
    linesTokens (one ++ [] :: (two ++ [[mark 0 .closeBrace]])) =
      linesTokens one ++ (linesTokens two ++ [.mark .closeBrace]) := by
  rw [linesTokens_append, linesTokens_cons, linesTokens_append]
  rfl

theorem tokens_blank (lines : List Line) : linesTokens ([] :: lines) = linesTokens lines := rfl

theorem tokens_serviceBody : linesTokens (serviceBody names) = (logParts names).tokens ++
    (givenTokens (names.type .repository) (.of "repository") ++
      (givenTokens (names.type .mapper) (.of "mapper") ++
        (linesTokens (serviceConstructor names) ++
          (linesTokens (serviceMethod names) ++ [.mark .closeBrace])))) := by
  have repository : (repositoryParts names).tokens =
    givenTokens (names.type .repository) (.of "repository") := rfl
  have mapper : (mapperParts names).tokens = givenTokens (names.type .mapper) (.of "mapper") := rfl
  rw [serviceBody, tokens_blank, linesTokens_cons, linesTokens_cons, linesTokens_cons, tokens_blank,
    tokens_ending, repository, mapper]

theorem tokens_controllerBody : linesTokens (controllerBody names) =
    givenTokens (names.type .service) (.of "service") ++
      (linesTokens (controllerConstructor names) ++
        (linesTokens (controllerMethod names) ++ [.mark .closeBrace])) := by
  have service : (servicePart names).tokens = givenTokens (names.type .service) (.of "service") := rfl
  rw [controllerBody, tokens_blank, linesTokens_cons, tokens_blank, tokens_ending, service]

theorem members_service : ∃ log repository mapper sign,
    Values (fun tokens => !isMark .closeBrace tokens) (member (rulesTo (depth + 9)))
      (serviceMembers log repository mapper sign) (linesTokens (serviceBody names))
      [.mark .closeBrace] := by
  obtain ⟨sign, method⟩ := member_serviceMethod names depth [.mark .closeBrace]
  rw [tokens_serviceBody]
  exact ⟨_, _, _, sign, .value rfl (member_log names (depth + 4) _)
    (.value rfl (member_given names .repository (.of "repository") _)
      (.value rfl (member_given names .mapper (.of "mapper") _)
        (.value rfl (member_serviceConstructor names (depth + 1) _)
          (.value rfl method (.done rfl)))))⟩

theorem members_controller : ∃ service sign,
    Values (fun tokens => !isMark .closeBrace tokens) (member (rulesTo (depth + 9)))
      (controllerMembers service sign) (linesTokens (controllerBody names)) [.mark .closeBrace] := by
  obtain ⟨sign, method⟩ := member_controllerMethod names depth [.mark .closeBrace]
  rw [tokens_controllerBody]
  exact ⟨_, sign, .value rfl (member_given names .service (.of "service") _)
    (.value rfl (member_controllerConstructor names (depth + 1) _) (.value rfl method (.done rfl)))⟩

-- Where the name of an annotation stands, when some tokens follow it.
def markerSpan (later : Nat) : Span := ⟨later + 1, later⟩

def serviceModifiers : Modifiers :=
  ⟨[markerSpan ((linesTokens (serviceBody names)).length + 6),
    markerSpan ((linesTokens (serviceBody names)).length + 4)], ["public"]⟩

def controllerModifiers : Modifiers :=
  ⟨[markerSpan ((linesTokens (controllerBody names)).length + 9),
    markerSpan ((linesTokens (controllerBody names)).length + 7)], ["public"]⟩

theorem item_service : ∃ log repository mapper sign,
    item (rulesTo (depth + 9)) (linesTokens (serviceClass names)) =
      .ok (.classItem ⟨serviceModifiers names, names.type .service,
        serviceMembers log repository mapper sign⟩, []) := by
  obtain ⟨log, repository, mapper, sign, members⟩ := members_service names depth
  refine ⟨log, repository, mapper, sign, ?_⟩
  have many : 5 ≤ (linesTokens (serviceBody names)).length := Nat.le_of_ble_eq_true rfl
  have tokens : linesTokens (serviceClass names) = .mark .sign :: .word (.of "Service") ::
    .mark .sign :: .word (.of "Transactional") :: .word (.of "public") :: .word (.of "class") ::
      .word (names.type .service) :: .mark .openBrace :: linesTokens (serviceBody names) := rfl
  rw [tokens, serviceModifiers]
  generalize linesTokens (serviceBody names) = body at members many ⊢
  exact item_class rfl (classDeclaration_members members many)

theorem item_controller : ∃ service sign,
    item (rulesTo (depth + 9)) (linesTokens (controllerClass names)) =
      .ok (.classItem ⟨controllerModifiers names, names.type .controller,
        controllerMembers service sign⟩, []) := by
  obtain ⟨service, sign, members⟩ := members_controller names depth
  refine ⟨service, sign, ?_⟩
  have many : 3 ≤ (linesTokens (controllerBody names)).length := Nat.le_of_ble_eq_true rfl
  have tokens : linesTokens (controllerClass names) = .mark .sign :: .word (.of "RestController") ::
    .mark .sign :: .word (.of "RequestMapping") :: .mark .openRound :: .text :: .mark .closeRound ::
      .word (.of "public") :: .word (.of "class") :: .word (names.type .controller) ::
        .mark .openBrace :: linesTokens (controllerBody names) := rfl
  rw [tokens, controllerModifiers]
  generalize linesTokens (controllerBody names) = body at members many ⊢
  exact item_class rfl (classDeclaration_members members many)

end Classes

end SpringSkeleton.FeatureModule.Sources
