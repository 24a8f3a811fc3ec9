import Mathlib.Data.List.Forall2
import SpringSkeleton.FeatureModule.Rendering
import SpringSkeleton.Proofs.Java.Members
import SpringSkeleton.Proofs.Java.Scanning
import SpringSkeleton.Proofs.Name.Packages

namespace SpringSkeleton.FeatureModule.Sources
open Java

section Words

-- The words that both sources are made of, the names in them apart.
instance Spelled.org : Spelled "org" := .ofChars (by decide)
instance Spelled.slf4j : Spelled "slf4j" := .ofChars (by decide)
instance Spelled.springframework : Spelled "springframework" := .ofChars (by decide)
instance Spelled.stereotype : Spelled "stereotype" := .ofChars (by decide)
instance Spelled.transaction : Spelled "transaction" := .ofChars (by decide)
instance Spelled.annotation : Spelled "annotation" := .ofChars (by decide)
instance Spelled.web : Spelled "web" := .ofChars (by decide)
instance Spelled.bind : Spelled "bind" := .ofChars (by decide)
instance Spelled.java : Spelled "java" := .ofChars (by decide)
instance Spelled.util : Spelled "util" := .ofChars (by decide)
instance Spelled.nameService : Spelled "Service" := .ofChars (by decide)
instance Spelled.nameLogger : Spelled "Logger" := .ofChars (by decide)
instance Spelled.nameLoggerFactory : Spelled "LoggerFactory" := .ofChars (by decide)
instance Spelled.nameTransactional : Spelled "Transactional" := .ofChars (by decide)
instance Spelled.nameList : Spelled "List" := .ofChars (by decide)
instance Spelled.nameGetMapping : Spelled "GetMapping" := .ofChars (by decide)
instance Spelled.nameRequestMapping : Spelled "RequestMapping" := .ofChars (by decide)
instance Spelled.nameRestController : Spelled "RestController" := .ofChars (by decide)
instance Spelled.public_ : Spelled "public" := .ofChars (by decide)
instance Spelled.private_ : Spelled "private" := .ofChars (by decide)
instance Spelled.static_ : Spelled "static" := .ofChars (by decide)
instance Spelled.final_ : Spelled "final" := .ofChars (by decide)
instance Spelled.this_ : Spelled "this" := .ofChars (by decide)
instance Spelled.return_ : Spelled "return" := .ofChars (by decide)
instance Spelled.true_ : Spelled "true" := .ofChars (by decide)
instance Spelled.log : Spelled "log" := .ofChars (by decide)
instance Spelled.info : Spelled "info" := .ofChars (by decide)
instance Spelled.getLogger : Spelled "getLogger" := .ofChars (by decide)
instance Spelled.repository : Spelled "repository" := .ofChars (by decide)
instance Spelled.mapper : Spelled "mapper" := .ofChars (by decide)
instance Spelled.service : Spelled "service" := .ofChars (by decide)
instance Spelled.result : Spelled "result" := .ofChars (by decide)
instance Spelled.findAll : Spelled "findAll" := .ofChars (by decide)
instance Spelled.stream : Spelled "stream" := .ofChars (by decide)
instance Spelled.map : Spelled "map" := .ofChars (by decide)
instance Spelled.toDto : Spelled "toDto" := .ofChars (by decide)
instance Spelled.toList : Spelled "toList" := .ofChars (by decide)
instance Spelled.size : Spelled "size" := .ofChars (by decide)
instance Spelled.readOnly : Spelled "readOnly" := .ofChars (by decide)

end Words

section Parts

def word (spaces : Nat) (text : String) [Spelled text] : Nat × Glyph := (spaces, .word (.of text))

def mark (spaces : Nat) (mark : Mark) (spelled : mark.spelling ≠ [] := by decide) : Nat × Glyph :=
  (spaces, .mark mark spelled)

-- The words of a name, each but the first after a dot.
def laterParts (others : List Word) : Line :=
  others.flatMap fun next => [mark 0 .dot, (0, .word next)]

-- A line that names a package, or something in one.
def namingParts (begins : String) [Spelled begins] (first : Word) (others : List Word) : Line :=
  word 0 begins :: (1, .word first) :: (laterParts others ++ [mark 0 .semicolon])

theorem tokens_laterParts (others : List Word) :
    (laterParts others).tokens = others.flatMap fun word => [.mark .dot, .word word] := by
  simp [laterParts, Line.tokens, List.map_flatMap, mark, Glyph.token]

theorem tokens_namingParts (begins : String) [Spelled begins] (first : Word)
    (others : List Word) (rest : Tokens) : (namingParts begins first others).tokens ++ rest =
      .word (.of begins) :: (Grammar.nameTokens first others ++ .mark .semicolon :: rest) := by
  have later : Line.tokens (laterParts others ++ [mark 0 .semicolon]) ++ rest =
      (others.flatMap fun word => [.mark .dot, .word word]) ++ .mark .semicolon :: rest := by
    rw [Line.tokens_append, tokens_laterParts, List.append_assoc]
    rfl
  exact congrArg (fun tokens => .word (.of begins) :: .word first :: tokens) later

theorem spaced_laterParts (first : Word) (others : List Word) (spaces : Nat) :
    Line.spaced ((spaces, .word first) :: (laterParts others ++ [mark 0 .semicolon])) = true := by
  induction others generalizing first spaces with
  | nil => rfl
  | cons next more ih => exact ih next 0

theorem spaced_namingParts (begins : String) [Spelled begins] (first : Word)
    (others : List Word) : (namingParts begins first others).spaced = true :=
  spaced_laterParts first others 1

-- A line of text is spelled with the parts of a line.
def Spells (line : Line) (text : String) : Prop := text.toList = line.chars

theorem sourceText_spelled {lines : List Line} {texts : List String}
    (spelled : List.Forall₂ Spells lines texts) : (sourceText texts).toList = linesChars lines := by
  rw [sourceText, String.toList_ofList, linesChars]
  induction spelled with
  | nil => rfl
  | cons first _ ih => rw [List.flatMap_cons, List.flatMap_cons, ih, first]

end Parts

theorem isWord_append {first second : String} (one : isWord first = true)
    (two : second.toList.all isWordPart = true) : isWord (first ++ second) = true := by
  unfold isWord at one ⊢
  rw [String.toList_append]
  cases chars : first.toList with
  | nil => simp [chars, isWordChars] at one
  | cons c rest =>
    simp only [chars, isWordChars, List.cons_append, List.all_append, Bool.and_eq_true] at one ⊢
    exact ⟨one.1, one.2, two⟩

-- The names in the sources of a module, as words: the entity, the name of the feature, and the package.
structure Names where
  entity : Word
  feature : Word
  first : Word
  others : List Word

namespace Names

def type (names : Names) (kind : ArtifactKind) : Word :=
  ⟨kind.typeName names.entity.text,
   isWord_append names.entity.valid (by cases kind <;> decide)⟩

def typeAt (names : Names) (spaces : Nat) (kind : ArtifactKind) : Nat × Glyph :=
  (spaces, .word (names.type kind))

def quoting (names : Names) (before after : String) (some_ : before.toList ≠ [] := by decide)
    (clean : ∀ c ∈ ['"', '\\'], c ∉ before.toList ∧ c ∉ after.toList :=
      by exact List.all_iff_forall_prop.mp (by decide)) : Nat × Glyph :=
  (0, .text (.around before names.entity after some_ clean))

def package (names : Names) : String :=
  Text.joined '.' (names.first.text :: names.others.map (·.text))

end Names

-- What a source imports, a type of the standard library last.
def importLines (imports : List (Word × List Word)) : List Line :=
  imports.map (fun type => namingParts "import" type.1 type.2) ++
    [[], namingParts "import" (.of "java") [.of "util", .of "List"], []]

-- What both sources begin with.
def head (first : Word) (others : List Word) (imports : List (Word × List Word)) : List Line :=
  namingParts "package" first others :: [] :: importLines imports

section Service
variable (names : Names)

def serviceImports : List (Word × List Word) :=
  [(.of "org", [.of "slf4j", .of "Logger"]),
   (.of "org", [.of "slf4j", .of "LoggerFactory"]),
   (.of "org", [.of "springframework", .of "stereotype", .of "Service"]),
   (.of "org", [.of "springframework", .of "transaction", .of "annotation", .of "Transactional"])]

def logParts : Line :=
  [word 4 "private", word 1 "static", word 1 "final", word 1 "Logger", word 1 "log", mark 1 .equals,
   word 1 "LoggerFactory", mark 0 .dot, word 0 "getLogger", mark 0 .openRound,
   names.typeAt 0 .service, mark 0 .dot, word 0 "class", mark 0 .closeRound, mark 0 .semicolon]

def repositoryParts : Line :=
  [word 4 "private", word 1 "final", names.typeAt 1 .repository, word 1 "repository",
   mark 0 .semicolon]

def mapperParts : Line :=
  [word 4 "private", word 1 "final", names.typeAt 1 .mapper, word 1 "mapper", mark 0 .semicolon]

def serviceConstructor : List Line :=
  [[word 4 "public", names.typeAt 1 .service, mark 0 .openRound, names.typeAt 0 .repository,
    word 1 "repository", mark 0 .comma, names.typeAt 1 .mapper, word 1 "mapper",
    mark 0 .closeRound, mark 1 .openBrace],
   [word 8 "this", mark 0 .dot, word 0 "repository", mark 1 .equals, word 1 "repository",
    mark 0 .semicolon],
   [word 8 "this", mark 0 .dot, word 0 "mapper", mark 1 .equals, word 1 "mapper",
    mark 0 .semicolon],
   [mark 4 .closeBrace]]

def enteringParts : Line :=
  [word 8 "log", mark 0 .dot, word 0 "info", mark 0 .openRound,
   names.quoting "Entering " "Service.findAll", mark 0 .closeRound, mark 0 .semicolon]

def resultParts : Line :=
  [word 8 "List", mark 0 .less, names.typeAt 0 .dto, (0, .greater), word 1 "result", mark 1 .equals,
   word 1 "repository", mark 0 .dot, word 0 "findAll", mark 0 .openRound, mark 0 .closeRound,
   mark 0 .dot, word 0 "stream", mark 0 .openRound, mark 0 .closeRound,
   mark 0 .dot, word 0 "map", mark 0 .openRound, word 0 "mapper", mark 0 .doubleColon,
   word 0 "toDto", mark 0 .closeRound,
   mark 0 .dot, word 0 "toList", mark 0 .openRound, mark 0 .closeRound, mark 0 .semicolon]

def exitingParts : Line :=
  [word 8 "log", mark 0 .dot, word 0 "info", mark 0 .openRound,
   names.quoting "Exiting " "Service.findAll size=\x7b\x7d", mark 0 .comma, word 1 "result",
   mark 0 .dot, word 0 "size", mark 0 .openRound, mark 0 .closeRound, mark 0 .closeRound,
   mark 0 .semicolon]

def serviceMethod : List Line :=
  [[mark 4 .sign, word 0 "Transactional", mark 0 .openRound, word 0 "readOnly", mark 1 .equals,
    word 1 "true", mark 0 .closeRound],
   [word 4 "public", word 1 "List", mark 0 .less, names.typeAt 0 .dto, (0, .greater),
    word 1 "findAll", mark 0 .openRound, mark 0 .closeRound, mark 1 .openBrace],
   enteringParts names,
   resultParts names,
   exitingParts names,
   [word 8 "return", word 1 "result", mark 0 .semicolon],
   [mark 4 .closeBrace]]

-- What stands between the braces of the class, the closing one included.
def serviceBody : List Line :=
  [] :: logParts names :: repositoryParts names :: mapperParts names :: [] ::
    (serviceConstructor names ++ [] :: (serviceMethod names ++ [[mark 0 .closeBrace]]))

def markerLines : List Line :=
  [[mark 0 .sign, word 0 "Service"], [mark 0 .sign, word 0 "Transactional"]]

def serviceClass : List Line :=
  markerLines ++
    [word 0 "public", word 1 "class", names.typeAt 1 .service, mark 1 .openBrace] :: serviceBody names

def serviceSource : List Line := head names.first names.others serviceImports ++ serviceClass names

end Service

section Controller
variable (names : Names)

def controllerImports : List (Word × List Word) :=
  [(.of "org", [.of "springframework", .of "web", .of "bind", .of "annotation", .of "GetMapping"]),
   (.of "org", [.of "springframework", .of "web", .of "bind", .of "annotation", .of "RequestMapping"]),
   (.of "org", [.of "springframework", .of "web", .of "bind", .of "annotation", .of "RestController"])]

def servicePart : Line :=
  [word 4 "private", word 1 "final", names.typeAt 1 .service, word 1 "service", mark 0 .semicolon]

def controllerConstructor : List Line :=
  [[word 4 "public", names.typeAt 1 .controller, mark 0 .openRound, names.typeAt 0 .service,
    word 1 "service", mark 0 .closeRound, mark 1 .openBrace],
   [word 8 "this", mark 0 .dot, word 0 "service", mark 1 .equals, word 1 "service",
    mark 0 .semicolon],
   [mark 4 .closeBrace]]

def controllerMethod : List Line :=
  [[mark 4 .sign, word 0 "GetMapping"],
   [word 4 "public", word 1 "List", mark 0 .less, names.typeAt 0 .dto, (0, .greater),
    word 1 "findAll", mark 0 .openRound, mark 0 .closeRound, mark 1 .openBrace],
   [word 8 "return", word 1 "service", mark 0 .dot, word 0 "findAll", mark 0 .openRound,
    mark 0 .closeRound, mark 0 .semicolon],
   [mark 4 .closeBrace]]

def controllerBody : List Line :=
  [] :: servicePart names :: [] ::
    (controllerConstructor names ++ [] :: (controllerMethod names ++ [[mark 0 .closeBrace]]))

def controllerClass : List Line :=
  [mark 0 .sign, word 0 "RestController"] ::
    [mark 0 .sign, word 0 "RequestMapping", mark 0 .openRound,
     (0, .text (.around "/api/" names.feature "s")), mark 0 .closeRound] ::
    [word 0 "public", word 1 "class", names.typeAt 1 .controller, mark 1 .openBrace] ::
      controllerBody names

def controllerSource : List Line := head names.first names.others controllerImports ++ controllerClass names

end Controller

-- The names are those of a module.
structure Names.Fit (names : Names) (spec : FeatureModule) : Prop where
  entity : names.entity.text = spec.entity
  feature : names.feature.text = spec.feature
  package : names.package = spec.featurePackage

section Spelled
variable {names : Names} {spec : FeatureModule} {first : Word} {others : List Word}

theorem chars_laterParts (first : String) (others : List Word) :
    (Text.joined '.' (first :: others.map (·.text))).toList =
      first.toList ++ Line.chars (laterParts others) := by
  induction others generalizing first with
  | nil => simp [Text.joined, Text.glue, laterParts, Line.chars]
  | cons next more ih =>
    have rest := ih next.text
    rw [List.map_cons, Text.joined_cons, rest]
    rfl

theorem spells_package (named : Text.joined '.' (first.text :: others.map (·.text)) = spec.featurePackage) :
    Spells (namingParts "package" first others) spec.packageLine := by
  have name := chars_laterParts first.text others
  rw [named] at name
  have start : "package ".toList = "package".toList ++ [' '] := by decide
  simp only [Spells, packageLine, String.toList_append, name, namingParts, Line.chars,
    Line.chars_append, word, mark, Word.of, Glyph.chars, start, List.append_assoc]
  rfl

-- The characters of each text that is spelled out are rewritten with their law: to compute them takes
-- a hundred times as long.
theorem serviceHead_spelled
    (named : Text.joined '.' (first.text :: others.map (·.text)) = spec.featurePackage) :
    List.Forall₂ Spells (head first others serviceImports) (spec.serviceLines.take 9) := by
  simp only [head, importLines, serviceImports, serviceLines, List.take_succ_cons, List.take_zero,
    List.map_cons, List.map_nil, List.cons_append, List.nil_append, List.forall₂_cons, List.Forall₂.nil,
    spells_package named, true_and]
  simp only [namingParts, laterParts, List.flatMap_cons, List.flatMap_nil, Spells, Line.chars, Glyph.chars,
    word, mark, Mark.spelling, Word.of, List.cons_append, List.nil_append]
  repeat rw [String.toList_ofList]
  simp only [List.reduceReplicate, List.cons_append, List.nil_append, and_self]

theorem controllerHead_spelled
    (named : Text.joined '.' (first.text :: others.map (·.text)) = spec.featurePackage) :
    List.Forall₂ Spells (head first others controllerImports) (spec.controllerLines.take 8) := by
  simp only [head, importLines, controllerImports, controllerLines, List.take_succ_cons, List.take_zero,
    List.map_cons, List.map_nil, List.cons_append, List.nil_append, List.forall₂_cons, List.Forall₂.nil,
    spells_package named, true_and]
  simp only [namingParts, laterParts, List.flatMap_cons, List.flatMap_nil, Spells, Line.chars, Glyph.chars,
    word, mark, Mark.spelling, Word.of, List.cons_append, List.nil_append]
  repeat rw [String.toList_ofList]
  simp only [List.reduceReplicate, List.cons_append, List.nil_append, and_self]

theorem serviceClass_spelled (fit : names.Fit spec) :
    List.Forall₂ Spells (serviceClass names) (spec.serviceLines.drop 9) := by
  simp only [serviceClass, markerLines, serviceBody, serviceConstructor, serviceMethod, serviceLines,
    List.drop_succ_cons, List.drop_zero, List.cons_append, List.nil_append, List.forall₂_cons,
    List.Forall₂.nil]
  simp only [logParts, repositoryParts, mapperParts, enteringParts, resultParts, exitingParts, Spells,
    Line.chars, Glyph.chars, word, mark, Mark.spelling, Word.of, Names.typeAt, Names.type, Names.quoting,
    Quotation.around, ArtifactKind.typeName, ArtifactKind.suffix, fit.entity, String.toList_append]
  repeat rw [String.toList_ofList]
  simp only [List.reduceReplicate, List.cons_append, List.nil_append, List.append_assoc, and_self]

theorem controllerClass_spelled (fit : names.Fit spec) :
    List.Forall₂ Spells (controllerClass names) (spec.controllerLines.drop 8) := by
  simp only [controllerClass, controllerBody, controllerConstructor, controllerMethod, controllerLines,
    List.drop_succ_cons, List.drop_zero, List.cons_append, List.nil_append, List.forall₂_cons,
    List.Forall₂.nil]
  simp only [servicePart, Spells, Line.chars, Glyph.chars, word, mark, Mark.spelling, Word.of,
    Names.typeAt, Names.type, Quotation.around, ArtifactKind.typeName, ArtifactKind.suffix, fit.entity,
    fit.feature, String.toList_append]
  repeat rw [String.toList_ofList]
  simp only [List.reduceReplicate, List.cons_append, List.nil_append, List.append_assoc, and_self]

theorem service_spelled (fit : names.Fit spec) :
    List.Forall₂ Spells (serviceSource names) spec.serviceLines := by
  rw [← List.take_append_drop 9 spec.serviceLines]
  exact List.rel_append (serviceHead_spelled fit.package) (serviceClass_spelled fit)

theorem controller_spelled (fit : names.Fit spec) :
    List.Forall₂ Spells (controllerSource names) spec.controllerLines := by
  rw [← List.take_append_drop 8 spec.controllerLines]
  exact List.rel_append (controllerHead_spelled fit.package) (controllerClass_spelled fit)

theorem head_spaced (first : Word) (others : List Word) {imports : List (Word × List Word)}
    (spaced : (importLines imports).all Line.spaced = true) :
    ∀ line ∈ head first others imports, line.spaced = true :=
  List.forall_mem_cons.mpr ⟨spaced_namingParts _ _ _, List.forall_mem_cons.mpr ⟨rfl, List.all_eq_true.mp spaced⟩⟩

theorem service_spaced (names : Names) : ∀ line ∈ serviceSource names, line.spaced = true := by
  have later : (serviceClass names).all Line.spaced = true := rfl
  exact List.forall_mem_append.mpr ⟨head_spaced _ _ rfl, List.all_eq_true.mp later⟩

theorem controller_spaced (names : Names) : ∀ line ∈ controllerSource names, line.spaced = true := by
  have later : (controllerClass names).all Line.spaced = true := rfl
  exact List.forall_mem_append.mpr ⟨head_spaced _ _ rfl, List.all_eq_true.mp later⟩

-- Both sources begin with the word `package`, so with no byte order mark.
theorem head_plain (first : Word) (others : List Word) (imports : List (Word × List Word)) (rest : List Line) :
    (linesChars (head first others imports ++ rest)).head? ≠ some byteOrderMark := by
  have first : (linesChars (head first others imports ++ rest)).head? = some 'p' := rfl
  rw [first]
  decide

theorem service_lexemes (fit : names.Fit spec) :
    lexemes (spec.artifact .service).content = sourceLexemes [] (serviceSource names) :=
  lexemes_lines (service_spaced names) (head_plain _ _ _ _) (sourceText_spelled (service_spelled fit))

theorem controller_lexemes (fit : names.Fit spec) :
    lexemes (spec.artifact .controller).content = sourceLexemes [] (controllerSource names) :=
  lexemes_lines (controller_spaced names) (head_plain _ _ _ _)
    (sourceText_spelled (controller_spelled fit))

end Spelled

end SpringSkeleton.FeatureModule.Sources
