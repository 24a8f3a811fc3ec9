import SpringSkeleton.ClassModel.Extraction
import SpringSkeleton.Proofs.FeatureModule.Declarations

namespace SpringSkeleton.Java

theorem length_sourceLexemes (gap : List Char) (lines : List Line) :
    (sourceLexemes gap lines).length = (linesTokens lines).length := by
  rw [← tokensOf_sourceLexemes gap, List.length_map]

theorem sourceLexemes_append (gap : List Char) (one two : List Line) :
    sourceLexemes gap (one ++ two) = sourceLexemes gap one ++ sourceLexemes (gapAfter gap one) two := by
  induction one generalizing gap with
  | nil => rfl
  | cons line others ih => cases line with
    | nil => exact ih _
    | cons part parts => simp [sourceLexemes, gapAfter, ih]

-- The text of a stretch is that of the lexemes between what comes before and what comes after.
theorem written_between {front middle back : List Lexeme} {items : List Item} {span : Span}
    (before : span.before = middle.length + back.length) (after : span.after = back.length) :
    Program.written ⟨front ++ (middle ++ back), items⟩ span = written middle := by
  have skipped : (front ++ (middle ++ back)).length - span.before = front.length := by
    rw [before, List.length_append, List.length_append, Nat.add_sub_cancel]
  have kept : span.before - span.after = middle.length := by
    rw [before, after, Nat.add_sub_cancel]
  rw [Program.written, skipped, kept, List.drop_left, List.take_left]

theorem written_line (spaces : Nat) (glyph : Glyph) (rest : Line) :
    written (Line.lexemes ((spaces, glyph) :: rest)) = String.ofList (glyph.chars ++ rest.chars) := by
  have chars : ∀ line : Line, line.lexemes.flatMap (fun lexeme => lexeme.gap ++ lexeme.text) =
      line.chars := by
    intro line
    induction line with
    | nil => rfl
    | cons part others ih =>
      obtain ⟨spaces, glyph⟩ := part
      rw [Line.chars, ← ih, ← List.append_assoc]
      rfl
  exact congrArg (fun rest => String.ofList (glyph.chars ++ rest)) (chars rest)

end SpringSkeleton.Java

namespace SpringSkeleton.FeatureModule.Sources
open Java Grammar

theorem written_package (names : Names) (lines : List Line) (items : List Item) :
    Program.written ⟨sourceLexemes [] (namingParts "package" names.first names.others :: lines), items⟩
      (packageSpan names.first names.others (linesTokens lines)) = names.package := by
  have whole : sourceLexemes [] (namingParts "package" names.first names.others :: lines) =
      [⟨[], .word (.of "package"), "package".toList⟩] ++
        (Line.lexemes ((1, .word names.first) :: laterParts names.others) ++
          (⟨[], .mark .semicolon, [';']⟩ :: sourceLexemes ['\n'] lines)) := by
    simp only [namingParts, sourceLexemes, Line.lexemes, List.map_cons, List.map_append, List.cons_append,
      List.append_assoc]
    rfl
  have middle : (Line.lexemes ((1, .word names.first) :: laterParts names.others)).length =
      (nameTokens names.first names.others).length := by
    have tokens := congrArg List.length (tokens_laterParts names.others)
    rw [Line.tokens, List.length_map] at tokens
    simp only [Line.lexemes, List.length_map, List.length_cons, tokens, nameTokens]
  have name : String.ofList (names.first.text.toList ++ (laterParts names.others).chars) = names.package := by
    rw [Names.package, ← chars_laterParts, String.ofList_toList]
  rw [whole, written_between, written_line]
  · exact name
  · rw [middle, List.length_cons, length_sourceLexemes]
    rfl
  · rw [List.length_cons, length_sourceLexemes]
    rfl

-- The name of an annotation that begins a line.
theorem written_marker {lines before after : List Line} {name : Word} {others : Line} {later : Nat}
    (whole : lines = before ++ (mark 0 .sign :: (0, .word name) :: others) :: after)
    (ends : others.length + (linesTokens after).length = later) (items : List Item) :
    Program.written ⟨sourceLexemes [] lines, items⟩ (markerSpan later) = name.text := by
  have parts : sourceLexemes [] lines =
      (sourceLexemes [] before ++ [⟨gapAfter [] before, .mark .sign, ['@']⟩]) ++
        ([⟨[], .word name, name.text.toList⟩] ++ (Line.lexemes others ++ sourceLexemes ['\n'] after)) := by
    rw [whole, sourceLexemes_append, List.append_assoc]
    simp only [mark, sourceLexemes, List.replicate_zero, List.append_nil]
    rfl
  have rest : (Line.lexemes others ++ sourceLexemes ['\n'] after).length = later := by
    rw [List.length_append, length_sourceLexemes, Line.lexemes, List.length_map, ends]
  rw [parts, written_between]
  · simp [written]
  · rw [rest, List.length_singleton, Nat.add_comm 1]
    rfl
  · exact rest.symm

section Models
variable {names : Names} {imports : List (Word × List Word)} {lines : List Line}
variable {declaration : ClassDeclaration}

-- A package, imports and one class.
def sourceItems (names : Names) (imports : List (Word × List Word)) (lines : List Line)
    (declaration : ClassDeclaration) : List Item :=
  .package (packageSpan names.first names.others (linesTokens ([] :: (importLines imports ++ lines)))) ::
    (List.replicate imports.length .other ++ [.other, .classItem declaration])

def sourceProgram (names : Names) (imports : List (Word × List Word)) (lines : List Line)
    (items : List Item) : Program :=
  ⟨sourceLexemes [] (head names.first names.others imports ++ lines), items⟩

theorem items_source (plain : ∀ type ∈ imports, type.1.text ≠ "static")
    (some_ : 0 < (linesTokens lines).length)
    (read : item (rulesTo (depthOf (linesTokens (head names.first names.others imports ++ lines))))
      (linesTokens lines) = .ok (.classItem declaration, [])) :
    items (linesTokens (head names.first names.others imports ++ lines)) =
      .ok (sourceItems names imports lines declaration) := by
  have found := items_head names.first names.others plain (.item read some_ (.done []))
  rw [← linesTokens_append, ← linesTokens_append] at found
  exact items_read found

theorem parse_source {text : String} (lexed : lexemes text = sourceLexemes [] lines) {found : List Item}
    (read : items (linesTokens lines) = .ok found) : parse text = .ok ⟨sourceLexemes [] lines, found⟩ := by
  have tokens : tokensOf (sourceLexemes [] lines) = linesTokens lines := tokensOf_sourceLexemes _ _
  simp only [parse, lexed, tokens, read]

theorem classNamed?_sourceItems (names : Names) (imports : List (Word × List Word)) (lines : List Line)
    (declaration : ClassDeclaration) :
    ClassModel.classNamed? declaration.name.text (sourceItems names imports lines declaration) =
      some declaration := by
  have others : ∀ count : Nat, ClassModel.classNamed? declaration.name.text
      (List.replicate count .other ++ [.other, .classItem declaration]) = some declaration := by
    intro count
    induction count with
    | zero => simp [ClassModel.classNamed?]
    | succ count ih => exact ih
  exact others imports.length

-- The model of the class in a source that begins in this way.
theorem extract_source {text : String} (fallback : String)
    (lexed : lexemes text = sourceLexemes [] (head names.first names.others imports ++ lines))
    (read : items (linesTokens (head names.first names.others imports ++ lines)) =
      .ok (sourceItems names imports lines declaration)) :
    ClassModel.extract fallback ⟨text, declaration.name.text⟩ =
      .ok (ClassModel.ofDeclaration
        (sourceProgram names imports lines (sourceItems names imports lines declaration))
        names.package declaration) := by
  have parsed : parse text =
      .ok (sourceProgram names imports lines (sourceItems names imports lines declaration)) :=
    parse_source lexed read
  have package : ClassModel.packageOf?
      (sourceProgram names imports lines (sourceItems names imports lines declaration))
      (sourceItems names imports lines declaration) = some names.package :=
    congrArg some (written_package names ([] :: (importLines imports ++ lines)) _)
  have named := classNamed?_sourceItems names imports lines declaration
  simp only [ClassModel.extract, parsed]
  simp only [sourceProgram] at package ⊢
  simp only [named, package, Option.getD_some]

end Models

section Accepted
variable {names : Names} {spec : FeatureModule}

theorem markers_service (names : Names) (items : List Item) :
    ClassModel.markersOf (sourceProgram names serviceImports (serviceClass names) items)
      (serviceModifiers names) = ["Service", "Transactional"] := by
  have first : (sourceProgram names serviceImports (serviceClass names) items).written
      (markerSpan ((linesTokens (serviceBody names)).length + 6)) = "Service" :=
    written_marker rfl (Nat.zero_add _) items
  have second : (sourceProgram names serviceImports (serviceClass names) items).written
      (markerSpan ((linesTokens (serviceBody names)).length + 4)) = "Transactional" :=
    written_marker (List.append_cons _ _ _) (Nat.zero_add _) items
  simp only [ClassModel.markersOf, serviceModifiers, List.map_cons, List.map_nil, first, second]
  decide

theorem markers_controller (names : Names) (items : List Item) :
    ClassModel.markersOf (sourceProgram names controllerImports (controllerClass names) items)
      (controllerModifiers names) = ["RequestMapping", "RestController"] := by
  have first : (sourceProgram names controllerImports (controllerClass names) items).written
      (markerSpan ((linesTokens (controllerBody names)).length + 9)) = "RestController" :=
    written_marker rfl (Nat.zero_add _) items
  have second : (sourceProgram names controllerImports (controllerClass names) items).written
      (markerSpan ((linesTokens (controllerBody names)).length + 7)) = "RequestMapping" :=
    written_marker (List.append_cons _ _ _) (Nat.add_comm _ _) items
  simp only [ClassModel.markersOf, controllerModifiers, List.map_cons, List.map_nil, first, second]
  decide

theorem service_extracted (fit : names.Fit spec) (fallback : String) : ∃ model,
    ClassModel.extract fallback
        ⟨(spec.artifact .service).content, ArtifactKind.service.typeName spec.entity⟩ = .ok model ∧
      model.package = spec.featurePackage ∧ model.role = .plain ∧
      model.privateFields.map (·.name) = ["log", "repository", "mapper"] := by
  obtain ⟨log, repository, mapper, sign, read⟩ := item_service names
    (12 * (linesTokens (serviceSource names)).length + 15)
  have some_ : 0 < (linesTokens (serviceClass names)).length := Nat.succ_pos _
  have plain : ∀ type ∈ serviceImports, type.1.text ≠ "static" := by decide
  have extracted := extract_source fallback (service_lexemes fit) (items_source plain some_ read)
  have name : (names.type .service).text = ArtifactKind.service.typeName spec.entity :=
    congrArg ArtifactKind.service.typeName fit.entity
  have role : (if SpringSkeleton.controllerMarkers.any ["Service", "Transactional"].contains then
    Role.httpFacing else Role.plain) = .plain := by decide
  rw [name] at extracted
  refine ⟨_, extracted, fit.package, ?_, rfl⟩
  rw [ClassModel.role, ClassModel.ofDeclaration, markers_service]
  exact role

theorem controller_extracted (fit : names.Fit spec) (fallback : String) : ∃ model,
    ClassModel.extract fallback
        ⟨(spec.artifact .controller).content, ArtifactKind.controller.typeName spec.entity⟩ = .ok model ∧
      model.package = spec.featurePackage ∧ model.role = .httpFacing := by
  obtain ⟨service, sign, read⟩ := item_controller names
    (12 * (linesTokens (controllerSource names)).length + 15)
  have some_ : 0 < (linesTokens (controllerClass names)).length := Nat.succ_pos _
  have plain : ∀ type ∈ controllerImports, type.1.text ≠ "static" := by decide
  have extracted := extract_source fallback (controller_lexemes fit) (items_source plain some_ read)
  have name : (names.type .controller).text = ArtifactKind.controller.typeName spec.entity :=
    congrArg ArtifactKind.controller.typeName fit.entity
  have role : (if SpringSkeleton.controllerMarkers.any ["RequestMapping", "RestController"].contains then
    Role.httpFacing else Role.plain) = .httpFacing := by decide
  rw [name] at extracted
  refine ⟨_, extracted, fit.package, ?_⟩
  rw [ClassModel.role, ClassModel.ofDeclaration, markers_controller]
  exact role

end Accepted

end SpringSkeleton.FeatureModule.Sources
