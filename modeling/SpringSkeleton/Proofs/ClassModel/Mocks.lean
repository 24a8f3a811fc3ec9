import SpringSkeleton.ClassModel.Extraction
import SpringSkeleton.Proofs.ClassModel.Blocks
import SpringSkeleton.Proofs.FeatureModule.Reading
import SpringSkeleton.Proofs.Java.Scanning

namespace SpringSkeleton

namespace ClassModel
open Text
open FeatureModule (declaredField? declaredFields fieldLine)

variable {fallback : String} {query : ClassQuery} {model : ClassModel}

section Extracted

-- The names that a source declares are words.
structure Worded (model : ClassModel) : Prop where
  name : ∃ word : Java.Word, model.name = word.text
  fields : ∀ field ∈ model.fields, ∃ word : Java.Word, field.name = word.text
  methods : ∀ method ∈ model.methods, ∃ word : Java.Word, method.name = word.text

theorem ofDeclaration_worded (program : Java.Program) (package : String)
    (declaration : Java.ClassDeclaration) : (ofDeclaration program package declaration).Worded := by
  refine ⟨⟨declaration.name, rfl⟩, ?_, ?_⟩
  · refine List.forall_mem_flatMap.mpr fun member _ => ?_
    cases member with
    | field given => exact List.forall_mem_map.mpr fun word _ => ⟨word, rfl⟩
    | method _ => exact List.forall_mem_nil _
    | other => exact List.forall_mem_nil _
  · refine List.forall_mem_flatMap.mpr fun member _ => ?_
    cases member with
    | method given => exact List.forall_mem_singleton.mpr ⟨given.name, rfl⟩
    | field _ => exact List.forall_mem_nil _
    | other => exact List.forall_mem_nil _

theorem extract_worded (extracted : extract fallback query = .ok model) : model.Worded := by
  unfold extract at extracted
  split at extracted
  · cases extracted
  · rename_i program _
    cases found : classNamed? query.className program.items with
    | none => simp [found] at extracted
    | some declaration =>
      simp only [found, Except.ok.injEq] at extracted
      exact extracted ▸ ofDeclaration_worded program _ declaration

-- Types and the package are kept as they are written, on several lines if they are.
theorem Worded.oneLine (worded : model.Worded) (package : Unbroken model.package)
    (types : ∀ field ∈ model.privateFields, Unbroken field.declaredType) : model.OneLine := by
  have feed : '\n' ∈ Java.otherStarts := by decide
  obtain ⟨name, named⟩ := worded.name
  refine ⟨package, named ▸ name.not_mem feed, fun field member => ⟨types field member, ?_⟩, ?_⟩
  · obtain ⟨word, same⟩ := worded.fields field (List.mem_filter.mp member).1
    exact same ▸ word.not_mem feed
  · intro method member
    obtain ⟨word, same⟩ := worded.methods method (List.mem_filter.mp member).1
    exact same ▸ word.not_mem feed

end Extracted

section Declared

-- The fields of the test with their types: the mocks, and the one for the class.
def testFields (model : ClassModel) : List (String × String) :=
  model.privateFields.map (fun field => (field.name, field.declaredType)) ++ [("subject", model.name)]

theorem mockLines_declared {field : FieldModel} (word : ' ' ∉ field.name.toList) :
    (mockLines field).filterMap declaredField? = [(field.name, field.declaredType)] := by
  have blank : declaredField? "" = none := by decide
  have mark : declaredField? "    @Mock" = none := by decide
  have declared : declaredField? (fieldLine (field.name, field.declaredType)) =
      some (field.name, field.declaredType) := FeatureModule.declaredField?_fieldLine word
  have last : declaredField? ("    private " ++ field.declaredType ++ " " ++ field.name ++ ";") =
      some (field.name, field.declaredType) := declared
  simp only [mockLines, List.filterMap_cons, List.filterMap_nil, blank, mark, last]

theorem blockLines_declared (block : TestBlock) : (blockLines block).filterMap declaredField? = [] := by
  simp (disch := decide) only [blockLines, declaredField?, String.toList_append, List.append_assoc,
    dropPrefix?_eq_none, dropPrefix?_append_eq_none, Option.bind_none, List.filterMap_cons,
    List.filterMap_nil]

theorem headLines_declared (package name : String) :
    (headLines package name).filterMap declaredField? = [] := by
  simp (disch := decide) only [headLines, declaredField?, String.toList_append, List.append_assoc,
    dropPrefix?_eq_none, dropPrefix?_append_eq_none, Option.bind_none, List.filterMap_cons,
    List.filterMap_nil]

theorem subjectLines_declared (name : String) :
    (subjectLines name).filterMap declaredField? = [("subject", name)] := by
  have blank : declaredField? "" = none := by decide
  have mark : declaredField? "    @InjectMocks" = none := by decide
  have word : ' ' ∉ "subject".toList := by decide
  have line : "    private " ++ name ++ " subject;" = fieldLine ("subject", name) := by
    refine String.toList_inj.mp ?_
    simp [fieldLine]
  have declared : declaredField? (fieldLine ("subject", name)) = some ("subject", name) :=
    FeatureModule.declaredField?_fieldLine word
  simp only [subjectLines, List.filterMap_cons, List.filterMap_nil, blank, mark, line, declared]

theorem unitTestLines_declared (words : ∀ field ∈ model.privateFields, ' ' ∉ field.name.toList) :
    model.unitTestLines.filterMap declaredField? = model.testFields := by
  have mocks : (model.privateFields.flatMap mockLines).filterMap declaredField? =
      model.privateFields.map fun field => (field.name, field.declaredType) := by
    rw [List.filterMap_flatMap,
      List.flatMap_congr fun field member => mockLines_declared (words field member), ← List.map_eq_flatMap]
  have blocks : (model.testBlocks.flatMap blockLines).filterMap declaredField? = [] := by
    rw [List.filterMap_flatMap]
    simp [blockLines_declared]
  have last : ["\x7d"].filterMap declaredField? = [] := by decide
  simp only [unitTestLines_eq, openingLines, List.filterMap_append, headLines_declared, mocks,
    subjectLines_declared, blocks, last, List.append_nil, List.nil_append, testFields]

-- With fields of different names, only the name of the last field can be there already.
theorem testFields_nodup_iff (distinct : (model.fields.map (·.name)).Nodup) :
    (model.testFields.map Prod.fst).Nodup ↔ ∀ field ∈ model.privateFields, field.name ≠ "subject" := by
  have mocks : (model.privateFields.map (·.name)).Nodup :=
    distinct.sublist (List.filter_sublist.map _)
  have names : model.testFields.map Prod.fst = model.privateFields.map (·.name) ++ ["subject"] := by
    simp [testFields]
  rw [names, List.nodup_append]
  simp [mocks]

theorem sourceText_mockLines (field : FieldModel) : sourceText (mockLines field) =
    "\n    @Mock\n    private " ++ field.declaredType ++ " " ++ field.name ++ ";\n" := by
  refine String.toList_inj.mp ?_
  simp [sourceText, mockLines]

theorem sourceText_subjectLines (name : String) : sourceText (subjectLines name) =
    "\n    @InjectMocks\n    private " ++ name ++ " subject;\n" := by
  refine String.toList_inj.mp ?_
  simp [sourceText, subjectLines]

theorem unitTest_fieldText (model : ClassModel) : sourceText model.unitTestLines =
    sourceText (headLines model.package model.name) ++
      String.join (model.privateFields.map fun field =>
        "\n    @Mock\n    private " ++ field.declaredType ++ " " ++ field.name ++ ";\n") ++
      ("\n    @InjectMocks\n    private " ++ model.name ++ " subject;\n") ++
      String.join (model.testBlocks.map fun block => sourceText (blockLines block)) ++ "\x7d\n" := by
  have mocks : String.join (model.privateFields.map fun field => sourceText (mockLines field)) =
      String.join (model.privateFields.map fun field =>
        "\n    @Mock\n    private " ++ field.declaredType ++ " " ++ field.name ++ ";\n") :=
    congrArg String.join (List.map_congr_left fun field _ => sourceText_mockLines field)
  rw [unitTest_text, openingLines, sourceText_append, sourceText_append, sourceText_flatMap, mocks,
    sourceText_subjectLines]

end Declared

-- The test has a field for each private one, under its name, and one more. No name is declared twice
-- exactly when no private field has the name of that one. In the text the fields stand one after the
-- other, whatever their types hold.
theorem extract_fields (extracted : extract fallback query = .ok model)
    (distinct : (model.fields.map (·.name)).Nodup) :
    model.unitTestLines.filterMap declaredField? = model.testFields ∧
      sourceText model.unitTestLines = sourceText (headLines model.package model.name) ++
        String.join (model.privateFields.map fun field =>
          "\n    @Mock\n    private " ++ field.declaredType ++ " " ++ field.name ++ ";\n") ++
        ("\n    @InjectMocks\n    private " ++ model.name ++ " subject;\n") ++
        String.join (model.testBlocks.map fun block => sourceText (blockLines block)) ++ "\x7d\n" ∧
      ((model.testFields.map Prod.fst).Nodup ↔ ∀ field ∈ model.privateFields, field.name ≠ "subject") ∧
      (Unbroken model.package → (∀ field ∈ model.privateFields, Unbroken field.declaredType) →
        declaredFields (sourceText model.unitTestLines) = model.testFields) := by
  have worded := extract_worded extracted
  have words : ∀ field ∈ model.privateFields, ' ' ∉ field.name.toList := by
    intro field member
    obtain ⟨word, same⟩ := worded.fields field (List.mem_filter.mp member).1
    exact same ▸ word.not_mem (by decide)
  refine ⟨unitTestLines_declared words, unitTest_fieldText model, testFields_nodup_iff distinct,
    fun package types => ?_⟩
  rw [declaredFields, sourceLines_sourceText (unitTestLines_unbroken (worded.oneLine package types))]
  exact unitTestLines_declared words

-- A class with two mocks, and one whose mock has the name of the field for the class.
def pair : ClassModel :=
  ⟨"p", "C", [], [⟨"a", "A", .privateAccess, false⟩, ⟨"b", "A", .privateAccess, false⟩], []⟩

def taken : ClassModel := ⟨"p", "C", [], [⟨"subject", "A", .privateAccess, false⟩], []⟩

theorem ok_of_toOption {α β : Type} {result : Except α β} {value : β} (found : result.toOption = some value) :
    result = .ok value := by
  cases result with
  | error problem => cases found
  | ok other => exact congrArg _ (Option.some.inj found)

theorem pair_extracted : extract "p" ⟨"class C \x7b private A a, b; \x7d", "C"⟩ = .ok pair :=
  ok_of_toOption (by decide +kernel)

theorem taken_extracted : extract "p" ⟨"class C \x7b private A subject; \x7d", "C"⟩ = .ok taken :=
  ok_of_toOption (by decide +kernel)

theorem extract_fields_pair :
    (pair.fields.map (·.name)).Nodup ∧
    declaredFields (sourceText pair.unitTestLines) = [("a", "A"), ("b", "A"), ("subject", "C")] ∧
      (pair.testFields.map Prod.fst).Nodup := by
  have distinct : (pair.fields.map (·.name)).Nodup := by decide
  obtain ⟨_, _, once, read⟩ := extract_fields pair_extracted distinct
  exact ⟨distinct, read (by decide) (by decide), once.mpr (by decide)⟩

-- Fields of different names in the source, and one of them twice in the test.
theorem extract_fields_twice : ¬ ∀ (fallback : String) (query : ClassQuery) (model : ClassModel),
    extract fallback query = .ok model → (model.fields.map (·.name)).Nodup →
      ((declaredFields (sourceText model.unitTestLines)).map Prod.fst).Nodup := by
  intro once
  have nodup := once _ _ _ taken_extracted (by decide)
  have oneLine : taken.OneLine := ⟨by decide, by decide, by decide, by decide⟩
  rw [declaredFields, sourceLines_sourceText (unitTestLines_unbroken oneLine),
    unitTestLines_declared (by decide)] at nodup
  exact absurd nodup (by decide)

end ClassModel
end SpringSkeleton
