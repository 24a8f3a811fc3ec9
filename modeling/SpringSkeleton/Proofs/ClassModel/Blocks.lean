import Mathlib.Data.List.Induction
import SpringSkeleton.ClassModel.TestSource
import SpringSkeleton.Proofs.Text.Lines

namespace SpringSkeleton.ClassModel
open Text

section Names
variable {method other : String} {count more : Nat} {seen methods : List String} {block : TestBlock}

-- What the name of a block ends in.
def numeral (count : Nat) : List Char := if count = 1 then [] else Nat.toDigits 10 count

def stem (method : String) : List Char := method.toList ++ "_shouldExecuteHappyPath".toList

theorem blockName_chars (method : String) (count : Nat) :
    (blockName method count).toList = stem method ++ numeral count := by
  by_cases single : count = 1
  · simp [blockName, stem, numeral, single]
  · simp [blockName, stem, numeral, single]

theorem numeral_digits (count : Nat) : ∀ c ∈ numeral count, c.isDigit = true := by
  intro c member
  unfold numeral at member
  split at member
  · cases member
  · exact Nat.isDigit_of_mem_toDigits (by decide) (by decide) member

theorem numeral_injective (same : numeral count = numeral more) : count = more := by
  have some_ : ∀ {n : Nat}, Nat.toDigits 10 n ≠ [] := Nat.toDigits_ne_nil
  unfold numeral at same
  split at same
  · rename_i one
    split at same
    · rename_i two
      rw [one, two]
    · exact absurd same.symm some_
  · split at same
    · exact absurd same some_
    · have read := congrArg (Nat.ofDigitChars 10 · 0) same
      simpa only [Nat.ofDigitChars_ten_toDigits] using read

theorem stem_ends (method : String) : (stem method).getLast? = some 'h' := by
  simp [stem]

-- No digits stand between the end of a stem and an earlier letter.
theorem digits_nil {front digits : List Char} (ends : (front ++ digits).getLast? = some 'h')
    (each : ∀ c ∈ digits, c.isDigit = true) : digits = [] := by
  cases digits using List.reverseRecOn with
  | nil => rfl
  | append_singleton before last =>
    rw [← List.append_assoc, List.getLast?_concat] at ends
    have digit := each last (by simp)
    rw [Option.some.inj ends] at digit
    exact absurd digit (by decide)

-- A name and its number are told apart again: the number is the digits at the end.
theorem blockName_injective (same : blockName method count = blockName other more) :
    method = other ∧ count = more := by
  have chars := congrArg String.toList same
  rw [blockName_chars, blockName_chars] at chars
  obtain ⟨stems, numerals⟩ : stem method = stem other ∧ numeral count = numeral more := by
    rcases List.append_eq_append_iff.mp chars with ⟨middle, whole, rest⟩ | ⟨middle, whole, rest⟩
    · have none : middle = [] := digits_nil (whole ▸ stem_ends other)
        fun c member => numeral_digits count c (by rw [rest]; exact List.mem_append_left _ member)
      simpa [none, eq_comm] using And.intro whole rest
    · have none : middle = [] := digits_nil (whole ▸ stem_ends method)
        fun c member => numeral_digits more c (by rw [rest]; exact List.mem_append_left _ member)
      simpa [none, eq_comm] using And.intro whole rest
  exact ⟨String.toList_inj.mp (List.append_cancel_right stems), numeral_injective numerals⟩

theorem blocksAfter_methods : (blocksAfter seen methods).map (·.method) = methods := by
  induction methods generalizing seen with
  | nil => rfl
  | cons method rest ih => simp [blocksAfter, ih]

-- Each block is numbered beyond all that were seen of its method.
theorem mem_blocksAfter (member : block ∈ blocksAfter seen methods) :
    ∃ number, seen.count block.method < number ∧ block.name = blockName block.method number := by
  induction methods generalizing seen with
  | nil => cases member
  | cons method rest ih =>
    rcases List.mem_cons.mp member with rfl | later
    · exact ⟨_, Nat.lt_succ_self _, rfl⟩
    · obtain ⟨number, beyond, name⟩ := ih later
      refine ⟨number, Nat.lt_of_le_of_lt ?_ beyond, name⟩
      exact List.count_le_count_cons

theorem blocksAfter_nodup : ((blocksAfter seen methods).map (·.name)).Nodup := by
  induction methods generalizing seen with
  | nil => exact .nil
  | cons method rest ih =>
    refine List.nodup_cons.mpr ⟨fun again => ?_, ih⟩
    obtain ⟨block, later, name⟩ := List.mem_map.mp again
    obtain ⟨number, beyond, numbered⟩ := mem_blocksAfter later
    rw [numbered] at name
    obtain ⟨same, count⟩ := blockName_injective name
    rw [same, List.count_cons_self] at beyond
    omega

end Names

section Reading
variable {model : ClassModel} {front back inner line : String} {opening lines : List String}

-- What a line holds between two marks.
def between? (front back line : String) : Option String :=
  (line.toList.dropPrefix? front.toList).bind fun rest =>
    (rest.dropSuffix? back.toList).map String.ofList

def testName? (line : String) : Option String := between? "    void " "() \x7b" line

def calledMethod? (line : String) : Option String :=
  between? "        // var result = subject." "();" line

-- The tests that some lines declare, each with the method that is called next.
def readBlocks : List String → List TestBlock
  | [] => []
  | line :: rest => match testName? line with
    | none => readBlocks rest
    | some name => ⟨name, (rest.findSome? calledMethod?).getD ""⟩ :: readBlocks rest

theorem between?_marks (front inner back : String) : between? front back (front ++ inner ++ back) =
    some inner := by
  have chars : (front ++ inner ++ back).toList = front.toList ++ (inner.toList ++ back.toList) := by simp
  rw [between?, chars, List.dropPrefix?_append_of_beq _ BEq.rfl]
  simp only [Option.bind_some, dropSuffix?_append, Option.map_some, String.ofList_toList]

theorem readBlocks_skip (other : ∀ line ∈ opening, testName? line = none) (lines : List String) :
    readBlocks (opening ++ lines) = readBlocks lines := by
  induction opening with
  | nil => rfl
  | cons line rest ih =>
    obtain ⟨first, others⟩ := List.forall_mem_cons.mp other
    rw [List.cons_append, readBlocks, first]
    exact ih others

-- What follows the name of a test, as far as the method that is called and from there on.
def bodyLines (method : String) : List String :=
  ["        // arrange", "", "        // act"] ++
    ("        // var result = subject." ++ method ++ "();") ::
      ["", "        // assert (scaffold: replace with real expectations)",
       "        assertThat(true).isTrue();", "    \x7d"]

theorem bodyLines_names (method : String) : ∀ line ∈ bodyLines method, testName? line = none := by
  simp (disch := decide) only [bodyLines, List.forall_mem_append, List.forall_mem_cons, List.not_mem_nil,
    false_implies, implies_true, testName?, between?, String.toList_append, List.append_assoc,
    dropPrefix?_eq_none, dropPrefix?_append_eq_none, Option.bind_none, and_true]

theorem bodyLines_method (method : String) (lines : List String) :
    (bodyLines method ++ lines).findSome? calledMethod? = some method := by
  have before : ["        // arrange", "", "        // act"].findSome? calledMethod? = none := by decide
  have called : calledMethod? ("        // var result = subject." ++ method ++ "();") = some method :=
    between?_marks _ _ _
  rw [bodyLines, List.append_assoc, List.findSome?_append, before, List.cons_append, List.findSome?_cons,
    called]
  rfl

theorem readBlocks_block (block : TestBlock) (lines : List String) :
    readBlocks (blockLines block ++ lines) = block :: readBlocks lines := by
  have head : ∀ line ∈ ["", "    @Test"], testName? line = none := by decide
  have name : testName? ("    void " ++ block.name ++ "() \x7b") = some block.name := between?_marks _ _ _
  have parts : blockLines block ++ lines = ["", "    @Test"] ++
      ("    void " ++ block.name ++ "() \x7b") :: (bodyLines block.method ++ lines) := rfl
  rw [parts, readBlocks_skip head, readBlocks, name]
  simp only [bodyLines_method, Option.getD_some, readBlocks_skip (bodyLines_names block.method)]

theorem readBlocks_blocks (blocks : List TestBlock) (lines : List String) :
    readBlocks (blocks.flatMap blockLines ++ lines) = blocks ++ readBlocks lines := by
  induction blocks with
  | nil => rfl
  | cons block rest ih =>
    rw [List.flatMap_cons, List.append_assoc, readBlocks_block, ih]
    rfl

def headLines (package name : String) : List String :=
  ["package " ++ package ++ ";",
   "",
   "import org.junit.jupiter.api.Test;",
   "import org.junit.jupiter.api.extension.ExtendWith;",
   "import org.mockito.InjectMocks;",
   "import org.mockito.Mock;",
   "import org.mockito.junit.jupiter.MockitoExtension;",
   "",
   "import static org.assertj.core.api.Assertions.assertThat;",
   "",
   "@ExtendWith(MockitoExtension.class)",
   "class " ++ name ++ "Test \x7b"]

def subjectLines (name : String) : List String :=
  ["", "    @InjectMocks", "    private " ++ name ++ " subject;"]

-- The lines before the tests: they do not depend on the methods.
def openingLines (package name : String) (mocks : List FieldModel) : List String :=
  headLines package name ++ mocks.flatMap mockLines ++ subjectLines name

theorem unitTestLines_eq (model : ClassModel) : model.unitTestLines =
    openingLines model.package model.name model.privateFields ++ model.testBlocks.flatMap blockLines
      ++ ["\x7d"] := rfl

theorem openingLines_names (package name : String) (mocks : List FieldModel) :
    ∀ line ∈ openingLines package name mocks, testName? line = none := by
  simp (disch := decide) only [openingLines, headLines, subjectLines, mockLines, List.forall_mem_append,
    List.forall_mem_cons, List.forall_mem_flatMap, List.not_mem_nil, false_implies, implies_true,
    testName?, between?, String.toList_append, List.append_assoc, dropPrefix?_eq_none,
    dropPrefix?_append_eq_none, Option.bind_none, and_true]

theorem readBlocks_unitTest (model : ClassModel) : readBlocks model.unitTestLines = model.testBlocks := by
  have last : readBlocks ["\x7d"] = [] := by decide
  rw [unitTestLines_eq, List.append_assoc, readBlocks_skip (openingLines_names _ _ _), readBlocks_blocks,
    last, List.append_nil]

end Reading

section Test
variable {model : ClassModel}

-- Nothing that goes into the test breaks a line. Types may do so: they are kept as they are written.
structure OneLine (model : ClassModel) : Prop where
  package : Unbroken model.package
  name : Unbroken model.name
  mocks : ∀ field ∈ model.privateFields, Unbroken field.declaredType ∧ Unbroken field.name
  methods : ∀ method ∈ model.publicMethods, Unbroken method.name

theorem blockName_begins (method : String) (count : Nat) :
    stem method <+: (blockName method count).toList := by
  rw [blockName_chars]
  exact List.prefix_append _ _

theorem blockName_unbroken {method : String} (whole : Unbroken method) (count : Nat) :
    Unbroken (blockName method count) := by
  have mark : '\n' ∉ "_shouldExecuteHappyPath".toList := by decide
  have number : '\n' ∉ numeral count := fun member => absurd (numeral_digits count _ member) (by decide)
  rw [Unbroken, blockName_chars, stem]
  simp only [List.mem_append, not_or]
  exact ⟨⟨whole, mark⟩, number⟩

theorem testBlocks_methods (model : ClassModel) :
    model.testBlocks.map (·.method) = model.publicMethods.map (·.name) := blocksAfter_methods

theorem mem_testBlocks {block : TestBlock} (member : block ∈ model.testBlocks) :
    ∃ method ∈ model.publicMethods, block.method = method.name ∧
      ∃ number, block.name = blockName method.name number := by
  obtain ⟨number, _, name⟩ := mem_blocksAfter member
  have listed : block.method ∈ model.publicMethods.map (·.name) :=
    testBlocks_methods model ▸ List.mem_map_of_mem member
  obtain ⟨method, inside, same⟩ := List.mem_map.mp listed
  exact ⟨method, inside, same.symm, number, same ▸ name⟩

theorem mockLines_unbroken {field : FieldModel} (type : Unbroken field.declaredType)
    (name : Unbroken field.name) : ∀ line ∈ mockLines field, Unbroken line := by
  simp only [mockLines, List.forall_mem_cons, List.not_mem_nil, false_implies, implies_true,
    unbroken_append, type, name, and_true]
  and_intros <;> exact unbroken_ofList (by decide)

theorem openingLines_unbroken (oneLine : model.OneLine) :
    ∀ line ∈ openingLines model.package model.name model.privateFields, Unbroken line := by
  have mocks : ∀ field ∈ model.privateFields, ∀ line ∈ mockLines field, Unbroken line :=
    fun field member => mockLines_unbroken (oneLine.mocks field member).1 (oneLine.mocks field member).2
  simp only [openingLines, headLines, subjectLines, List.forall_mem_append, List.forall_mem_cons,
    List.forall_mem_flatMap, List.not_mem_nil, false_implies, implies_true, unbroken_append,
    oneLine.package, oneLine.name, and_true]
  refine ⟨⟨?_, mocks⟩, ?_⟩
  · and_intros <;> exact unbroken_ofList (by decide)
  · and_intros <;> exact unbroken_ofList (by decide)

theorem blockLines_unbroken {block : TestBlock} (name : Unbroken block.name)
    (method : Unbroken block.method) : ∀ line ∈ blockLines block, Unbroken line := by
  simp only [blockLines, List.forall_mem_cons, List.not_mem_nil, false_implies, implies_true,
    unbroken_append, name, method, and_true]
  and_intros <;> exact unbroken_ofList (by decide)

theorem unitTestLines_unbroken (oneLine : model.OneLine) : ∀ line ∈ model.unitTestLines, Unbroken line := by
  have blocks : ∀ block ∈ model.testBlocks, ∀ line ∈ blockLines block, Unbroken line := by
    intro block member
    obtain ⟨method, inside, same, number, name⟩ := mem_testBlocks member
    have whole := oneLine.methods method inside
    exact blockLines_unbroken (name ▸ blockName_unbroken whole number) (same ▸ whole)
  have last : ∀ line ∈ ["\x7d"], Unbroken line :=
    List.forall_mem_singleton.mpr (unbroken_ofList (by decide))
  rw [unitTestLines_eq, List.forall_mem_append, List.forall_mem_append, List.forall_mem_flatMap]
  exact ⟨⟨openingLines_unbroken oneLine, blocks⟩, last⟩

theorem unitTest_text (model : ClassModel) : sourceText model.unitTestLines =
    sourceText (openingLines model.package model.name model.privateFields) ++
      String.join (model.testBlocks.map fun block => sourceText (blockLines block)) ++ "\x7d\n" := by
  have last : sourceText ["\x7d"] = "\x7d\n" := by decide
  rw [unitTestLines_eq, sourceText_append, sourceText_append, sourceText_flatMap, last]

-- One block for each public method and in their order, each with the method's name before its own number
-- and with a call of the method, and no two of one name. The tests read from the file are these blocks, and
-- its text is made of theirs even where a name breaks a line.
theorem unitTest_blocks (model : ClassModel) :
    model.unitTestLines = openingLines model.package model.name model.privateFields ++
        model.testBlocks.flatMap blockLines ++ ["\x7d"] ∧
      sourceText model.unitTestLines =
        sourceText (openingLines model.package model.name model.privateFields) ++
          String.join (model.testBlocks.map fun block => sourceText (blockLines block)) ++ "\x7d\n" ∧
      readBlocks model.unitTestLines = model.testBlocks ∧
      model.testBlocks.map (·.method) = model.publicMethods.map (·.name) ∧
      (∀ block ∈ model.testBlocks, stem block.method <+: block.name.toList) ∧
      (model.testBlocks.map (·.name)).Nodup ∧
      (model.OneLine → readBlocks (sourceLines (sourceText model.unitTestLines)) = model.testBlocks) := by
  refine ⟨unitTestLines_eq model, unitTest_text model, readBlocks_unitTest model,
    testBlocks_methods model, ?_, blocksAfter_nodup, ?_⟩
  · intro block member
    obtain ⟨method, _, same, number, name⟩ := mem_testBlocks member
    rw [same, name]
    exact blockName_begins method.name number
  · intro oneLine
    rw [sourceLines_sourceText (unitTestLines_unbroken oneLine)]
    exact readBlocks_unitTest model

-- Overloads, and names that look numbered or tested already.
def overloads : ClassModel :=
  ⟨"com.acme", "Runner", [], [],
    [⟨"run", .publicAccess⟩, ⟨"stop", .privateAccess⟩, ⟨"run2", .publicAccess⟩, ⟨"run", .publicAccess⟩,
     ⟨"run_shouldExecuteHappyPath", .publicAccess⟩]⟩

theorem overloads_oneLine : overloads.OneLine := ⟨by decide, by decide, by decide, by decide⟩

theorem unitTest_blocks_overloads :
    readBlocks (sourceLines (sourceText overloads.unitTestLines)) =
      [⟨"run_shouldExecuteHappyPath", "run"⟩, ⟨"run2_shouldExecuteHappyPath", "run2"⟩,
       ⟨"run_shouldExecuteHappyPath2", "run"⟩,
       ⟨"run_shouldExecuteHappyPath_shouldExecuteHappyPath", "run_shouldExecuteHappyPath"⟩] := by
  obtain ⟨_, _, _, _, _, _, read⟩ := unitTest_blocks overloads
  rw [read overloads_oneLine]
  decide

end Test

end SpringSkeleton.ClassModel
