import SpringSkeleton.Proofs.FeatureModule.Confinement
import SpringSkeleton.Proofs.Java.Casing
import SpringSkeleton.Proofs.Path.Join

namespace SpringSkeleton

namespace Path

-- An absolute path in the middle takes the place of what stands before it, on both sides.
theorem join_join (base first : Path) {second : Path} (relative : second.isAbsolute = false) :
    base.join (first.join second) = (base.join first).join second := by
  cases absolute : first.isAbsolute with
  | true =>
    have both : (first.join second).isAbsolute = true := (isAbsolute_join first relative).trans absolute
    rw [join_of_isAbsolute base absolute, join_of_isAbsolute base both]
  | false => exact (join_assoc base absolute relative).symm

theorem components_name {name : String} (isName : IsName name) :
    (⟨name⟩ : Path).components = [.name name] := by
  have busy := isName.busy
  simp only [isIdle, Bool.or_eq_false_iff, beq_eq_false_iff_ne] at busy
  have lead : leadingComponents [name] = [] := by
    unfold leadingComponents
    split <;> simp_all
  simp [components, isName.pieces, lead, component?, busy, isName.down]

end Path

namespace Java

-- A word can be a step of a path, alone or with an ending.
theorem Word.isName_append (word : Word) {ending : String} (whole : '/' ∉ ending.toList) :
    Path.IsName (word.text ++ ending) := by
  have valid := word.valid
  unfold isWord at valid
  cases chars : word.text.toList with
  | nil => simp [chars, isWordChars] at valid
  | cons c rest =>
    simp only [chars, isWordChars, Bool.and_eq_true, List.all_eq_true] at valid
    have first : (word.text ++ ending).toList = c :: (rest ++ ending.toList) := by simp [chars]
    have dot : c ≠ '.' := by
      rintro rfl
      rw [tables.dot] at valid
      cases valid.1
    refine Path.isName_of_head first dot ?_
    rw [first]
    intro slash
    rcases List.mem_cons.mp slash with start | later
    · rw [← start, tables.slash.1] at valid
      cases valid.1
    · rcases List.mem_append.mp later with inside | after
      · have part := valid.2 '/' inside
        rw [tables.slash.2] at part
        cases part
      · exact whole after

theorem Word.isName (word : Word) : Path.IsName word.text := by
  have whole : Path.IsName (word.text ++ "") := word.isName_append (by simp)
  rwa [String.append_empty] at whole

end Java

namespace ClassModel
variable {name fallback : String} {items : List Java.Item} {query : ClassQuery} {model : ClassModel}

theorem classNamed?_name {declaration : Java.ClassDeclaration}
    (found : classNamed? name items = some declaration) : declaration.name.text = name := by
  induction items with
  | nil => cases found
  | cons item rest ih =>
    cases item with
    | package _ => exact ih found
    | other => exact ih found
    | classItem first =>
      unfold classNamed? at found
      split at found
      · rename_i named
        cases found
        exact named
      · exact ih found

-- What is asked for is what is found, and a source declares words only.
theorem extract_name (extracted : extract fallback query = .ok model) :
    ∃ word : Java.Word, word.text = query.className ∧ model.name = query.className := by
  unfold extract at extracted
  split at extracted
  · cases extracted
  · rename_i program _
    cases found : classNamed? query.className program.items with
    | none => simp [found] at extracted
    | some declaration =>
      simp only [found, Except.ok.injEq] at extracted
      have named := classNamed?_name found
      exact ⟨declaration.name, named, by rw [← extracted, ofDeclaration, named]⟩

end ClassModel

namespace Disk
variable {disk : Disk} {base : Path} {name : String}

-- Only the path that a file ends up at counts, not how it is divided.
theorem writeArtifacts_divided (base first : Path) (relative : (⟨name⟩ : Path).isAbsolute = false)
    (kind : ArtifactKind) (content : String) (mode : WriteMode) :
    disk.writeArtifacts base [⟨kind, first.join ⟨name⟩, content⟩] mode =
      disk.writeArtifacts (base.join first) [⟨kind, ⟨name⟩, content⟩] mode := by
  have same := Path.join_join base first relative
  cases mode with
  | direct => simp [writeArtifacts, writeDirect, targets, same]
  | staged => simp [writeArtifacts, writeStaged, stageAll, targets, same]

-- A single file directly below a directory.
theorem ready_single (linkFree : disk.tree.LinkFree) (isName : Path.IsName name)
    (visible : Text.endsWith ".scaffold-tmp" name = false)
    (free : disk.tree.node? (disk.placeOf (stagingPath (base.join ⟨name⟩))) = none)
    (kind : ArtifactKind) (content : String) : disk.Ready base [⟨kind, ⟨name⟩, content⟩] := by
  have components := Path.components_name isName
  refine ⟨linkFree, ⟨?_, List.pairwise_singleton _ _, ?_⟩, List.forall_mem_singleton.mpr free⟩
  · exact List.forall_mem_singleton.mpr ⟨[name], by simp, components⟩
  · refine List.forall_mem_singleton.mpr fun other member => ?_
    rw [components, List.mem_singleton, Path.Component.name.injEq] at member
    rw [member]
    exact visible

-- Directories that are new for a file directly below a directory are on the way to that directory.
theorem newFor_single (isName : Path.IsName name) {kind : ArtifactKind} {content : String}
    {place : Location} (new : disk.NewFor base [⟨kind, ⟨name⟩, content⟩] place) :
    disk.OnWay base place := by
  obtain ⟨artifact, member, parent, isParent, front, last, initial, down, here⟩ := new
  rw [List.mem_singleton.mp member] at isParent
  have steps : parent.steps = base.steps := by
    rw [isParent.steps, Path.steps_join base isName.relative, isName.steps, List.dropLast_concat]
  have absolute : parent.isAbsolute = base.isAbsolute :=
    isParent.isAbsolute.trans (Path.isAbsolute_join base isName.relative)
  exact ⟨front, last, steps ▸ initial, down, by rw [here, start_eq absolute]⟩

-- Whether the file has been written or not, nothing else has changed.
theorem Wrote.single {after : Disk} (isName : Path.IsName name) {kind : ArtifactKind}
    {content : String} {done left : List Artifact} (order : [⟨kind, ⟨name⟩, content⟩] = done ++ left)
    (wrote : Wrote disk after base [⟨kind, ⟨name⟩, content⟩] done) (place : Location) :
    after.tree.node? place = disk.tree.node? place ∨
      (disk.tree.node? place = none ∧ after.tree.node? place = some .directory ∧
        disk.OnWay base place) ∨
      (place = disk.placeOf (base.join ⟨name⟩) ∧ disk.tree.node? place ≠ some .directory ∧
        after.tree.node? place = some (.file (.text content))) := by
  by_cases written : ∃ artifact ∈ done, place = disk.targetPlace base artifact
  · obtain ⟨artifact, member, rfl⟩ := written
    have placed := wrote.placed artifact member
    have replaced := wrote.replaced artifact member
    have alone := List.mem_singleton.mp (order ▸ List.mem_append_left left member)
    subst alone
    exact .inr (.inr ⟨rfl, replaced, placed⟩)
  · rcases wrote.others place fun artifact member here => written ⟨artifact, member, here⟩ with
      same | ⟨none, made, new⟩
    · exact .inl same
    · exact .inr (.inl ⟨none, made, newFor_single isName new⟩)

end Disk

namespace Operation

-- The directory and the file that a test of a class of some name goes to.
def testDirectory (workspace : Workspace) : Path :=
  workspace.root.join ⟨workspace.settings.generatedTestsDirectory⟩

def testFile (workspace : Workspace) (className : String) : Path :=
  (testDirectory workspace).join ⟨Text.trim className ++ "Test.java"⟩

theorem fileName_test (className : String) :
    ArtifactKind.test.fileName className = className ++ "Test.java" := String.append_assoc ..

section Generated
variable {workspace : Workspace} {disk : Disk} {request : TestRequest}

theorem generateTests_refused (disk : Disk) {problem : Problem}
    (refused : ClassModel.extract workspace.settings.fallbackPackage
      ⟨request.source, Text.trim request.className⟩ = .error problem) :
    generateTests workspace disk request =
      (Status.failure "generate tests" problem.message, disk) := by
  simp [generateTests, generateTestsBy, addTest, refused, report]

variable {model : ClassModel} (extracted : ClassModel.extract workspace.settings.fallbackPackage
  ⟨request.source, Text.trim request.className⟩ = .ok model)
include extracted

-- The name of a class that is found is a step of a path, and so is the name of the file of its test.
theorem testName_isName : Path.IsName (Text.trim request.className) ∧
    Path.IsName (Text.trim request.className ++ "Test.java") := by
  obtain ⟨word, named, _⟩ := ClassModel.extract_name extracted
  simp only at named
  exact ⟨named ▸ word.isName, named ▸ word.isName_append (by decide)⟩

-- What is left of a run once the source is understood: one file is written.
theorem generateTests_found (disk : Disk) : generateTests workspace disk request =
    match disk.writeArtifacts (testDirectory workspace)
        [⟨.test, ⟨Text.trim request.className ++ "Test.java"⟩,
          sourceText (model.testLines model.role)⟩] (.ofSettings workspace.settings) with
    | (.error problem, after) => (Status.failure "generate tests" problem.message, after)
    | (.ok _, after) => (Status.testsGenerated (testFile workspace request.className)
        (sourceText (model.testLines model.role)), after) := by
  obtain ⟨_, _, same⟩ := ClassModel.extract_name extracted
  simp only at same
  have relative := (testName_isName extracted).2.relative
  have artifact : model.testArtifact model.role workspace.settings =
      ⟨.test, Path.join ⟨workspace.settings.generatedTestsDirectory⟩
        ⟨Text.trim request.className ++ "Test.java"⟩, sourceText (model.testLines model.role)⟩ := by
    rw [ClassModel.testArtifact, same, fileName_test]
  have file : workspace.root.join (Path.join ⟨workspace.settings.generatedTestsDirectory⟩
      ⟨Text.trim request.className ++ "Test.java"⟩) = testFile workspace request.className :=
    Path.join_join _ _ relative
  simp only [generateTests, generateTestsBy, addTest, extracted, artifact]
  rw [Disk.writeArtifacts_divided _ _ relative, ← testDirectory]
  cases disk.writeArtifacts (testDirectory workspace) _ _ with
  | mk result after =>
    cases result with
    | error problem => rfl
    | ok paths => simp only [report, testStatus, file]

-- Whether the file could be written or not, nothing else has changed.
theorem generateTests_written (linkFree : disk.tree.LinkFree)
    (unstaged : disk.tree.node?
      (disk.placeOf (Disk.stagingPath (testFile workspace request.className))) = none) :
    let status := (generateTests workspace disk request).1
    let after := (generateTests workspace disk request).2.tree
    let target := testFile workspace request.className
    let text := sourceText (model.testLines model.role)
    (∀ place, after.node? place = disk.tree.node? place ∨
      (disk.tree.node? place = none ∧ after.node? place = some .directory ∧
        disk.OnWay (testDirectory workspace) place) ∨
      (place = disk.placeOf target ∧ disk.tree.node? place ≠ some .directory ∧
        after.node? place = some (.file (.text text)))) ∧
    (Status.isFailure status = false → status = Status.testsGenerated target text ∧
      after.node? (disk.placeOf target) = some (.file (.text text))) := by
  intro status after
  simp only
  have isName := (testName_isName extracted).2
  have visible : Text.endsWith ".scaffold-tmp" (Text.trim request.className ++ "Test.java") = false :=
    fileName_test (Text.trim request.className) ▸ FeatureModule.endsWith_java _
  have outcome := Disk.writeArtifacts_outcome
    (Disk.ready_single linkFree isName visible unstaged .test (sourceText (model.testLines model.role)))
    (.ofSettings workspace.settings)
  have run := generateTests_found extracted disk
  cases written : disk.writeArtifacts (testDirectory workspace)
      [⟨.test, ⟨Text.trim request.className ++ "Test.java"⟩,
        sourceText (model.testLines model.role)⟩] (.ofSettings workspace.settings) with
  | mk result reached =>
    rw [written] at run outcome
    cases result with
    | error problem =>
      obtain ⟨done, left, order, wrote⟩ := outcome
      simp only [status, after, run, isFailure_failure]
      exact ⟨wrote.single isName order, Bool.noConfusion⟩
    | ok paths =>
      obtain ⟨_, wrote⟩ := outcome
      simp only [status, after, run]
      refine ⟨wrote.single isName (List.append_nil _).symm, fun _ => ⟨trivial, ?_⟩⟩
      have placed := wrote.placed _ (List.mem_singleton.mpr rfl)
      rwa [Disk.targetPlace] at placed

end Generated

-- A source that is refused changes nothing. A source that is not gives a class whose name is one step
-- of a path; then only the file of the test can be new or changed, and only directories that the path
-- of its directory comes by. On success the file holds what the status shows.
theorem generateTests_confined {disk : Disk} (linkFree : disk.tree.LinkFree) (workspace : Workspace)
    (request : TestRequest)
    (unstaged : disk.tree.node?
      (disk.placeOf (Disk.stagingPath (testFile workspace request.className))) = none) :
    let status := (generateTests workspace disk request).1
    let after := (generateTests workspace disk request).2.tree
    match ClassModel.extract workspace.settings.fallbackPackage
        ⟨request.source, Text.trim request.className⟩ with
    | .error problem => status = Status.failure "generate tests" problem.message ∧ after = disk.tree
    | .ok model =>
      let name := Text.trim request.className
      let target := testFile workspace request.className
      let text := sourceText (model.testLines model.role)
      (name ≠ "" ∧ name ≠ ".." ∧ '/' ∉ name.toList) ∧
      (∀ place, after.node? place = disk.tree.node? place ∨
        (disk.tree.node? place = none ∧ after.node? place = some .directory ∧
          disk.OnWay (testDirectory workspace) place) ∨
        (place = disk.placeOf target ∧ disk.tree.node? place ≠ some .directory ∧
          after.node? place = some (.file (.text text)))) ∧
      (Status.isFailure status = false →
        status = "Generated test at " ++ target.text ++ "\n\n" ++ text ∧
          after.node? (disk.placeOf target) = some (.file (.text text))) := by
  intro status after
  cases extracted : ClassModel.extract workspace.settings.fallbackPackage
      ⟨request.source, Text.trim request.className⟩ with
  | error problem =>
    have run := generateTests_refused disk extracted
    exact ⟨congrArg Prod.fst run, congrArg (fun run => run.2.tree) run⟩
  | ok model =>
    obtain ⟨isName, _⟩ := testName_isName extracted
    exact ⟨⟨isName.present, isName.down, isName.whole⟩, generateTests_written extracted linkFree unstaged⟩

theorem testsGenerated_chars (path : Path) (text : String) :
    (Status.testsGenerated path text).toList =
      'G' :: ("enerated test at ".toList ++ (path.text.toList ++ ("\n\n".toList ++ text.toList))) := by
  have start : "Generated test at ".toList = 'G' :: "enerated test at ".toList := by decide
  unfold Status.testsGenerated
  rw [String.toList_append, String.toList_append, String.toList_append, List.append_assoc,
    List.append_assoc, start, List.cons_append]

-- The first characters differ.
theorem isFailure_testsGenerated (path : Path) (text : String) :
    Status.isFailure (Status.testsGenerated path text) = false := by
  have mark : Status.failureMark.toList = 'F' :: "ailed to".toList := by decide
  rw [Status.isFailure, Text.startsWith, testsGenerated_chars, mark]
  rfl

-- A class with nothing in it, to be tested in an empty directory.
def bareClass : TestRequest := ⟨" C ", "class C \x7b\x7d"⟩

def bareModel : ClassModel := ⟨"com.generated", "C", [], [], []⟩

def lab : Workspace := ⟨⟨""⟩, {}⟩

def vacant : Disk := ⟨Tree.empty, []⟩

theorem bareClass_generated : Status.isFailure (generateTests lab vacant bareClass).1 = false := by
  have done : (addTest (ClassModel.extract lab.settings.fallbackPackage) lab vacant
      bareClass).1.toBool = true := by decide +kernel
  unfold generateTests generateTestsBy
  cases run : addTest (ClassModel.extract lab.settings.fallbackPackage) lab vacant bareClass with
  | mk result after =>
    cases result with
    | error problem => simp [run, Except.toBool] at done
    | ok artifact => exact isFailure_testsGenerated _ _

theorem generateTests_confined_bare :
    vacant.tree.node? (vacant.placeOf (Disk.stagingPath (testFile lab bareClass.className))) = none ∧
    Status.isFailure (generateTests lab vacant bareClass).1 = false ∧
    (generateTests lab vacant bareClass).2.tree.node? ["generated-tests", "CTest.java"] =
      some (.file (.text (sourceText (bareModel.testLines .plain)))) := by
  have unstaged : vacant.tree.node?
      (vacant.placeOf (Disk.stagingPath (testFile lab bareClass.className))) = none := by decide +kernel
  have found : (ClassModel.extract lab.settings.fallbackPackage
      ⟨bareClass.source, Text.trim bareClass.className⟩).toOption = some bareModel := by decide +kernel
  have place : vacant.placeOf (testFile lab bareClass.className) =
      ["generated-tests", "CTest.java"] := by decide +kernel
  have linkFree : vacant.tree.LinkFree := Tree.linkFree_empty
  refine ⟨unstaged, bareClass_generated, ?_⟩
  -- The request is a variable from here on, so that nothing is computed where it is only named.
  have success := bareClass_generated
  generalize bareClass = request at unstaged found place success ⊢
  have outcome := generateTests_confined linkFree lab request unstaged
  cases extracted : ClassModel.extract lab.settings.fallbackPackage
      ⟨request.source, Text.trim request.className⟩ with
  | error problem => simp [extracted, Except.toOption] at found
  | ok model =>
    have same : model = bareModel := by simpa [extracted, Except.toOption] using found
    rw [extracted, same] at outcome
    obtain ⟨_, _, reported⟩ := outcome
    exact place ▸ (reported success).2

end Operation
end SpringSkeleton
