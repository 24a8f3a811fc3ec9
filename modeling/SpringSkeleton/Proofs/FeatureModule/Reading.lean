import SpringSkeleton.Proofs.FeatureModule.Confinement
import SpringSkeleton.Proofs.FeatureModule.Delimiters
import SpringSkeleton.Proofs.Text.Lines

namespace SpringSkeleton

namespace Text

-- What stands before the last space, and the word after it.
def splitLast (cs : List Char) : List Char × List Char :=
  (glue ' ' (cut ' ' cs).dropLast, (cut ' ' cs).getLastD [])

theorem splitLast_append {front last : List Char} (word : ' ' ∉ last) :
    splitLast (front ++ ' ' :: last) = (front, last) := by
  have parts : cut ' ' (front ++ ' ' :: last) = cut ' ' front ++ [last] := by
    rw [cut_append, cut_of_not_mem word]
  rw [splitLast, parts, List.dropLast_concat, glue_cut]
  simp

end Text

namespace Name

theorem Undelimited.unbroken {text : String} (plain : Undelimited text) : Text.Unbroken text := by
  intro feed
  have delimiter : isDelimiter '\n' = true := by decide
  rw [plain '\n' feed] at delimiter
  cases delimiter

end Name

-- What an artifact is once it is written: where it goes, and what it holds.
def Artifact.written (artifact : Artifact) : List Path.Component × String :=
  (artifact.path.components, artifact.content)

namespace FeatureModule
open Name Text

variable {spec other : FeatureModule}

theorem fieldLine_unbroken {field : String × String} (name : Undelimited field.1)
    (type : Undelimited field.2) : Unbroken (fieldLine field) := by
  simp only [fieldLine, unbroken_append, name.unbroken, type.unbroken, and_true]
  and_intros <;> exact unbroken_ofList (by decide)

theorem accessorLines_unbroken {field : String × String} (name : Undelimited field.1)
    (type : Undelimited field.2) (accessor : Undelimited (accessorName field.1)) :
    ∀ line ∈ accessorLines field, Unbroken line := by
  simp only [accessorLines, List.forall_mem_cons, List.not_mem_nil, false_implies, implies_true,
    unbroken_append, name.unbroken, type.unbroken, accessor.unbroken, and_true]
  and_intros <;> exact unbroken_ofList (by decide)

theorem memberLines_unbroken (plain : spec.Plain) : ∀ line ∈ spec.memberLines, Unbroken line := by
  simp only [memberLines, identityAccessorLines, List.forall_mem_append, List.forall_mem_cons,
    List.forall_mem_map, List.forall_mem_flatMap, List.not_mem_nil, false_implies, implies_true, and_true]
  refine ⟨⟨⟨unbroken_ofList (by decide), fun field member => ?_⟩, ?_⟩, fun field member => ?_⟩
  · obtain ⟨name, type, _⟩ := plain.fields field member
    exact fieldLine_unbroken name type
  · and_intros <;> exact unbroken_ofList (by decide)
  · obtain ⟨name, type, accessor⟩ := plain.fields field member
    exact accessorLines_unbroken name type accessor

theorem methodLines_unbroken (plain : spec.Plain) :
    ∀ line ∈ spec.methods.map (fun method => "    " ++ method ++ ";"), Unbroken line := by
  refine List.forall_mem_map.mpr fun method member => ?_
  simp only [unbroken_append, (plain.methods method member).unbroken, and_true]
  and_intros <;> exact unbroken_ofList (by decide)

-- A line of the pattern stays one line, whatever the module puts into it.
theorem lines_unbroken (plain : spec.Plain) (kind : ArtifactKind) :
    ∀ line ∈ spec.lines kind, Unbroken line := by
  have entity := plain.entity.unbroken
  have package := plain.package.unbroken
  have table := plain.table.unbroken
  have feature := plain.feature.unbroken
  cases kind with
  | entity =>
    simp only [lines, entityLines, packageLine, List.forall_mem_append, List.forall_mem_cons,
      List.not_mem_nil, false_implies, implies_true, unbroken_append, entity, package, table, and_true]
    refine ⟨⟨?_, memberLines_unbroken plain⟩, ?_⟩
    all_goals and_intros <;> exact unbroken_ofList (by decide)
  | dto =>
    simp only [lines, dtoLines, packageLine, List.forall_mem_append, List.forall_mem_cons,
      List.not_mem_nil, false_implies, implies_true, unbroken_append, entity, package, and_true]
    refine ⟨⟨?_, memberLines_unbroken plain⟩, ?_⟩
    all_goals and_intros <;> exact unbroken_ofList (by decide)
  | mapper =>
    simp only [lines, mapperLines, packageLine, List.forall_mem_cons, List.not_mem_nil, false_implies,
      implies_true, unbroken_append, entity, package, and_true]
    and_intros <;> exact unbroken_ofList (by decide)
  | repository =>
    simp only [lines, repositoryLines, packageLine, List.forall_mem_append, List.forall_mem_cons,
      List.not_mem_nil, false_implies, implies_true, unbroken_append, entity, package, and_true]
    refine ⟨⟨?_, methodLines_unbroken plain⟩, ?_⟩
    all_goals and_intros <;> exact unbroken_ofList (by decide)
  | service =>
    simp only [lines, serviceLines, packageLine, List.forall_mem_cons, List.not_mem_nil, false_implies,
      implies_true, unbroken_append, entity, package, and_true]
    and_intros <;> exact unbroken_ofList (by decide)
  | controller =>
    simp only [lines, controllerLines, packageLine, List.forall_mem_cons, List.not_mem_nil,
      false_implies, implies_true, unbroken_append, entity, package, feature, and_true]
    and_intros <;> exact unbroken_ofList (by decide)
  | test => exact List.forall_mem_nil _

theorem sourceLines_artifact (plain : spec.Plain) (kind : ArtifactKind) :
    sourceLines (spec.artifact kind).content = spec.lines kind :=
  sourceLines_sourceText (lines_unbroken plain kind)

-- The field that a line declares, with its type.
def declaredField? (line : String) : Option (String × String) :=
  (line.toList.dropPrefix? "    private ".toList).bind fun rest =>
    (rest.dropSuffix? [';']).map fun declaration =>
      (String.ofList (splitLast declaration).2, String.ofList (splitLast declaration).1)

def declaredFields (text : String) : List (String × String) := (sourceLines text).filterMap declaredField?

-- The method that a line of an interface declares, as it is written.
def signature? (line : String) : Option String :=
  (line.toList.dropPrefix? "    ".toList).bind fun rest => (rest.dropSuffix? [';']).map String.ofList

def signatures (text : String) : List String := (sourceLines text).filterMap signature?

theorem declaredField?_fieldLine {field : String × String} (word : ' ' ∉ field.1.toList) :
    declaredField? (fieldLine field) = some field := by
  have line : (fieldLine field).toList =
      "    private ".toList ++ ((field.2.toList ++ ' ' :: field.1.toList) ++ [';']) := by
    simp [fieldLine]
  rw [declaredField?, line, List.dropPrefix?_append_of_beq _ BEq.rfl]
  simp only [Option.bind_some, dropSuffix?_append, Option.map_some, splitLast_append word,
    String.ofList_toList]

theorem declaredField?_accessorLines (field : String × String) :
    (accessorLines field).filterMap declaredField? = [] := by
  simp (disch := decide) only [accessorLines, declaredField?, String.toList_append, List.append_assoc,
    dropPrefix?_eq_none, dropPrefix?_append_eq_none, Option.bind_none, List.filterMap_cons,
    List.filterMap_nil]

theorem declaredFields_memberLines (words : ∀ field ∈ spec.fields, ' ' ∉ field.1.toList) :
    spec.memberLines.filterMap declaredField? = ("id", "Long") :: spec.fields := by
  have identity : declaredField? "    private Long id;" = some ("id", "Long") := by decide
  have constant : identityAccessorLines.filterMap declaredField? = [] := by decide
  have fields : (spec.fields.map fieldLine).filterMap declaredField? = spec.fields := by
    rw [List.filterMap_map, List.filterMap_congr (g := some), List.filterMap_some]
    exact fun field member => declaredField?_fieldLine (words field member)
  have accessors : (spec.fields.flatMap accessorLines).filterMap declaredField? = [] := by
    rw [List.filterMap_flatMap]
    simp [declaredField?_accessorLines]
  simp only [memberLines, List.filterMap_append, List.filterMap_cons, identity, constant, fields,
    accessors, List.append_nil]

-- What a class of the module declares: the identity, and the fields of the module in their order.
theorem declaredFields_artifact (plain : spec.Plain)
    (words : ∀ field ∈ spec.fields, ' ' ∉ field.1.toList) {kind : ArtifactKind}
    (data : kind = .entity ∨ kind = .dto) :
    declaredFields (spec.artifact kind).content = ("id", "Long") :: spec.fields := by
  rw [declaredFields, sourceLines_artifact plain]
  rcases data with rfl | rfl
  · rw [lines, entityLines, List.filterMap_append, List.filterMap_append,
      declaredFields_memberLines words]
    simp (disch := decide) only [packageLine, declaredField?, String.toList_append, List.append_assoc,
      dropPrefix?_eq_none, dropPrefix?_append_eq_none, Option.bind_none, List.filterMap_cons,
      List.filterMap_nil, List.nil_append, List.append_nil]
  · rw [lines, dtoLines, List.filterMap_append, List.filterMap_append,
      declaredFields_memberLines words]
    simp (disch := decide) only [packageLine, declaredField?, String.toList_append, List.append_assoc,
      dropPrefix?_eq_none, dropPrefix?_append_eq_none, Option.bind_none, List.filterMap_cons,
      List.filterMap_nil, List.nil_append, List.append_nil]

theorem signatures_artifact (plain : spec.Plain) :
    signatures (spec.artifact .repository).content = spec.methods := by
  have each : ∀ method, signature? ("    " ++ method ++ ";") = some method := by
    intro method
    have line : ("    " ++ method ++ ";").toList = "    ".toList ++ (method.toList ++ [';']) := by simp
    rw [signature?, line, List.dropPrefix?_append_of_beq _ BEq.rfl]
    simp only [Option.bind_some, dropSuffix?_append, Option.map_some, String.ofList_toList]
  have methods : (spec.methods.map fun method => "    " ++ method ++ ";").filterMap signature? =
      spec.methods := by
    rw [List.filterMap_map, List.filterMap_congr (g := some), List.filterMap_some]
    exact fun method _ => each method
  rw [signatures, sourceLines_artifact plain, lines, repositoryLines, List.filterMap_append,
    List.filterMap_append, methods]
  simp (disch := decide) only [packageLine, signature?, String.toList_append, List.append_assoc,
    dropPrefix?_eq_none, dropPrefix?_append_eq_none, Option.bind_none, List.filterMap_cons,
    List.filterMap_nil, List.nil_append, List.append_nil]

theorem words_of_built {entity package : String} {given : Keyed String} {methods : List String}
    {root : Path} (built : build entity given methods package root = .ok spec) :
    ∀ field ∈ spec.fields, ' ' ∉ field.1.toList := fun field member =>
  not_mem_of_isIdentifier ((build_fields built).2 field member) (by decide)

theorem feature_ne_empty (sound : spec.Sound) : spec.feature ≠ "" := by
  have idle := (isName_feature sound).1
  rintro empty
  rw [empty] at idle
  cases idle

-- The package tells the base package, once the module's own part of it is known.
theorem joinPackage_injective {child base otherBase : String} (some : child ≠ "")
    (same : joinPackage base child = joinPackage otherBase child) : base = otherBase := by
  have chars : ∀ base, (joinPackage base child).toList =
      if base = "" then child.toList else base.toList ++ '.' :: child.toList := by
    intro base
    by_cases none : base = "" <;> simp [joinPackage, none, some, joined, glue]
  have equal := congrArg String.toList same
  rw [chars, chars] at equal
  have longer : ∀ front : List Char, child.toList ≠ front ++ '.' :: child.toList := by
    intro front whole
    have lengths := congrArg List.length whole
    simp at lengths
    omega
  split at equal <;> split at equal
  · simp_all
  · exact absurd equal (longer _)
  · exact absurd equal.symm (longer _)
  · exact String.toList_inj.mp (List.append_cancel_right equal)

theorem entity_of_written (sound : spec.Sound) (otherSound : other.Sound) {kind : ArtifactKind}
    (same : (spec.artifact kind).written = (other.artifact kind).written) :
    spec.entity = other.entity := by
  have components : (spec.artifact kind).path.components = (other.artifact kind).path.components :=
    congrArg Prod.fst same
  rw [artifact_components sound, artifact_components otherSound] at components
  obtain ⟨_, names⟩ : spec.feature = other.feature ∧
      kind.fileName spec.entity = kind.fileName other.entity := by simpa using components
  have chars := congrArg String.toList names
  simp only [ArtifactKind.fileName, ArtifactKind.typeName, String.toList_append, List.append_assoc]
    at chars
  exact String.toList_inj.mp (List.append_cancel_right chars)

theorem basePackage_of_content (sound : spec.Sound) (otherSound : other.Sound)
    (entity : spec.entity = other.entity)
    (same : (spec.artifact .dto).content = (other.artifact .dto).content) :
    spec.basePackage = other.basePackage := by
  have first : ∀ {spec : FeatureModule}, spec.Sound →
      (sourceLines (spec.artifact .dto).content).head? = some spec.packageLine := by
    intro spec sound
    rw [sourceLines_artifact sound.plain]
    rfl
  have lines : spec.packageLine = other.packageLine := by
    rw [← Option.some_inj, ← first sound, ← first otherSound, same]
  have packages : spec.featurePackage = other.featurePackage := by
    have chars := congrArg String.toList lines
    simp only [packageLine, String.toList_append] at chars
    exact String.toList_inj.mp (List.append_cancel_left (List.append_cancel_right chars))
  have feature : spec.feature = other.feature := congrArg Text.lowercase entity
  rw [featurePackage, featurePackage, ← feature] at packages
  exact joinPackage_injective (feature_ne_empty sound) packages

-- The files of a module tell everything about it but the project that they were made for.
theorem build_lossless {entity otherEntity package otherPackage : String}
    {given otherGiven : Keyed String} {methods otherMethods : List String} {root otherRoot : Path}
    (built : build entity given methods package root = .ok spec)
    (otherBuilt : build otherEntity otherGiven otherMethods otherPackage otherRoot = .ok other) :
    spec.artifacts.map Artifact.written = other.artifacts.map Artifact.written ↔
      spec.entity = other.entity ∧ spec.fields = other.fields ∧ spec.methods = other.methods ∧
        spec.basePackage = other.basePackage := by
  have sound := (build_sound built).1
  have otherSound := (build_sound otherBuilt).1
  constructor
  · intro same
    have each : ∀ kind ∈ ArtifactKind.ofModule,
        (spec.artifact kind).written = (other.artifact kind).written := by
      simpa only [artifacts, List.map_map, List.map_inj_left, Function.comp_apply] using same
    have entities := entity_of_written sound otherSound (each .dto (by decide))
    have dto := congrArg Prod.snd (each .dto (by decide))
    have repository := congrArg Prod.snd (each .repository (by decide))
    have fields := congrArg declaredFields dto
    have signed := congrArg signatures repository
    simp only [Artifact.written, declaredFields_artifact sound.plain (words_of_built built) (.inr rfl),
      declaredFields_artifact otherSound.plain (words_of_built otherBuilt) (.inr rfl)] at fields
    simp only [Artifact.written, signatures_artifact sound.plain, signatures_artifact otherSound.plain]
      at signed
    exact ⟨entities, List.tail_eq_of_cons_eq fields, signed,
      basePackage_of_content sound otherSound entities dto⟩
  · rintro ⟨entities, fields, signed, base⟩
    cases spec
    cases other
    cases entities
    cases fields
    cases signed
    cases base
    rfl

theorem build_lossless_moved :
    order.artifacts.map Artifact.written = ({ order with projectRoot := ⟨"shop"⟩ }).artifacts.map
      Artifact.written := by
  have moved : build "Order" [("total", "int ")] ["Order first()"] "com" ⟨"shop"⟩ =
      .ok { order with projectRoot := ⟨"shop"⟩ } := by decide +kernel
  exact (build_lossless order_built moved).mpr ⟨rfl, rfl, rfl, rfl⟩

end FeatureModule
end SpringSkeleton
