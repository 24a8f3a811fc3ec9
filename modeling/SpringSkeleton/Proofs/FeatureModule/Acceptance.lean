import SpringSkeleton.ClassModel.TestSource
import SpringSkeleton.Proofs.FeatureModule.Course
import SpringSkeleton.Proofs.FeatureModule.Reading
import SpringSkeleton.Proofs.FeatureModule.Refusal

namespace SpringSkeleton

theorem Text.joined_concat {separator : Char} {parts : List String} (some_ : parts ≠ []) (last : String) :
    (joined separator (parts ++ [last])).toList =
      (joined separator parts).toList ++ separator :: last.toList := by
  induction parts with
  | nil => exact absurd rfl some_
  | cons part more ih => cases more with
    | nil => simp [joined, glue]
    | cons next others =>
      have longer := ih (List.cons_ne_nil _ _)
      rw [List.cons_append] at longer ⊢
      rw [List.cons_append, joined_cons, joined_cons, longer, List.append_assoc, List.cons_append]

namespace FeatureModule
open Java Sources Text
variable {spec : FeatureModule} {fallback : String}

theorem joined_wayNames (sound : spec.Sound) : joined '.' spec.wayNames = spec.featurePackage := by
  have single : joined '.' [spec.feature] = spec.feature := by simp [joined, glue]
  have present := feature_ne_empty sound
  unfold wayNames featurePackage Name.joinPackage
  by_cases none : spec.basePackage = ""
  · simp [none, present, Name.packageNames_empty, single]
  · have two : [spec.basePackage, spec.feature].filter (· ≠ "") = [spec.basePackage, spec.feature] := by
      simp [none, present]
    rw [two, ← String.toList_inj, joined_concat (Name.packageNames_ne_nil sound.package none),
      Name.joined_packageNames sound.package, joined_cons, single]

-- What is asked about a source: the class that it is there for.
def query (spec : FeatureModule) (kind : ArtifactKind) : ClassQuery :=
  ⟨(spec.artifact kind).content, kind.typeName spec.entity⟩

-- The path that a line maps to a class.
def mappedPath? (line : String) : Option String :=
  (line.toList.dropPrefix? "@RequestMapping(\"".toList).bind fun rest =>
    (rest.dropSuffix? "\")".toList).map String.ofList

def mappedPaths (text : String) : List String := (sourceLines text).filterMap mappedPath?

-- The service is found, with a field for each thing that a test stands in for.
def ServiceFound (spec : FeatureModule) (fallback : String) : Prop :=
  ∃ model, ClassModel.extract fallback (spec.query .service) = .ok model ∧
    model.package = spec.featurePackage ∧ model.role = .plain ∧
    model.privateFields.map (·.name) = ["log", "repository", "mapper"]

-- The controller is found, and a test of it asks for the path that the controller is mapped to.
def ControllerFound (spec : FeatureModule) (fallback : String) : Prop :=
  ∃ model, ClassModel.extract fallback (spec.query .controller) = .ok model ∧
    model.package = spec.featurePackage ∧ model.role = .httpFacing ∧
    mappedPaths (spec.query .controller).source = [ClassModel.endpoint (spec.query .controller).className]

theorem endpoint_controller (spec : FeatureModule) :
    ClassModel.endpoint (ArtifactKind.controller.typeName spec.entity) = "/api/" ++ spec.feature ++ "s" := by
  have served : ClassModel.servedName (ArtifactKind.controller.typeName spec.entity) = spec.entity := by
    have ends : endsWith "Controller" (ArtifactKind.controller.typeName spec.entity) = true := by
      rw [endsWith_iff, ArtifactKind.typeName, String.toList_append]
      exact List.suffix_append _ _
    rw [ClassModel.servedName, withoutEnding?, if_pos ends, Option.getD_some, ArtifactKind.typeName,
      ArtifactKind.suffix, String.toList_append, List.length_append, Nat.add_sub_cancel, List.take_left,
      String.ofList_toList]
  rw [ClassModel.endpoint, served]
  rfl

theorem mappedPaths_controller (plain : spec.Plain) :
    mappedPaths (spec.artifact .controller).content = ["/api/" ++ spec.feature ++ "s"] := by
  have mapped : (("@RequestMapping(\"/api/".toList ++ (spec.feature.toList ++ "s\")".toList)).dropPrefix?
      "@RequestMapping(\"".toList).bind (fun rest => (rest.dropSuffix? "\")".toList).map String.ofList) =
        some ("/api/" ++ spec.feature ++ "s") := by
    have parts : "@RequestMapping(\"/api/".toList ++ (spec.feature.toList ++ "s\")".toList) =
        "@RequestMapping(\"".toList ++ (("/api/" ++ spec.feature ++ "s").toList ++ "\")".toList) := by
      simp
    rw [parts, List.dropPrefix?_append_of_beq _ BEq.rfl]
    simp only [Option.bind_some, dropSuffix?_append, Option.map_some, String.ofList_toList]
  rw [mappedPaths, sourceLines_artifact plain, lines, controllerLines]
  simp (disch := decide) only [packageLine, mapped, mappedPath?, String.toList_append, List.append_assoc,
    dropPrefix?_eq_none, dropPrefix?_append_eq_none, Option.bind_none, List.filterMap_cons,
    List.filterMap_nil]

-- The names that a module is built with.
def givenNames (spec : FeatureModule) : List String := spec.entity :: Name.packageNames spec.basePackage

theorem likeName_wayNames (sound : spec.Sound) : ∀ name ∈ spec.wayNames, LikeName name := by
  intro name member
  rcases List.mem_append.mp member with segment | feature
  · exact likeName_of_isIdentifier (Name.isIdentifier_of_checkPackage sound.package segment)
  · rw [List.mem_singleton.mp feature]
    exact (likeName_of_isIdentifier sound.entity).lowercase

-- Where the names are words, the names of the sources are those of the module.
theorem exists_names (sound : spec.Sound) (words : ∀ name ∈ spec.givenNames, isWord name = true) :
    ∃ names : Names, names.Fit spec := by
  obtain ⟨entity, package⟩ := List.forall_mem_cons.mp words
  have feature : isWord spec.feature = true := isWord_lowercase entity
  obtain ⟨all, texts⟩ := exists_words
    (List.forall_mem_append.mpr ⟨package, List.forall_mem_singleton.mpr feature⟩)
  cases all with
  | nil => exact absurd texts.symm spec.wayNames_ne_nil
  | cons first others =>
    refine ⟨⟨⟨spec.entity, entity⟩, ⟨spec.feature, feature⟩, first, others⟩, rfl, rfl, ?_⟩
    rw [← joined_wayNames sound, wayNames, ← texts]
    rfl

theorem parse_refused {text : String}
    (refused : ∃ place, Grammar.items (tokensOf (lexemes text)) = .error place) :
    ∃ line, parse text = .error line := by
  obtain ⟨place, failed⟩ := refused
  refine ⟨failureLine (lexemes text) ((lexemes text).length - place), ?_⟩
  simp only [parse, failed]

-- A name that is no word is met in the package, or else in the head of the class.
theorem service_refused (sound : spec.Sound) (other : ∃ name ∈ spec.givenNames, isWord name = false) :
    ∃ line, parse (spec.artifact .service).content = .error line := by
  by_cases words : ∀ name ∈ spec.wayNames, isWord name = true
  · have entity : isWord spec.entity = false := by
      obtain ⟨name, member, unword⟩ := other
      rcases List.mem_cons.mp member with rfl | segment
      · exact unword
      · rw [words name (List.mem_append_left _ segment)] at unword
        cases unword
    obtain ⟨all, texts⟩ := exists_words words
    cases all with
    | nil => exact absurd texts.symm spec.wayNames_ne_nil
    | cons first others =>
      have named : joined '.' (first.text :: others.map (·.text)) = spec.featurePackage := by
        rw [← joined_wayNames sound, ← texts]
        rfl
      exact parse_refused (class_refused named (likeName_of_isIdentifier sound.entity) entity)
  · have unword : ∃ name ∈ spec.wayNames, isWord name = false := by simpa using words
    exact parse_refused (package_refused (joined_wayNames sound) (likeName_wayNames sound) unword _)

theorem service_unfound (sound : spec.Sound) (other : ∃ name ∈ spec.givenNames, isWord name = false)
    (fallback : String) :
    ∃ line, ClassModel.extract fallback (spec.query .service) = .error (.badSource line) := by
  obtain ⟨line, refused⟩ := service_refused sound other
  exact ⟨line, by simp only [ClassModel.extract, query, refused]⟩

theorem build_found {entity package : String} {fields : Keyed String} {methods : List String} {root : Path}
    (built : build entity fields methods package root = .ok spec) (fallback : String) :
    (spec.ServiceFound fallback ∧ spec.ControllerFound fallback) ↔
      ∀ name ∈ spec.givenNames, isWord name = true := by
  have sound := (build_sound built).1
  constructor
  · rintro ⟨⟨model, found, _⟩, _⟩
    by_contra some_
    have other : ∃ name ∈ spec.givenNames, isWord name = false := by simpa using some_
    obtain ⟨line, refused⟩ := service_unfound sound other fallback
    rw [refused] at found
    cases found
  · intro words
    obtain ⟨names, fit⟩ := exists_names sound words
    obtain ⟨model, found, package, role⟩ := controller_extracted fit fallback
    have mapped : mappedPaths (spec.query .controller).source =
        [ClassModel.endpoint (spec.query .controller).className] := by
      rw [query, mappedPaths_controller sound.plain, endpoint_controller]
    exact ⟨service_extracted fit fallback, model, found, package, role, mapped⟩

def coffee : FeatureModule := ⟨"Café", [], [], "com.acme", ⟨""⟩⟩

theorem build_found_beyond_ascii :
    build "Café" [] [] "com.acme" ⟨""⟩ = .ok coffee ∧ coffee.ServiceFound "" ∧ coffee.ControllerFound "" :=
  have built : build "Café" [] [] "com.acme" ⟨""⟩ = .ok coffee := by decide +kernel
  ⟨built, (build_found built "").mpr (by decide +kernel)⟩

def emission : FeatureModule := ⟨"CO₂", [], [], "com.acme", ⟨""⟩⟩

-- A subscript is a numeral to the check of a name, and no part of a word of the grammar.
theorem emission_unfound :
    build "CO₂" [] [] "com.acme" ⟨""⟩ = .ok emission ∧
      ∃ line, ClassModel.extract "" (emission.query .service) = .error (.badSource line) :=
  have built : build "CO₂" [] [] "com.acme" ⟨""⟩ = .ok emission := by decide +kernel
  ⟨built, service_unfound (build_sound built).1 ⟨"CO₂", .head _, by decide +kernel⟩ ""⟩

end FeatureModule
end SpringSkeleton
