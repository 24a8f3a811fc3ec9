import SpringSkeleton.Proofs.FeatureModule.Reading
import SpringSkeleton.Proofs.Keyed

namespace SpringSkeleton

namespace FeatureModule
open Name Text

variable {spec : FeatureModule}

-- The method that a line declares. Without parameters its name is the last word before them; else it
-- is the last word before the first parenthesis.
def declaredMethod? (line : String) : Option String :=
  (line.toList.dropPrefix? "    public ".toList).map fun rest =>
    let head := rest.takeWhile (· ≠ '\x7b')
    match head.dropSuffix? "() ".toList with
    | some front => String.ofList (splitLast front).2
    | none => String.ofList (splitLast (head.takeWhile (· ≠ '('))).2

def declaredMethods (text : String) : List String := (sourceLines text).filterMap declaredMethod?

def accessors (name : String) : List String := ["get" ++ name, "set" ++ name]

theorem takeWhile_before {c : Char} {before : List Char} (absent : c ∉ before) (after : List Char) :
    (before ++ c :: after).takeWhile (· ≠ c) = before := by
  have each : ∀ d ∈ before, decide (d ≠ c) = true := by
    intro d member
    have other : d ≠ c := fun same => absent (same ▸ member)
    simpa using other
  rw [List.takeWhile_append_of_pos each, List.takeWhile_cons]
  simp

theorem declaredMethod?_of_head {line : String} {head body : List Char} (closed : '\x7b' ∉ head)
    (chars : line.toList = "    public ".toList ++ (head ++ '\x7b' :: body)) :
    declaredMethod? line = some (match head.dropSuffix? "() ".toList with
      | some front => String.ofList (splitLast front).2
      | none => String.ofList (splitLast (head.takeWhile (· ≠ '('))).2) := by
  rw [declaredMethod?, chars, List.dropPrefix?_append_of_beq _ BEq.rfl, Option.map_some]
  simp only [takeWhile_before closed body]

variable {front name parameters body : List Char} {line : String}

theorem declaredMethod?_without (closed : '\x7b' ∉ front ++ name) (word : ' ' ∉ name)
    (chars : line.toList =
      "    public ".toList ++ ((front ++ ' ' :: name) ++ "() ".toList ++ '\x7b' :: body)) :
    declaredMethod? line = some (String.ofList name) := by
  have whole : '\x7b' ∉ (front ++ ' ' :: name) ++ "() ".toList := by simpa using closed
  rw [declaredMethod?_of_head whole chars, dropSuffix?_append]
  simp only [splitLast_append word]

-- Parameters end in a name, so the two parentheses are not side by side.
theorem declaredMethod?_with (closed : '\x7b' ∉ front ++ name ++ parameters) (word : ' ' ∉ name)
    (first : '(' ∉ front ++ name) {last : Char} (ends : parameters.getLast? = some last)
    (named : last ≠ '(')
    (chars : line.toList = "    public ".toList ++
      ((front ++ ' ' :: name) ++ '(' :: parameters ++ ") ".toList ++ '\x7b' :: body)) :
    declaredMethod? line = some (String.ofList name) := by
  have whole : '\x7b' ∉ (front ++ ' ' :: name) ++ '(' :: parameters ++ ") ".toList := by
    simpa using closed
  have ending : ((front ++ ' ' :: name) ++ '(' :: parameters ++ ") ".toList).dropSuffix? "() ".toList =
      none := by
    refine Option.eq_none_iff_forall_ne_some.mpr fun rest dropped => ?_
    obtain ⟨suffix, parted, same⟩ := List.dropSuffix?_eq_some_iff.mp dropped
    rw [eq_of_beq same] at parted
    have inner : (front ++ ' ' :: name) ++ '(' :: parameters = rest ++ ['('] := by
      have whole : ((front ++ ' ' :: name) ++ '(' :: parameters) ++ ") ".toList =
          (rest ++ ['(']) ++ ") ".toList := by
        rw [parted, List.append_assoc]
        rfl
      exact List.append_cancel_right whole
    have lasts := congrArg List.getLast? inner
    rw [List.getLast?_append, List.getLast?_append, List.getLast?_cons, ends] at lasts
    simp at lasts
    exact named lasts
  have before : ((front ++ ' ' :: name) ++ '(' :: parameters ++ ") ".toList).takeWhile (· ≠ '(') =
      front ++ ' ' :: name := by
    have absent : '(' ∉ front ++ ' ' :: name := by simpa using first
    rw [List.append_assoc, List.cons_append, takeWhile_before absent]
  rw [declaredMethod?_of_head whole chars, ending]
  simp only [before, splitLast_append word]

section Field

variable {field : String × String} (named : isIdentifier field.1 = true) (type : Undelimited field.2)

include named in
theorem accessor_free {c : Char} (separator : c ∈ separators) :
    c ∉ (accessorName field.1).toList := fun member =>
  not_mem_of_isIdentifier named separator (mem_capitalize_separator separator member)

include type in
theorem type_closed : '\x7b' ∉ field.2.toList := by
  intro member
  have plain := type '\x7b' member
  exact absurd plain (by decide)

include named type

theorem declaredMethod?_getter : declaredMethod? ("    public " ++ field.2 ++ " get"
    ++ accessorName field.1 ++ "() \x7b return " ++ field.1 ++ "; \x7d") =
      some ("get" ++ accessorName field.1) := by
  have chars : ("    public " ++ field.2 ++ " get" ++ accessorName field.1 ++ "() \x7b return "
      ++ field.1 ++ "; \x7d").toList = "    public ".toList ++ ((field.2.toList ++ ' ' ::
        ("get" ++ accessorName field.1).toList) ++ "() ".toList ++ '\x7b' ::
          (" return " ++ field.1 ++ "; \x7d").toList) := by simp
  have closed : '\x7b' ∉ field.2.toList ++ ("get" ++ accessorName field.1).toList := by
    simp [type_closed type, accessor_free named (c := '\x7b') (by decide)]
  have word : ' ' ∉ ("get" ++ accessorName field.1).toList := by
    simp [accessor_free named (c := ' ') (by decide)]
  rw [declaredMethod?_without closed word chars, String.ofList_toList]

theorem declaredMethod?_setter : declaredMethod? ("    public void set" ++ accessorName field.1 ++ "("
    ++ field.2 ++ " " ++ field.1 ++ ") \x7b this." ++ field.1 ++ " = " ++ field.1 ++ "; \x7d") =
      some ("set" ++ accessorName field.1) := by
  have chars : ("    public void set" ++ accessorName field.1 ++ "(" ++ field.2 ++ " " ++ field.1
      ++ ") \x7b this." ++ field.1 ++ " = " ++ field.1 ++ "; \x7d").toList =
      "    public ".toList ++ (("void".toList ++ ' ' :: ("set" ++ accessorName field.1).toList)
        ++ '(' :: (field.2 ++ " " ++ field.1).toList ++ ") ".toList ++ '\x7b' ::
          (" this." ++ field.1 ++ " = " ++ field.1 ++ "; \x7d").toList) := by simp
  have closed : '\x7b' ∉ "void".toList ++ ("set" ++ accessorName field.1).toList ++
      (field.2 ++ " " ++ field.1).toList := by
    simp [type_closed type, accessor_free named (c := '\x7b') (by decide),
      not_mem_of_isIdentifier named (c := '\x7b') (by decide)]
  have word : ' ' ∉ ("set" ++ accessorName field.1).toList := by
    simp [accessor_free named (c := ' ') (by decide)]
  have first : '(' ∉ "void".toList ++ ("set" ++ accessorName field.1).toList := by
    simp [accessor_free named (c := '(') (by decide)]
  have filled : field.1.toList ≠ [] := by
    obtain ⟨first, rest, chars, _⟩ := chars_of_isIdentifier named
    simp [chars]
  have ends : (field.2 ++ " " ++ field.1).toList.getLast? = some (field.1.toList.getLast filled) := by
    rw [String.toList_append, List.getLast?_append, List.getLast?_eq_some_getLast filled]
    rfl
  have last : field.1.toList.getLast filled ≠ '(' := by
    intro same
    have member := List.getLast_mem filled
    rw [same] at member
    exact not_mem_of_isIdentifier named (by decide) member
  rw [declaredMethod?_with closed word first ends last chars, String.ofList_toList]

theorem accessorLines_methods :
    (accessorLines field).filterMap declaredMethod? = accessors (accessorName field.1) := by
  have blank : declaredMethod? "" = none := by decide
  rw [accessorLines, List.filterMap_cons_none blank,
    List.filterMap_cons_some (declaredMethod?_getter named type),
    List.filterMap_cons_some (declaredMethod?_setter named type)]
  rfl

end Field

theorem declaredMethods_memberLines (names : ∀ field ∈ spec.fields, isIdentifier field.1 = true)
    (types : ∀ field ∈ spec.fields, Undelimited field.2) :
    spec.memberLines.filterMap declaredMethod? =
      ("Id" :: spec.fields.map fun field => accessorName field.1).flatMap accessors := by
  have identity : declaredMethod? "    private Long id;" = none := by decide
  have constant : identityAccessorLines.filterMap declaredMethod? = accessors "Id" := by decide
  have fields : (spec.fields.map fieldLine).filterMap declaredMethod? = [] := by
    refine List.filterMap_eq_nil_iff.mpr (List.forall_mem_map.mpr fun field _ => ?_)
    simp (disch := decide) only [fieldLine, declaredMethod?, String.toList_append, List.append_assoc,
      dropPrefix?_append_eq_none, Option.map_none]
  have methods : (spec.fields.flatMap accessorLines).filterMap declaredMethod? =
      (spec.fields.map fun field => accessorName field.1).flatMap accessors := by
    rw [List.filterMap_flatMap, List.flatMap_map]
    refine List.flatMap_congr fun field member => ?_
    exact accessorLines_methods (names field member) (types field member)
  simp only [memberLines, List.filterMap_append, List.filterMap_cons, identity, constant, fields,
    methods, List.nil_append, List.flatMap_cons]

theorem declaredMethods_artifact (plain : spec.Plain)
    (names : ∀ field ∈ spec.fields, isIdentifier field.1 = true) {kind : ArtifactKind}
    (data : kind = .entity ∨ kind = .dto) :
    declaredMethods (spec.artifact kind).content =
      ("Id" :: spec.fields.map fun field => accessorName field.1).flatMap accessors := by
  have members := declaredMethods_memberLines names fun field member => (plain.fields field member).2.1
  rw [declaredMethods, sourceLines_artifact plain]
  rcases data with rfl | rfl
  · rw [lines, entityLines, List.filterMap_append, List.filterMap_append, members]
    simp (disch := decide) only [packageLine, declaredMethod?, String.toList_append, List.append_assoc,
      dropPrefix?_eq_none, dropPrefix?_append_eq_none, Option.map_none, List.filterMap_cons,
      List.filterMap_nil, List.nil_append, List.append_nil]
  · rw [lines, dtoLines, List.filterMap_append, List.filterMap_append, members]
    simp (disch := decide) only [packageLine, declaredMethod?, String.toList_append, List.append_assoc,
      dropPrefix?_eq_none, dropPrefix?_append_eq_none, Option.map_none, List.filterMap_cons,
      List.filterMap_nil, List.nil_append, List.append_nil]

-- The two methods of a name tell the name.
theorem nodup_accessors {names : List String} : (names.flatMap accessors).Nodup ↔ names.Nodup := by
  have two : ∀ first second, "get" ++ first ≠ "set" ++ second := by
    intro first second same
    have chars := congrArg String.toList same
    simp at chars
  have single : ∀ name, (accessors name).Nodup := by
    intro name
    simp [accessors, two]
  have apart : ∀ first second, (accessors first).Disjoint (accessors second) ↔ first ≠ second := by
    intro first second
    simp [accessors, two, (two _ _).symm, eq_comm]
  rw [List.nodup_flatMap]
  constructor
  · rintro ⟨_, disjoint⟩
    exact disjoint.imp fun {first second} => (apart first second).mp
  · intro different
    exact ⟨fun name _ => single name, different.imp fun {first second} => (apart first second).mpr⟩

-- A class that holds data declares the identity and the fields of its module, and two methods for
-- each. It declares nothing twice exactly when no field takes the name of the identity or one of its
-- methods, and no two fields have accessors of one name.
theorem build_members {entity package : String} {given : Keyed String} {methods : List String}
    {root : Path} (built : build entity given methods package root = .ok spec) {kind : ArtifactKind}
    (data : kind = .entity ∨ kind = .dto) :
    let content := (spec.artifact kind).content
    let fields := (declaredFields content).map Prod.fst
    let named := spec.fields.map fun field => accessorName field.1
    (fields = "id" :: Keyed.keys spec.fields ∧ (fields.Nodup ↔ "id" ∉ Keyed.keys spec.fields)) ∧
      (declaredMethods content = ("Id" :: named).flatMap accessors ∧
        ((declaredMethods content).Nodup ↔ "Id" ∉ named ∧ named.Nodup)) := by
  intro content fields named
  have plain := (build_sound built).1.plain
  obtain ⟨ascending, names⟩ := build_fields built
  have declared : fields = "id" :: Keyed.keys spec.fields :=
    congrArg (List.map Prod.fst) (declaredFields_artifact plain (words_of_built built) data)
  have accessible : declaredMethods content = ("Id" :: named).flatMap accessors :=
    declaredMethods_artifact plain names data
  refine ⟨⟨declared, ?_⟩, accessible, ?_⟩
  · rw [declared, List.nodup_cons]
    exact and_iff_left ascending.nodup_keys
  · rw [accessible, nodup_accessors, List.nodup_cons]

theorem build_members_visit :
    (declaredMethods (visit.artifact .dto).content).Nodup ∧
      ((declaredFields (visit.artifact .dto).content).map Prod.fst).Nodup := by
  obtain ⟨⟨_, fields⟩, _, methods⟩ := build_members visit_built (.inr rfl : ArtifactKind.dto = .entity ∨ _)
  exact ⟨methods.mpr (by decide +kernel), fields.mpr (by decide)⟩

-- Fields are told apart by their names alone, so a field may be called `id`, and two fields that
-- differ in the case of the first letter have accessors of one name.
def account : FeatureModule := ⟨"Account", [("id", "String")], [], "", ⟨""⟩⟩

def contact : FeatureModule := ⟨"Contact", [("Email", "String"), ("email", "String")], [], "", ⟨""⟩⟩

theorem account_built : build "Account" [("id", "String")] [] "" ⟨""⟩ = .ok account := by decide

theorem contact_built :
    build "Contact" [("Email", "String"), ("email", "String")] [] "" ⟨""⟩ = .ok contact := by
  decide

theorem build_members_twice :
    (build "Account" [("id", "String")] [] "" ⟨""⟩ = .ok account ∧
      ¬((declaredFields (account.artifact .entity).content).map Prod.fst).Nodup ∧
      ¬(declaredMethods (account.artifact .entity).content).Nodup) ∧
    (build "Contact" [("Email", "String"), ("email", "String")] [] "" ⟨""⟩ = .ok contact ∧
      ¬(declaredMethods (contact.artifact .dto).content).Nodup) := by
  have plain := (build_sound account_built).1.plain
  have otherPlain := (build_sound contact_built).1.plain
  refine ⟨⟨account_built, ?_, ?_⟩, contact_built, ?_⟩
  · rw [declaredFields_artifact plain (words_of_built account_built) (.inl rfl)]
    decide
  · rw [declaredMethods_artifact plain (build_fields account_built).2 (.inl rfl)]
    decide +kernel
  · rw [declaredMethods_artifact otherPlain (build_fields contact_built).2 (.inr rfl)]
    decide +kernel

end FeatureModule
end SpringSkeleton
