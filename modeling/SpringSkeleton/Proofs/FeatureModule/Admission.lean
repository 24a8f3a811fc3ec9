import SpringSkeleton.Problem
import SpringSkeleton.Proofs.FeatureModule.Sound
import SpringSkeleton.Proofs.Keyed
import SpringSkeleton.Proofs.Name.Normal

namespace SpringSkeleton.FeatureModule
open Name

variable {entity package : String} {fields later : Keyed String} {methods normal : List String}
  {root : Path} {spec : FeatureModule} {given : String × String} {all : List (String × String)}

section Fields

-- A field that can be declared, whatever the other fields are.
structure Declarable (given : String × String) : Prop where
  type : Text.trim given.2 ≠ ""
  undelimited : Undelimited given.2
  name : isIdentifier (Text.trim given.1) = true

-- What is declared for it.
def declared (given : String × String) : String × String :=
  (escaped (Text.trim given.1), Text.trim given.2)

theorem keys_declared (all : List (String × String)) :
    Keyed.keys (all.map declared) = all.map fun given => escaped (Text.trim given.1) := by
  simp only [Keyed.keys, List.map_map, Function.comp_def, declared]

theorem addField_ok_iff : addField fields given = .ok later ↔
    Declarable given ∧ (declared given).1 ∉ Keyed.keys fields ∧
      later = Keyed.insert (declared given).1 (declared given).2 fields := by
  simp only [declared]
  constructor
  · intro added
    obtain ⟨name, type, accepted, free, rfl⟩ := addField_parts added
    obtain ⟨filled, undelimited⟩ := checkFragment_ok_iff.mp type
    obtain ⟨identifier, rfl⟩ := escapeField_ok_iff.mp accepted
    exact ⟨⟨filled, undelimited, identifier⟩, Keyed.find?_eq_none_iff.mp free, rfl⟩
  · rintro ⟨fit, free, rfl⟩
    have type : checkFragment "field type" given.2 = .ok () :=
      checkFragment_ok_iff.mpr ⟨fit.type, fit.undelimited⟩
    have name : escapeField (Text.trim given.1) = .ok (escaped (Text.trim given.1)) :=
      escapeField_ok_iff.mpr ⟨fit.name, rfl⟩
    simp only [addField, type, name, Keyed.find?_eq_none_iff.mpr free]

theorem addFields_cons_ok_iff : addFields fields (given :: all) = .ok later ↔
    ∃ next, addField fields given = .ok next ∧ addFields next all = .ok later := by
  rw [addFields]
  cases addField fields given <;> simp

-- Each field is declarable, and no two of them, old or new, are declared under one name.
theorem addFields_ok_iff : addFields fields all = .ok later ↔
    (∀ given ∈ all, Declarable given) ∧ (Keyed.keys (all.map declared)).Nodup ∧
      (∀ name ∈ Keyed.keys (all.map declared), name ∉ Keyed.keys fields) ∧
      later = (all.map declared).foldl (fun gathered entry => Keyed.insert entry.1 entry.2 gathered) fields := by
  induction all generalizing fields with
  | nil => simpa [addFields, Keyed.keys] using eq_comm
  | cons given rest ih =>
    rw [addFields_cons_ok_iff]
    simp only [addField_ok_iff, ih, List.map_cons, List.foldl_cons, Keyed.keys, List.nodup_cons,
      List.forall_mem_cons]
    generalize declared given = entry
    have apart_iff (name : String) : name ∉ Keyed.keys (Keyed.insert entry.1 entry.2 fields) ↔
        name ≠ entry.1 ∧ name ∉ Keyed.keys fields := by
      rw [Keyed.mem_keys_insert, not_or]
    constructor
    · rintro ⟨_, ⟨fit, free, rfl⟩, others, nodup, apart, rfl⟩
      refine ⟨⟨fit, others⟩, ⟨fun member => ?_, nodup⟩, ⟨free, fun name member => ?_⟩, rfl⟩
      · exact ((apart_iff _).mp (apart _ member)).1 rfl
      · exact ((apart_iff name).mp (apart name member)).2
    · rintro ⟨⟨fit, others⟩, ⟨new, nodup⟩, ⟨free, apart⟩, rfl⟩
      refine ⟨_, ⟨fit, free, rfl⟩, others, nodup, fun name member => ?_, rfl⟩
      refine (apart_iff name).mpr ⟨?_, apart name member⟩
      rintro rfl
      exact new member

end Fields

theorem normalizeMethods_ok_iff : normalizeMethods methods = .ok normal ↔
    (∀ method ∈ methods, signature method ≠ "" ∧ Undelimited (signature method)) ∧
      normal = methods.map signature := by
  induction methods generalizing normal with
  | nil =>
    exact ⟨fun normalized => ⟨List.forall_mem_nil _, by cases normalized; rfl⟩, fun parts => parts.2 ▸ rfl⟩
  | cons method rest ih =>
    have cases_ : normalizeMethods (method :: rest) = .ok normal ↔ ∃ first others,
        normalizeSignature method = .ok first ∧ normalizeMethods rest = .ok others ∧
          normal = first :: others := by
      rw [normalizeMethods]
      cases normalizeSignature method with
      | error _ => simp
      | ok first =>
        cases normalizeMethods rest with
        | error _ => simp
        | ok others => simpa using eq_comm
    rw [cases_, List.forall_mem_cons, List.map_cons]
    simp only [normalizeSignature_ok_iff, ih]
    constructor
    · rintro ⟨_, _, ⟨rfl, one⟩, ⟨others, rfl⟩, rfl⟩
      exact ⟨⟨one, others⟩, rfl⟩
    · rintro ⟨⟨one, others⟩, rfl⟩
      exact ⟨_, _, ⟨rfl, one⟩, ⟨others, rfl⟩, rfl⟩

-- What a module can be built from.
structure WellFormed (entity : String) (fields : Keyed String) (methods : List String) (package : String) :
    Prop where
  typeName : isIdentifier (Text.trim entity) = true ∧ isReserved (Text.trim entity) = false
  featureName : isReserved (Text.lowercase (Text.trim entity)) = false
  packageName : IsPackage package
  fieldTypes : ∀ field ∈ fields, Text.trim field.2 ≠ "" ∧ Undelimited field.2
  fieldNames : ∀ field ∈ fields, isIdentifier (Text.trim field.1) = true
  distinct : (fields.map fun field => escaped (Text.trim field.1)).Nodup
  signatures : ∀ method ∈ methods, signature method ≠ "" ∧ Undelimited (signature method)

-- The module that is built from them.
def assembled (entity : String) (fields : Keyed String) (methods : List String) (package : String)
    (root : Path) : FeatureModule :=
  ⟨Text.trim entity, Keyed.ofList (fields.map declared), methods.map signature, package, root⟩

theorem isFreeName_iff {name : String} : isFreeName name = true ↔
    isIdentifier name = true ∧ isReserved name = false := by
  simp [isFreeName]

theorem build_ok_iff : build entity fields methods package root = .ok spec ↔
    WellFormed entity fields methods package ∧ spec = assembled entity fields methods package root := by
  constructor
  · intro built
    obtain ⟨named, checked, added, normalized, name, base, place⟩ := build_parts built
    obtain ⟨fit, nodup, _, gathered⟩ := addFields_ok_iff.mp added
    obtain ⟨fragments, signatures⟩ := normalizeMethods_ok_iff.mp normalized
    have feature : isReserved (Text.lowercase (Text.trim entity)) = false := by
      unfold build at built
      simp only [named, checked] at built
      split at built
      · cases built
      · exact eq_false_of_ne_true ‹_›
    refine ⟨⟨isFreeName_iff.mp (checkTypeName_ok_iff.mp named), feature, checkPackage_ok_iff.mp checked,
      fun field member => ⟨(fit field member).type, (fit field member).undelimited⟩,
      fun field member => (fit field member).name, keys_declared fields ▸ nodup, fragments⟩, ?_⟩
    obtain ⟨_, _, _, _, _⟩ := spec
    cases name
    cases base
    cases place
    cases gathered
    cases signatures
    rfl
  · rintro ⟨formed, rfl⟩
    have named : checkTypeName (Text.trim entity) = .ok () :=
      checkTypeName_ok_iff.mpr (isFreeName_iff.mpr formed.typeName)
    have checked : checkPackage package = .ok () := checkPackage_ok_iff.mpr formed.packageName
    have added : addFields [] fields = .ok (Keyed.ofList (fields.map declared)) := by
      refine addFields_ok_iff.mpr ⟨fun field member => ?_, keys_declared fields ▸ formed.distinct,
        fun _ _ => List.not_mem_nil, rfl⟩
      exact ⟨(formed.fieldTypes field member).1, (formed.fieldTypes field member).2, formed.fieldNames field member⟩
    have normalized : normalizeMethods methods = .ok (methods.map signature) :=
      normalizeMethods_ok_iff.mpr ⟨formed.signatures, rfl⟩
    simp only [build, named, checked, formed.featureName, added, normalized, assembled,
      Bool.false_eq_true, if_false]

-- Exactly the well-formed arguments are accepted. Each field is kept, once and under its own name, and
-- each method in its place.
theorem build_admits (entity package : String) (fields : Keyed String) (methods : List String)
    (root : Path) :
    ((∃ spec, build entity fields methods package root = .ok spec) ↔
      WellFormed entity fields methods package) ∧
    (∀ spec, build entity fields methods package root = .ok spec →
      spec.entity = Text.trim entity ∧ spec.basePackage = package ∧ spec.projectRoot = root ∧
      Keyed.Ascending spec.fields ∧ spec.fields.length = fields.length ∧
      spec.fields.Perm (fields.map fun field => (escaped (Text.trim field.1), Text.trim field.2)) ∧
      spec.methods = methods.map signature) ∧
    (¬ WellFormed entity fields methods package →
      ∃ problem, build entity fields methods package root = .error problem ∧
        (Problem.invalid problem).kind = .validation) := by
  refine ⟨⟨?_, ?_⟩, ?_, ?_⟩
  · rintro ⟨spec, built⟩
    exact (build_ok_iff.mp built).1
  · intro formed
    exact ⟨_, build_ok_iff.mpr ⟨formed, rfl⟩⟩
  · intro spec built
    obtain ⟨formed, rfl⟩ := build_ok_iff.mp built
    have perm := Keyed.ofList_perm (keys_declared fields ▸ formed.distinct)
    exact ⟨rfl, rfl, rfl, Keyed.ascending_ofList _, perm.length_eq.trans (List.length_map _), perm, rfl⟩
  · intro malformed
    cases outcome : build entity fields methods package root with
    | ok spec => exact absurd (build_ok_iff.mp outcome).1 malformed
    | error problem => exact ⟨problem, rfl, rfl⟩

-- A name that is escaped can meet one that was given with its underscore.
theorem build_admits_colliding : ¬ WellFormed "Order" [("class", "int"), ("class_", "int")] [] "" ∧
    ∃ problem, build "Order" [("class", "int"), ("class_", "int")] [] "" ⟨""⟩ = .error problem ∧
      (Problem.invalid problem).kind = .validation := by
  have malformed : ¬ WellFormed "Order" [("class", "int"), ("class_", "int")] [] "" := fun formed =>
    absurd formed.distinct (by decide +kernel)
  exact ⟨malformed, (build_admits "Order" "" [("class", "int"), ("class_", "int")] [] ⟨""⟩).2.2 malformed⟩

-- What is declared for a field is declared for what was declared.
theorem Declarable.again (fit : Declarable given) :
    Declarable (declared given) ∧ declared (declared given) = declared given := by
  have accepted : escapeField (Text.trim given.1) = .ok (escaped (Text.trim given.1)) :=
    escapeField_ok_iff.mpr ⟨fit.name, rfl⟩
  have trimmed := trim_escaped (Text.trim_trim given.1)
  refine ⟨⟨?_, fit.undelimited.trim, ?_⟩, ?_⟩
  · simp only [declared, Text.trim_trim]
    exact fit.type
  · simp only [declared, trimmed]
    exact isIdentifier_of_escapeField accepted
  · simp only [declared, trimmed, Text.trim_trim, escaped_of_free (isReserved_escaped _)]

-- A module is well-formed as it stands, and nothing in it changes when it is built again.
theorem WellFormed.again (formed : WellFormed entity fields methods package) (root : Path) :
    let spec := assembled entity fields methods package root
    WellFormed spec.entity spec.fields spec.methods package ∧
      assembled spec.entity spec.fields spec.methods package root = spec := by
  have nodup : (Keyed.keys (fields.map declared)).Nodup := by
    rw [keys_declared]
    exact formed.distinct
  have each : ∀ field ∈ Keyed.ofList (fields.map declared), Declarable field ∧ declared field = field := by
    intro field member
    obtain ⟨given, inside, rfl⟩ := List.mem_map.mp ((Keyed.ofList_perm nodup).mem_iff.mp member)
    have fit : Declarable given := ⟨(formed.fieldTypes given inside).1, (formed.fieldTypes given inside).2,
      formed.fieldNames given inside⟩
    exact fit.again
  have kept : (Keyed.ofList (fields.map declared)).map declared = Keyed.ofList (fields.map declared) :=
    (List.map_congr_left fun field member => (each field member).2).trans (List.map_id _)
  have ascending := Keyed.ascending_ofList (fields.map declared)
  have normal : ∀ method ∈ methods, signature (signature method) = signature method := by
    intro method member
    have normalized := normalizeSignature_ok_iff.mpr ⟨rfl, formed.signatures method member⟩
    exact (normalizeSignature_ok_iff.mp (normalizeSignature_again normalized)).1.symm
  have signatures : (methods.map signature).map signature = methods.map signature := by
    rw [List.map_map]
    exact List.map_congr_left normal
  refine ⟨⟨?_, ?_, formed.packageName, ?_, ?_, ?_, ?_⟩, ?_⟩
  · exact (Text.trim_trim entity).symm ▸ formed.typeName
  · exact (Text.trim_trim entity).symm ▸ formed.featureName
  · exact fun field member => ⟨(each field member).1.type, (each field member).1.undelimited⟩
  · exact fun field member => (each field member).1.name
  · rw [← keys_declared]
    exact kept.symm ▸ ascending.nodup_keys
  · refine List.forall_mem_map.mpr fun method member => ?_
    rw [normal method member]
    exact formed.signatures method member
  · simp only [assembled, Text.trim_trim, kept, ascending.ofList_eq, signatures]

-- A module is built again from its own parts: an escaped name is reserved no more, and a signature that
-- was made normal stays as it is.
theorem build_again (built : build entity fields methods package root = .ok spec) :
    build spec.entity spec.fields spec.methods spec.basePackage spec.projectRoot = .ok spec ∧
      (∀ name field, escapeField name = .ok field →
        isReserved field = false ∧ escapeField field = .ok field) ∧
      ∀ given method, normalizeSignature given = .ok method → normalizeSignature method = .ok method := by
  obtain ⟨formed, rfl⟩ := build_ok_iff.mp built
  obtain ⟨again, same⟩ := formed.again root
  refine ⟨build_ok_iff.mpr ⟨again, same.symm⟩, ?_, fun _ _ normal => normalizeSignature_again normal⟩
  intro name field accepted
  have free : isReserved field = false :=
    (escapeField_ok_iff.mp accepted).2 ▸ isReserved_escaped name
  exact ⟨free, escapeField_again accepted⟩

-- Fields that are escaped, one of them to a name that looks escaped already, and a blank before the
-- semicolon.
def ledger : FeatureModule :=
  ⟨"Order", [("__", "int"), ("class_", "String"), ("name_", "long")], ["List<Order> findAll()"], "com.acme",
   ⟨""⟩⟩

theorem build_again_escaped :
    build " Order " [(" class ", "String "), ("_", "int"), ("name_", "long")] [" List<Order> findAll() ; "]
      "com.acme" ⟨""⟩ = .ok ledger ∧
    build ledger.entity ledger.fields ledger.methods ledger.basePackage ledger.projectRoot = .ok ledger ∧
    escapeField "__" = .ok "__" ∧
    normalizeSignature "List<Order> findAll()" = .ok "List<Order> findAll()" := by
  have built : build " Order " [(" class ", "String "), ("_", "int"), ("name_", "long")]
      [" List<Order> findAll() ; "] "com.acme" ⟨""⟩ = .ok ledger := by decide +kernel
  obtain ⟨again, names, signatures⟩ := build_again built
  exact ⟨built, again, (names "_" "__" (by decide +kernel)).2,
    signatures " List<Order> findAll() ; " _ (by decide +kernel)⟩

end SpringSkeleton.FeatureModule
