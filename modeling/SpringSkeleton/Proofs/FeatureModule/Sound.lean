import SpringSkeleton.FeatureModule.Basic
import SpringSkeleton.Proofs.Name.Delimiters

namespace SpringSkeleton.FeatureModule

structure Sound (spec : FeatureModule) : Prop where
  entity : Name.isIdentifier spec.entity = true
  package : Name.checkPackage spec.basePackage = .ok ()
  fields : ∀ field ∈ spec.fields, Name.Undelimited field.1 ∧ Name.Undelimited field.2
  methods : ∀ method ∈ spec.methods, Name.Undelimited method

-- What it takes to add a field, and what comes of it.
theorem addField_parts {fields later : Keyed String} {given : String × String}
    (added : addField fields given = .ok later) : ∃ name,
      Name.checkFragment "field type" given.2 = .ok () ∧
      Name.escapeField (Text.trim given.1) = .ok name ∧ Keyed.find? name fields = none ∧
      later = Keyed.insert name (Text.trim given.2) fields := by
  unfold addField at added
  split at added
  · cases added
  · rename_i type
    split at added
    · cases added
    · rename_i name escaped
      split at added
      · cases added
      · rename_i free
        cases added
        exact ⟨name, type, escaped, free, rfl⟩

-- What holds of every field that passes holds of all fields gathered.
theorem addFields_each {P : String × String → Prop} {fields later : Keyed String}
    {given : List (String × String)} (before : ∀ field ∈ fields, P field)
    (each : ∀ name type escaped, Name.checkFragment "field type" type = .ok () →
      Name.escapeField name = .ok escaped → P (escaped, Text.trim type))
    (added : addFields fields given = .ok later) : ∀ field ∈ later, P field := by
  induction given generalizing fields with
  | nil =>
    cases added
    exact before
  | cons first rest ih =>
    unfold addFields at added
    split at added
    · cases added
    · rename_i next one
      obtain ⟨name, type, escaped, _, rfl⟩ := addField_parts one
      refine ih (fun field member => ?_) added
      rcases Keyed.mem_insert member with rfl | earlier
      · exact each _ _ _ type escaped
      · exact before field earlier

theorem addFields_ascending {fields later : Keyed String} {given : List (String × String)}
    (ascending : Keyed.Ascending fields) (added : addFields fields given = .ok later) :
    Keyed.Ascending later := by
  induction given generalizing fields with
  | nil =>
    cases added
    exact ascending
  | cons first rest ih =>
    unfold addFields at added
    split at added
    · cases added
    · rename_i next one
      obtain ⟨name, _, _, _, rfl⟩ := addField_parts one
      exact ih (ascending.insert name _) added

theorem normalizeMethods_undelimited {methods normal : List String}
    (normalized : normalizeMethods methods = .ok normal) :
    ∀ method ∈ normal, Name.Undelimited method := by
  induction methods generalizing normal with
  | nil =>
    cases normalized
    exact List.forall_mem_nil _
  | cons first rest ih =>
    unfold normalizeMethods at normalized
    split at normalized
    · cases normalized
    · rename_i method one
      split at normalized
      · cases normalized
      · rename_i methods others
        cases normalized
        exact List.forall_mem_cons.mpr ⟨Name.undelimited_of_normalizeSignature one, ih others⟩

-- What it takes to build a module, and what it is made of.
theorem build_parts {entity package : String} {fields : Keyed String} {methods : List String}
    {root : Path} {spec : FeatureModule}
    (built : build entity fields methods package root = .ok spec) :
    Name.checkTypeName (Text.trim entity) = .ok () ∧ Name.checkPackage package = .ok () ∧
      addFields [] fields = .ok spec.fields ∧ normalizeMethods methods = .ok spec.methods ∧
      spec.entity = Text.trim entity ∧ spec.basePackage = package ∧ spec.projectRoot = root := by
  unfold build at built
  simp only at built
  split at built
  · cases built
  · rename_i named
    split at built
    · cases built
    · rename_i checked
      split at built
      · cases built
      · split at built
        · cases built
        · rename_i later added
          split at built
          · cases built
          · rename_i normal normalized
            cases built
            exact ⟨named, checked, added, normalized, rfl, rfl, rfl⟩

theorem build_sound {entity package : String} {fields : Keyed String} {methods : List String}
    {root : Path} {spec : FeatureModule}
    (built : build entity fields methods package root = .ok spec) :
    spec.Sound ∧ spec.basePackage = package ∧ spec.projectRoot = root := by
  obtain ⟨named, checked, added, normalized, entity, base, root⟩ := build_parts built
  refine ⟨⟨entity ▸ Name.isIdentifier_of_checkTypeName named, base ▸ checked, ?_,
    normalizeMethods_undelimited normalized⟩, base, root⟩
  refine addFields_each (List.forall_mem_nil _) ?_ added
  intro name type escaped fragment named
  exact ⟨Name.undelimited_of_escapeField named, (Name.undelimited_of_checkFragment fragment).trim⟩

-- The fields are those of a class: identifiers, each of them once.
theorem build_fields {entity package : String} {fields : Keyed String} {methods : List String}
    {root : Path} {spec : FeatureModule}
    (built : build entity fields methods package root = .ok spec) :
    Keyed.Ascending spec.fields ∧ ∀ field ∈ spec.fields, Name.isIdentifier field.1 = true := by
  obtain ⟨_, _, added, _⟩ := build_parts built
  refine ⟨addFields_ascending .nil added, ?_⟩
  refine addFields_each (List.forall_mem_nil _) ?_ added
  intro name type escaped _ named
  exact Name.isIdentifier_of_escapeField named

end SpringSkeleton.FeatureModule
