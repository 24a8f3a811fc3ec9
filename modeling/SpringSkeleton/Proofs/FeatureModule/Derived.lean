import SpringSkeleton.FeatureModule.Rendering
import SpringSkeleton.Proofs.FeatureModule.Admission
import SpringSkeleton.Proofs.Name.Casing
import SpringSkeleton.Proofs.Name.Packages

namespace SpringSkeleton

namespace Name
variable {base feature : String}

-- Below a checked package, a name that is not reserved makes a package exactly when it is an identifier.
theorem checkPackage_below_iff (checked : checkPackage base = .ok ()) (present : feature ≠ "")
    (whole : '.' ∉ feature.toList) (free : isReserved feature = false) :
    checkPackage (joinPackage base feature) = .ok () ↔ isIdentifier feature = true := by
  constructor
  · intro joined
    have last : feature ∈ packageNames (joinPackage base feature) := by
      rw [packageNames_joinPackage, packageNames_of_not_mem present whole]
      exact List.mem_append_right _ List.mem_cons_self
    exact isIdentifier_of_checkPackage joined last
  · intro identifier
    refine checkPackage_joinPackage checked (checkPackage_ok_iff.mpr (.inr fun segment member => ?_))
    rw [Text.pieces_of_not_mem whole, List.mem_singleton] at member
    exact member ▸ FeatureModule.isFreeName_iff.mpr ⟨identifier, free⟩

-- An ending of name characters with a capital letter makes an identifier a type name.
theorem checkTypeName_append {name ending : String} (checked : isIdentifier name = true)
    (parts : ∀ c ∈ ending.toList, isNamePart c = true) {c : Char} (member : c ∈ ending.toList)
    (capital : c.isUpper = true) : checkTypeName (name ++ ending) = .ok () := by
  have identifier : isIdentifier (name ++ ending) = true := (isIdentifier_append_iff checked).mpr parts
  have inside : c ∈ (name ++ ending).toList := by
    rw [String.toList_append]
    exact List.mem_append_right _ member
  exact checkTypeName_ok_iff.mpr (FeatureModule.isFreeName_iff.mpr
    ⟨identifier, isReserved_capital inside capital⟩)

end Name

namespace FeatureModule
open Name
variable {entity package : String} {fields : Keyed String} {methods : List String} {root : Path}
  {spec : FeatureModule}

theorem checkTypeName_typeName (checked : isIdentifier entity = true) (kind : ArtifactKind) :
    checkTypeName (kind.typeName entity) = .ok () := by
  have parts : kind.suffix.toList.all isNamePart = true := by cases kind <;> decide +kernel
  obtain ⟨c, member, capital⟩ : ∃ c ∈ kind.suffix.toList, c.isUpper = true := by
    cases kind <;> exact ⟨_, List.mem_cons_self, by decide⟩
  exact checkTypeName_append checked (List.all_eq_true.mp parts) member capital

theorem checkPackage_featurePackage_iff (sound : spec.Sound) (free : isReserved spec.feature = false) :
    checkPackage spec.featurePackage = .ok () ↔ dotted ∉ spec.entity.toList := by
  obtain ⟨c, rest, chars, parts⟩ := chars_of_isIdentifier sound.entity
  obtain ⟨d, more, lowered⟩ := Text.lowercase_chars chars
  have present : spec.feature ≠ "" := by
    intro none
    rw [feature] at none
    simp [none] at lowered
  have whole : '.' ∉ spec.feature.toList := by
    intro dot
    have part := parts '.' (Text.mem_lowercase_separator (by decide) dot)
    rw [isNamePart_dot] at part
    cases part
  exact (checkPackage_below_iff sound.package present whole free).trans
    (isIdentifier_lowercase_iff sound.entity)

-- The types pass whatever the entity is. The package passes unless a capital with a dot is in the entity,
-- and an accessor unless the capital of its field is written with a mark.
theorem build_derived (built : build entity fields methods package root = .ok spec) :
    (checkPackage spec.featurePackage = .ok () ↔ dotted ∉ spec.entity.toList) ∧
      (∀ kind : ArtifactKind, checkTypeName (kind.typeName spec.entity) = .ok ()) ∧
      ∀ field ∈ spec.fields, ∀ start ∈ ["get", "set"],
        (isIdentifier (start ++ accessorName field.1) = true ↔
          ∀ c, field.1.toList.head? = some c → c.toNat ∉ marked) := by
  obtain ⟨sound, _, _⟩ := build_sound built
  obtain ⟨_, named⟩ := build_fields built
  obtain ⟨formed, same⟩ := build_ok_iff.mp built
  have free : isReserved spec.feature = false := by
    rw [same]
    exact formed.featureName
  refine ⟨checkPackage_featurePackage_iff sound free, checkTypeName_typeName sound.entity, ?_⟩
  intro field member start among
  have before : isIdentifier start = true := by
    rcases List.mem_pair.mp among with rfl | rfl <;> decide +kernel
  exact isIdentifier_capitalize_iff before (named field member)

-- A sharp letter becomes two capitals, which are letters.
def street : FeatureModule :=
  ⟨"Straße", [("ßuffix", "String"), ("ǰ", "int")], [], "com.acme", ⟨""⟩⟩

theorem build_derived_street :
    build "Straße" [("ßuffix", "String"), ("ǰ", "int")] [] "com.acme" ⟨""⟩ = .ok street ∧
      checkPackage street.featurePackage = .ok () ∧
      checkTypeName (ArtifactKind.entity.typeName street.entity) = .ok () ∧
      isIdentifier ("get" ++ accessorName "ßuffix") = true ∧
      ¬ isIdentifier ("set" ++ accessorName "ǰ") = true := by
  have built : build "Straße" [("ßuffix", "String"), ("ǰ", "int")] [] "com.acme" ⟨""⟩ = .ok street := by
    decide +kernel
  obtain ⟨package, types, accessors⟩ := build_derived built
  have sharp := accessors ("ßuffix", "String") (by decide) "get" (by decide)
  have caron := accessors ("ǰ", "int") (by decide) "set" (by decide)
  refine ⟨built, package.mpr (by decide), types .entity, sharp.mpr fun c first => ?_, fun named => ?_⟩
  · cases first
    decide
  · exact absurd (caron.mp named (Char.ofNat 496) rfl) (by decide)

-- Names that pass, from which others are derived that do not.
theorem build_underived : ∃ spec, build "İtem" [("ǰ", "int")] [] "com.acme" ⟨""⟩ = .ok spec ∧
    checkPackage spec.featurePackage ≠ .ok () ∧
    ∃ field ∈ spec.fields, isIdentifier ("get" ++ accessorName field.1) = false ∧
      isIdentifier ("set" ++ accessorName field.1) = false :=
  ⟨⟨"İtem", [("ǰ", "int")], [], "com.acme", ⟨""⟩⟩, by decide +kernel, by decide +kernel, ("ǰ", "int"),
    by decide, by decide +kernel, by decide +kernel⟩

end FeatureModule
end SpringSkeleton
