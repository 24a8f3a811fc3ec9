import SpringSkeleton.Proofs.Name.Steps
import SpringSkeleton.Proofs.Path.Join

namespace SpringSkeleton.Name
variable {package first second : String} {names : List String}

-- The names that a package adds to a path.
def packageNames (package : String) : List String := (Text.pieces '.' package).filter (· ≠ "")

theorem isName_packageNames (checked : checkPackage package = .ok ()) :
    ∀ name ∈ packageNames package, Path.IsName name :=
  fun _ member => isName_of_isIdentifier (isIdentifier_of_checkPackage checked member)

theorem packagePath_steps (checked : checkPackage package = .ok ()) :
    (packagePath package).steps = packageNames package :=
  (Path.ofPieces_parts (isName_packageNames checked)).1

-- No segment of a checked package is empty.
theorem joined_packageNames (checked : checkPackage package = .ok ()) :
    Text.joined '.' (packageNames package) = package := by
  by_cases none : package = ""
  · rw [none]
    decide
  · have free := (checkPackage_ok_iff.mp checked).resolve_left none
    have all : packageNames package = Text.pieces '.' package := by
      refine List.filter_eq_self.mpr fun segment member => ?_
      have segment_free := free segment member
      have some : segment ≠ "" := by
        rintro rfl
        exact absurd segment_free (by decide)
      simpa using some
    rw [all, Text.joined_pieces]

-- Different packages have different paths.
theorem packageNames_injective (one : checkPackage first = .ok ()) (two : checkPackage second = .ok ())
    (same : packageNames first = packageNames second) : first = second := by
  rw [← joined_packageNames one, ← joined_packageNames two, same]

theorem packageNames_empty : packageNames "" = [] := by decide

theorem packageNames_of_not_mem (present : package ≠ "") (whole : '.' ∉ package.toList) :
    packageNames package = [package] := by
  rw [packageNames, Text.pieces_of_not_mem whole]
  simp [present]

theorem joinPackage_empty (base : String) : joinPackage base "" = base := by
  unfold joinPackage
  by_cases none : base = ""
  · rw [none]
    decide
  · simp [none, Text.joined, Text.glue]

theorem packageNames_joinPackage (base child : String) :
    packageNames (joinPackage base child) = packageNames base ++ packageNames child := by
  have single : ∀ package, Text.joined '.' [package] = package := fun package => by
    simp [Text.joined, Text.glue]
  unfold joinPackage
  by_cases left : base = ""
  · by_cases right : child = ""
    · rw [left, right]
      decide
    · simp [left, right, single, packageNames_empty]
  · by_cases right : child = ""
    · simp [left, right, single, packageNames_empty]
    · have parted : (Text.joined '.' [base, child]).toList = base.toList ++ '.' :: child.toList := by
        simp [Text.joined, Text.glue]
      simp only [List.filter_cons, left, right, List.filter_nil, ne_eq, not_false_eq_true, decide_true,
        if_true]
      rw [packageNames, Text.pieces_of_cut parted, List.filter_append]
      rfl

theorem checkPackage_joinPackage (one : checkPackage first = .ok ()) (two : checkPackage second = .ok ()) :
    checkPackage (joinPackage first second) = .ok () := by
  unfold joinPackage
  by_cases left : first = ""
  · by_cases right : second = ""
    · rw [left, right]
      decide
    · simpa [left, right, Text.joined, Text.glue] using two
  · by_cases right : second = ""
    · simpa [left, right, Text.joined, Text.glue] using one
    · have free := (checkPackage_ok_iff.mp one).resolve_left left
      have others := (checkPackage_ok_iff.mp two).resolve_left right
      have parted : (Text.joined '.' [first, second]).toList =
          first.toList ++ '.' :: second.toList := by simp [Text.joined, Text.glue]
      simp only [List.filter_cons, left, right, List.filter_nil, ne_eq, not_false_eq_true, decide_true,
        if_true]
      refine checkPackage_ok_iff.mpr (.inr fun segment member => ?_)
      rw [Text.pieces_of_cut parted] at member
      exact (List.mem_append.mp member).elim (free segment) (others segment)

theorem packageNames_ne_nil (checked : checkPackage package = .ok ()) (present : package ≠ "") :
    packageNames package ≠ [] := by
  intro none
  have whole := joined_packageNames checked
  rw [none] at whole
  exact present (whole.symm.trans rfl)

-- What goes on from the directory of a package goes on from its names.
theorem join_packagePath_along (root : Path)
    (segments : ∀ segment ∈ packageNames package, Path.IsName segment)
    (each : ∀ name ∈ names, Path.IsName name) (some_ : names ≠ []) :
    (root.join (packagePath package)).along names = root.along (packageNames package ++ names) := by
  obtain ⟨name, rest, rfl⟩ := List.exists_cons_of_ne_nil some_
  have isName : Path.IsName name := each name List.mem_cons_self
  have pieces : Path.ofPieces (packageNames package ++ [name]) =
      (packagePath package).join ⟨name⟩ := List.foldl_append
  have all : ∀ other ∈ packageNames package ++ [name], Path.IsName other := by
    intro other member
    rcases List.mem_append.mp member with segment | last
    · exact segments other segment
    · exact List.mem_singleton.mp last ▸ isName
  have relative : (packagePath package).isAbsolute = false := (Path.ofPieces_parts segments).2
  have first : (root.join (packagePath package)).join ⟨name⟩ =
      root.along (packageNames package ++ [name]) := by
    rw [Path.join_assoc root relative isName.relative, ← pieces, Path.join_ofPieces (by simp) all]
  have split : packageNames package ++ name :: rest = packageNames package ++ [name] ++ rest := by simp
  rw [split, Path.along, List.foldl_cons, first, Path.along, Path.along, ← List.foldl_append]

-- The directory of a package below a package is that of the two joined.
theorem along_joinPackage (root : Path) (one : ∀ segment ∈ packageNames first, Path.IsName segment)
    (two : ∀ segment ∈ packageNames second, Path.IsName segment)
    (each : ∀ name ∈ names, Path.IsName name) (some_ : names ≠ []) :
    ((root.join (packagePath first)).join (packagePath second)).along names =
      (root.join (packagePath (joinPackage first second))).along names := by
  have inner : ∀ name ∈ packageNames second ++ names, Path.IsName name := by
    intro name member
    rcases List.mem_append.mp member with segment | last
    · exact two name segment
    · exact each name last
  have both : ∀ segment ∈ packageNames (joinPackage first second), Path.IsName segment := by
    rw [packageNames_joinPackage]
    intro segment member
    rcases List.mem_append.mp member with before | after
    · exact one segment before
    · exact two segment after
  rw [join_packagePath_along _ two each some_, join_packagePath_along root one inner (by simp [some_]),
    join_packagePath_along root both each some_, packageNames_joinPackage, List.append_assoc]

end SpringSkeleton.Name
