import SpringSkeleton.Proofs.Tree.Growth

namespace SpringSkeleton

namespace Disk
variable {disk after : Disk} {base path other : Path} {front back : List String} {last ending : String}

theorem isName_stagingName {name : String} (isName : Path.IsName name) :
    Path.IsName (stagingName name) := by
  have long : (stagingName name).toList.length ≠ 0 ∧ (stagingName name).toList.length ≠ 1 ∧
      (stagingName name).toList.length ≠ 2 := by simp [stagingName]
  refine ⟨?_, ?_, ?_⟩
  · have none : stagingName name ≠ "" := fun same => long.1 (by rw [same]; rfl)
    have here : stagingName name ≠ "." := fun same => long.2.1 (by rw [same]; rfl)
    simp [Path.isIdle, none, here]
  · exact fun same => long.2.2 (by rw [same]; rfl)
  · simp [stagingName, isName.whole]

theorem stagingName_injective {name other : String} (same : stagingName name = stagingName other) :
    name = other := by
  have chars := congrArg String.toList same
  simp only [stagingName, String.toList_append] at chars
  exact String.toList_injective (List.append_cancel_left (List.append_cancel_right chars))

theorem stagingName_hidden (name : String) : Text.endsWith ".scaffold-tmp" (stagingName name) = true := by
  have suffix : ".scaffold-tmp".toList <:+ (stagingName name).toList := by
    simp only [stagingName, String.toList_append]
    exact List.suffix_append _ _
  simpa [Text.endsWith] using suffix

theorem stagingName_size (name : String) :
    (stagingName name).utf8ByteSize = name.utf8ByteSize + 14 := by
  have begins : ".".utf8ByteSize = 1 := by decide
  have ends : ".scaffold-tmp".utf8ByteSize = 13 := by decide
  simp only [stagingName, String.utf8ByteSize_append, begins, ends]
  omega

theorem stagingName_longer (name : String) :
    name.utf8ByteSize ≤ (stagingName name).utf8ByteSize := by
  rw [stagingName_size]
  omega

-- A target below a base, taken apart into what its path adds to the steps of the base.
structure IsTarget (base path : Path) (front : List String) (last : String) : Prop where
  order : path.steps = front ++ [last]
  down : ".." ∉ front ++ [last]
  isName : Path.IsName last
  steps : (base.join path).steps = base.steps ++ (front ++ [last])
  isAbsolute : (base.join path).isAbsolute = base.isAbsolute
  fileName : (base.join path).fileName? = some last

theorem target_parts (base : Path) (downward : path.Downward) (somewhere : path.steps ≠ []) :
    ∃ front last, IsTarget base path front last := by
  cases order : path.steps using List.reverseRecOn with
  | nil => exact absurd order somewhere
  | append_singleton front last =>
    have down := order ▸ downward.steps
    have steps : (base.join path).steps = base.steps ++ (front ++ [last]) := by
      rw [Path.steps_join base downward.relative, order]
    have last_down : last ≠ ".." := fun up => down (by simp [up])
    have member : last ∈ path.steps := by simp [order]
    have fileName : (base.join path).fileName? = some last := by
      rw [Path.fileName?_eq_some_iff, steps, ← List.append_assoc, List.getLast?_concat]
      exact ⟨rfl, last_down⟩
    exact ⟨front, last, order, down, Path.isName_of_mem_steps member last_down, steps,
      Path.isAbsolute_join base downward.relative, fileName⟩

theorem stagingPath_eq {target : Path} (fileName : target.fileName? = some last) :
    stagingPath target = target.withFileName (stagingName last) := by simp [stagingPath, fileName]

theorem IsTarget.stagingSteps (target : IsTarget base path front last) :
    (stagingPath (base.join path)).steps = base.steps ++ (front ++ [stagingName last]) := by
  rw [stagingPath_eq target.fileName,
    Path.steps_withFileName target.fileName (isName_stagingName target.isName), target.steps,
    ← List.append_assoc, List.dropLast_concat, List.append_assoc]

theorem IsTarget.stagingAbsolute (target : IsTarget base path front last) :
    (stagingPath (base.join path)).isAbsolute = base.isAbsolute := by
  rw [stagingPath_eq target.fileName,
    Path.isAbsolute_withFileName target.fileName (isName_stagingName target.isName), target.isAbsolute]

theorem IsTarget.stagingStart (target : IsTarget base path front last) (disk : Disk) :
    disk.start (stagingPath (base.join path)) = disk.start base :=
  start_eq target.stagingAbsolute disk

theorem IsTarget.start (target : IsTarget base path front last) (disk : Disk) :
    disk.start (base.join path) = disk.start base :=
  start_eq target.isAbsolute disk

theorem IsTarget.place (target : IsTarget base path front last) (disk : Disk) :
    disk.placeOf (base.join path) = disk.placeOf base ++ (front ++ [last]) :=
  placeOf_append target.isAbsolute target.steps target.down disk

theorem IsTarget.stagingDown (target : IsTarget base path front last) :
    ".." ∉ front ++ [stagingName last] := by
  intro up
  rcases List.mem_append.mp up with inside | ending
  · exact target.down (List.mem_append_left _ inside)
  · exact (isName_stagingName target.isName).down (List.mem_singleton.mp ending).symm

theorem IsTarget.stagingPlace (target : IsTarget base path front last) (disk : Disk) :
    disk.placeOf (stagingPath (base.join path)) =
      disk.placeOf base ++ (front ++ [stagingName last]) :=
  placeOf_append target.stagingAbsolute target.stagingSteps target.stagingDown disk

-- Places below a base are told apart by what the paths add to it, and so are the hidden ones beside them.
theorem IsTarget.place_eq_iff (target : IsTarget base path front last)
    (second : IsTarget base other back ending) (disk : Disk) :
    disk.placeOf (base.join path) = disk.placeOf (base.join other) ↔
      front ++ [last] = back ++ [ending] := by
  rw [target.place, second.place, List.append_cancel_left_eq]

theorem IsTarget.stagingPlace_eq_iff (target : IsTarget base path front last)
    (second : IsTarget base other back ending) (disk : Disk) :
    disk.placeOf (stagingPath (base.join path)) = disk.placeOf (stagingPath (base.join other)) ↔
      front ++ [last] = back ++ [ending] := by
  rw [target.stagingPlace, second.stagingPlace, List.append_cancel_left_eq]
  constructor
  · intro same
    obtain ⟨fronts, lasts⟩ := List.append_inj' same rfl
    rw [fronts, stagingName_injective (List.singleton_inj.mp lasts)]
  · intro same
    obtain ⟨fronts, lasts⟩ := List.append_inj' same rfl
    rw [fronts, List.singleton_inj.mp lasts]

theorem IsTarget.hidden (target : IsTarget base path front last)
    (second : IsTarget base other back ending)
    (visible : Text.endsWith ".scaffold-tmp" last = false) (disk : Disk) :
    disk.placeOf (base.join path) ≠ disk.placeOf (stagingPath (base.join other)) := by
  rw [target.place, second.stagingPlace]
  intro same
  have below : front ++ [last] = back ++ [stagingName ending] := List.append_cancel_left same
  rw [List.singleton_inj.mp (List.append_inj' below rfl).2, stagingName_hidden] at visible
  cases visible

-- The name of the staging file holds all characters of the name of the target, and no NUL beside them.
theorem IsTarget.nul_iff (target : IsTarget base path front last) :
    '\x00' ∈ (stagingPath (base.join path)).text.toList ↔ '\x00' ∈ (base.join path).text.toList := by
  have slash : '\x00' ≠ '/' := by decide
  have dot : '\x00' ≠ '.' := by decide
  have name : '\x00' ∈ (stagingName last).toList ↔ '\x00' ∈ last.toList := by
    have begins : '\x00' ∉ ".".toList := by decide
    have ends : '\x00' ∉ ".scaffold-tmp".toList := by decide
    simp only [stagingName, String.toList_append, List.mem_append, begins, ends, false_or, or_false]
  rw [Path.mem_text_iff slash dot, Path.mem_text_iff slash dot, target.steps, target.stagingSteps,
    ← List.append_assoc, ← List.append_assoc]
  simp only [List.mem_append, List.mem_singleton, or_and_right, exists_or, exists_eq_left, name]

-- What leads to the staging file leads to the target too, if its own text allows.
theorem IsTarget.reaches (target : IsTarget base path front last)
    (staged : disk.Reaches (stagingPath (base.join path))) (names : (base.join path).NamesFile) :
    disk.Reaches (base.join path) := by
  have somewhere : (base.join path).steps ≠ [] := by simp [target.steps]
  have order : (base.join path).steps = (base.steps ++ front) ++ [last] := by
    rw [target.steps, List.append_assoc]
  have stagingOrder : (stagingPath (base.join path)).steps =
      (base.steps ++ front) ++ [stagingName last] := by rw [target.stagingSteps, List.append_assoc]
  obtain ⟨admissible, _, leads, short⟩ := (reaches_iff stagingOrder).mp staged
  rw [target.stagingStart, ← target.start] at leads
  exact (reaches_iff order).mpr
    ⟨⟨fun nul => admissible.clean (target.nul_iff.mpr nul), Path.text_of_steps somewhere, names.short⟩, names.plain, leads,
      Nat.le_trans (stagingName_longer last) short⟩

end Disk
end SpringSkeleton
