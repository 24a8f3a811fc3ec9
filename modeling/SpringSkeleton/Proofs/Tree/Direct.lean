import SpringSkeleton.Proofs.Tree.Staging

namespace SpringSkeleton.Disk
variable {fresh : Location → Prop} {disk now after : Disk} {base : Path}
variable {a : Artifact} {artifacts moved rest : List Artifact}

theorem Progress.enlarge {made : Location → Prop} (progress : Progress fresh disk now base moved [])
    (grown : Enlarges made now after) (new : ∀ place, made place → fresh place) :
    Progress fresh disk after base moved [] :=
  ⟨grown.workingDirectory.trans progress.workingDirectory,
    progress.overlays.grow (grown.grows.weaken new), progress.replaced,
    List.forall_mem_nil _, List.forall_mem_nil _⟩

theorem Progress.write (ready : disk.Ready base (moved ++ a :: rest))
    (progress : Progress fresh disk now base moved [])
    (written : now.writeFile (base.join a.path) (.text a.content) = .ok after) :
    Progress fresh disk after base (moved ++ [a]) [] := by
  have member : a ∈ moved ++ a :: rest := List.mem_append_right _ List.mem_cons_self
  obtain ⟨_, unused, rfl⟩ := writeFile_ok (progress.linkFree ready) written
  have place : now.placeOf (base.join a.path) = disk.targetPlace base a :=
    placeOf_congr progress.workingDirectory _
  rw [place] at unused ⊢
  have missed : Tree.Misses (disk.targetFiles base moved ++ disk.stagingFiles base [])
      (disk.targetPlace base a) := by
    refine ready.target_missed member ?_ (List.forall_mem_nil _)
    intro b inside
    exact ⟨List.mem_append_left _ inside, ready.around (List.mem_append_left _ inside)⟩
  refine ⟨progress.workingDirectory, ?_, ?_, List.forall_mem_nil _, List.forall_mem_nil _⟩
  · refine (progress.overlays.put (ready.somewhere member).1 missed _).congr fun file => ?_
    simp [targetFiles, stagingFiles, or_comm, eq_comm]
  · intro b inside
    rcases List.mem_append.mp inside with earlier | last
    · exact progress.replaced b earlier
    · rw [List.mem_singleton.mp last]
      intro stood
      rcases progress.overlays.kept _ missed with same | ⟨none, _, _⟩
      · exact unused (same.trans stood)
      · rw [stood] at none
        cases none

def fileSteps (base : Path) (artifacts : List Artifact) : List Step :=
  artifacts.map fun artifact => .file (base.join artifact.path) artifact.content

section Steps
variable (ready : disk.Ready base (moved ++ a :: rest))
  (new : ∀ place, disk.NewFor base (a :: rest) place → fresh place)
  (progress : Progress fresh disk now base moved [])

include ready new progress

theorem Progress.makeParentFor :
    Progress fresh disk (now.makeParentFor (base.join a.path)).2 base moved [] := by
  refine progress.enlarge (makeParentFor_enlarges (progress.linkFree ready) (base.join a.path)) ?_
  rintro place ⟨parent, isParent, onWay⟩
  exact new place ⟨a, List.mem_cons_self, parent, isParent, onWay.congr progress.workingDirectory⟩

theorem Progress.perform_ok
    (performed : now.perform (.file (base.join a.path) a.content) = (.ok (), after)) :
    Progress fresh disk after base (moved ++ [a]) [] := by
  have further := progress.makeParentFor ready new
  obtain ⟨reached, made, written⟩ := perform_file_ok performed
  rw [made] at further
  exact further.write ready written

-- An artifact that is not written leaves new directories at most.
theorem Progress.perform_error {problem : Problem}
    (performed : now.perform (.file (base.join a.path) a.content) = (.error problem, after)) :
    Progress fresh disk after base moved [] := by
  have further := progress.makeParentFor ready new
  obtain ⟨_, _, made, same⟩ | ⟨_, _, made, _, same⟩ | ⟨_, _, _, _, same⟩ :=
    perform_file_cases now (base.join a.path) a.content
  · cases same.symm.trans performed
    rwa [made] at further
  · cases same.symm.trans performed
    rwa [made] at further
  · cases same.symm.trans performed

end Steps

theorem performAll_progress (ready : disk.Ready base (moved ++ rest))
    (new : ∀ place, disk.NewFor base rest place → fresh place)
    (progress : Progress fresh disk now base moved []) :
    match now.performAll (fileSteps base rest) with
    | (.ok (), after) => Progress fresh disk after base (moved ++ rest) []
    | (.error _, after) => ∃ done left, rest = done ++ left ∧
        Progress fresh disk after base (moved ++ done) [] := by
  induction rest generalizing now moved with
  | nil =>
    rw [fileSteps, List.map_nil, performAll, List.append_nil]
    exact progress
  | cons a rest ih =>
    have next : disk.Ready base ((moved ++ [a]) ++ rest) := by rwa [← List.append_cons]
    have split : fileSteps base (a :: rest) =
        .file (base.join a.path) a.content :: fileSteps base rest := rfl
    have there : ∀ place, disk.NewFor base rest place → fresh place := by
      rintro place ⟨b, inside, found⟩
      exact new place ⟨b, List.mem_cons_of_mem _ inside, found⟩
    rw [split, performAll]
    cases run : now.perform (.file (base.join a.path) a.content) with
    | mk result reached =>
      cases result with
      | error problem =>
        have stuck := progress.perform_error ready new run
        exact ⟨[], a :: rest, rfl, by rwa [List.append_nil]⟩
      | ok done =>
        have others := ih next there (progress.perform_ok ready new run)
        simp only
        cases performed : reached.performAll (fileSteps base rest) with
        | mk result last =>
          rw [performed] at others
          cases result with
          | ok done => rwa [List.append_cons]
          | error problem =>
            obtain ⟨done, left, rfl, progressed⟩ := others
            exact ⟨a :: done, left, rfl, by rwa [List.append_cons]⟩

theorem writeDirect_outcome (ready : disk.Ready base artifacts) :
    match disk.writeDirect base artifacts with
    | (.ok written, after) => written = targets base artifacts ∧
        Wrote disk after base artifacts artifacts
    | (.error _, after) => ∃ done left, artifacts = done ++ left ∧
        Wrote disk after base artifacts done := by
  have alone : disk.Ready base ([] ++ artifacts) := ready
  have performed := performAll_progress alone (fun _ new => new) progress_begin
  unfold writeDirect
  simp only
  cases run : disk.performAll (fileSteps base artifacts) with
  | mk result reached =>
    rw [run] at performed
    rw [show (artifacts.map fun artifact => Step.file (base.join artifact.path) artifact.content) =
      fileSteps base artifacts from rfl, run]
    cases result with
    | ok done => exact ⟨rfl, performed.wrote⟩
    | error problem =>
      obtain ⟨done, left, order, progressed⟩ := performed
      exact ⟨done, left, order, progressed.wrote⟩

-- Either way of writing ends with some of the first artifacts written, with all of them on success.
theorem writeArtifacts_outcome (ready : disk.Ready base artifacts) (mode : WriteMode) :
    match disk.writeArtifacts base artifacts mode with
    | (.ok written, after) => written = targets base artifacts ∧
        Wrote disk after base artifacts artifacts
    | (.error _, after) => ∃ done left, artifacts = done ++ left ∧
        Wrote disk after base artifacts done := by
  cases mode with
  | direct => exact writeDirect_outcome ready
  | staged =>
    have outcome := writeStaged_outcome ready
    unfold writeArtifacts
    simp only
    cases run : disk.writeStaged base artifacts with
    | mk result after =>
      rw [run] at outcome
      cases result with
      | ok written => exact ⟨outcome.1, outcome.2.2⟩
      | error problem =>
        rcases outcome with ⟨_, wrote⟩ | ⟨_, moved, stuck, rest, order, _, _, wrote⟩
        · exact ⟨[], artifacts, rfl, wrote⟩
        · exact ⟨moved, stuck :: rest, order, wrote⟩

end SpringSkeleton.Disk
