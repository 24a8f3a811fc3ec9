import SpringSkeleton.Proofs.Tree.Overlay

namespace SpringSkeleton.Disk
variable {disk now after : Disk} {done rest : List Step} {place : Location}

def written? (disk : Disk) : Step → Option (Location × String)
  | .directory _ => none
  | .file path content => some (disk.placeOf path, content)

-- What stands at a place after some steps, if they write there: the last text wins.
def lastWritten? (disk : Disk) (steps : List Step) (place : Location) : Option String :=
  (steps.filterMap disk.written?).reverse.lookup place

theorem lastWritten?_directory (path : Path) :
    disk.lastWritten? (done ++ [.directory path]) place = disk.lastWritten? done place := by
  have none : [Step.directory path].filterMap disk.written? = [] := rfl
  rw [lastWritten?, lastWritten?, List.filterMap_append, none, List.append_nil]

theorem lastWritten?_file (path : Path) (content : String) :
    disk.lastWritten? (done ++ [.file path content]) place =
      if place = disk.placeOf path then some content else disk.lastWritten? done place := by
  have one : [Step.file path content].filterMap disk.written? = [(disk.placeOf path, content)] := rfl
  rw [lastWritten?, lastWritten?, List.filterMap_append, one, List.reverse_append, List.reverse_singleton,
    List.singleton_append, List.lookup_cons]
  by_cases here : place = disk.placeOf path
  · simp [here]
  · have other : (place == disk.placeOf path) = false := by simpa using here
    simp [other, here]

theorem mem_of_lastWritten? {steps : List Step} {text : String}
    (last : disk.lastWritten? steps place = some text) :
    ∃ path, .file path text ∈ steps ∧ disk.placeOf path = place := by
  obtain ⟨front, back, parted, _⟩ := List.lookup_eq_some_iff.mp last
  have listed : (place, text) ∈ steps.filterMap disk.written? := List.mem_reverse.mp (by simp [parted])
  obtain ⟨step, member, writes⟩ := List.mem_filterMap.mp listed
  cases step with
  | directory path => cases writes
  | file path content =>
    cases writes
    exact ⟨path, member, rfl⟩

theorem lastWritten?_of_mem (disk : Disk) {steps : List Step} {path : Path} {content : String}
    (member : .file path content ∈ steps) :
    ∃ text, disk.lastWritten? steps (disk.placeOf path) = some text := by
  refine Option.ne_none_iff_exists'.mp fun none => ?_
  have listed : (disk.placeOf path, content) ∈ (steps.filterMap disk.written?).reverse :=
    List.mem_reverse.mpr (List.mem_filterMap.mpr ⟨_, member, rfl⟩)
  have other := List.lookup_eq_none_iff.mp none _ listed
  simp at other

-- The steps are done, and nothing else is.
structure Performed (disk after : Disk) (done : List Step) : Prop where
  workingDirectory : after.workingDirectory = disk.workingDirectory
  written : ∀ place text, disk.lastWritten? done place = some text →
    after.tree.node? place = some (.file (.text text))
  others : ∀ place, disk.lastWritten? done place = none →
    after.tree.node? place = disk.tree.node? place ∨
      disk.tree.node? place = none ∧ after.tree.node? place = some .directory
  reaches : ∀ path content, .file path content ∈ done → after.Reaches path

theorem performed_nil : Performed disk disk [] :=
  ⟨rfl, fun _ _ some => (nomatch some), fun _ _ => .inl rfl, fun _ _ member => (nomatch member)⟩

theorem Performed.linkFree (performed : Performed disk now done) (linkFree : disk.tree.LinkFree) :
    now.tree.LinkFree := by
  intro place target stands
  cases last : disk.lastWritten? done place with
  | some text =>
    rw [performed.written place text last] at stands
    cases stands
  | none =>
    rcases performed.others place last with same | ⟨_, made⟩
    · exact linkFree place target (same ▸ stands)
    · rw [made] at stands
      cases stands

theorem Performed.enlarge {fresh : Location → Prop} (performed : Performed disk now done)
    (grown : Enlarges fresh now after) : Performed disk after done := by
  refine ⟨grown.workingDirectory.trans performed.workingDirectory, ?_, ?_, ?_⟩
  · intro place text last
    exact grown.grows.keeps (performed.written place text last)
  · intro place last
    rcases grown.grows place with same | ⟨none, made, _⟩
    · rw [same]
      exact performed.others place last
    · rcases performed.others place last with same | ⟨_, stood⟩
      · exact .inr ⟨same ▸ none, made⟩
      · rw [stood] at none
        cases none
  · intro path content member
    exact (performed.reaches path content member).mono grown.workingDirectory
      fun _ stands => grown.grows.keeps stands

theorem Performed.directory (performed : Performed disk now done) (path : Path) :
    Performed disk now (done ++ [.directory path]) := by
  refine ⟨performed.workingDirectory, ?_, ?_, ?_⟩
  · intro place text last
    rw [lastWritten?_directory] at last
    exact performed.written place text last
  · intro place last
    rw [lastWritten?_directory] at last
    exact performed.others place last
  · intro other content member
    exact performed.reaches other content (by simpa using member)

theorem Performed.file (performed : Performed disk now done) (linkFree : disk.tree.LinkFree) {path : Path}
    {content : String} (written : now.writeFile path (.text content) = .ok after) :
    Performed disk after (done ++ [.file path content]) := by
  obtain ⟨reaches, unused, rfl⟩ := writeFile_ok (performed.linkFree linkFree) written
  have somewhere : now.placeOf path ≠ [] := reaches.placeOf_ne_nil
  have node : ∀ place, (now.withTree (now.tree.put (now.placeOf path) (.file (.text content)))).tree.node?
      place = if place = disk.placeOf path then some (.file (.text content)) else now.tree.node? place := by
    intro place
    rw [withTree_tree, Tree.node?_put _ somewhere, placeOf_congr performed.workingDirectory]
  have kept : ∀ place, now.tree.node? place = some .directory →
      (now.withTree (now.tree.put (now.placeOf path) (.file (.text content)))).tree.node? place =
        some .directory := fun _ stands => Tree.put_keeps somewhere unused _ stands
  refine ⟨performed.workingDirectory, ?_, ?_, ?_⟩
  · intro place text last
    rw [lastWritten?_file] at last
    rw [node]
    split at last
    · rename_i here
      cases last
      exact if_pos here
    · rename_i elsewhere
      rw [if_neg elsewhere]
      exact performed.written place text last
  · intro place last
    rw [lastWritten?_file] at last
    rw [node]
    split at last
    · cases last
    · rename_i elsewhere
      rw [if_neg elsewhere]
      exact performed.others place last
  · intro other text member
    rcases List.mem_append.mp member with earlier | here
    · exact (performed.reaches other text earlier).mono rfl kept
    · cases List.mem_singleton.mp here
      exact reaches.mono rfl kept

theorem Performed.step (performed : Performed disk now done) (linkFree : disk.tree.LinkFree) (step : Step) :
    match now.perform step with
    | (.ok (), after) => Performed disk after (done ++ [step])
    | (.error _, after) => Performed disk after done := by
  have free := performed.linkFree linkFree
  cases step with
  | directory path =>
    have grown := performed.enlarge (makeDirectoriesFor_enlarges free path)
    cases made : now.makeDirectoriesFor path with
    | mk result reached =>
      rw [made] at grown
      cases result with
      | error problem => simpa only [perform, made] using grown
      | ok _ => simpa only [perform, made] using grown.directory path
  | file path content =>
    have grown := performed.enlarge (makeParentFor_enlarges free path)
    obtain ⟨_, reached, made, same⟩ | ⟨_, reached, made, _, same⟩ | ⟨reached, last, made, written, same⟩ :=
      perform_file_cases now path content
    · rw [made] at grown
      rw [same]
      exact grown
    · rw [made] at grown
      rw [same]
      exact grown
    · rw [made] at grown
      rw [same]
      exact grown.file linkFree written

theorem performAll_further (linkFree : disk.tree.LinkFree) (performed : Performed disk now done) :
    match now.performAll rest with
    | (.ok (), after) => Performed disk after (done ++ rest)
    | (.error _, after) => ∃ more left, rest = more ++ left ∧ Performed disk after (done ++ more) := by
  induction rest generalizing now done with
  | nil =>
    rw [performAll, List.append_nil]
    exact performed
  | cons step rest ih =>
    have first := performed.step linkFree step
    unfold performAll
    cases run : now.perform step with
    | mk result reached =>
      rw [run] at first
      cases result with
      | error problem => exact ⟨[], step :: rest, rfl, by rwa [List.append_nil]⟩
      | ok _ =>
        have others := ih first
        simp only
        cases remaining : reached.performAll rest with
        | mk result last =>
          rw [remaining] at others
          cases result with
          | ok _ => rwa [List.append_cons]
          | error problem =>
            obtain ⟨more, left, rfl, further⟩ := others
            exact ⟨step :: more, left, rfl, by rwa [List.append_cons]⟩

-- A run that fails has done some of the first steps, one that succeeds all of them.
theorem performAll_performed (linkFree : disk.tree.LinkFree) (steps : List Step) :
    match disk.performAll steps with
    | (.ok (), after) => Performed disk after steps
    | (.error _, after) => ∃ done left, steps = done ++ left ∧ Performed disk after done :=
  performAll_further linkFree performed_nil

theorem performed_of_ok (linkFree : disk.tree.LinkFree) {steps : List Step}
    (run : disk.performAll steps = (.ok (), after)) : Performed disk after steps := by
  have performed := performAll_performed linkFree steps
  rwa [run] at performed

-- Whatever stops a run, it is a problem of the disk.
theorem performAll_problem {problem : Problem}
    (failed : disk.performAll rest = (.error problem, after)) : problem.kind = .fileSystem := by
  induction rest generalizing disk with
  | nil => cases failed
  | cons step rest ih =>
    unfold performAll at failed
    split at failed
    · rename_i run
      cases failed
      cases step with
      | directory path =>
        obtain ⟨_, rfl⟩ := makeDirectoriesFor_error run
        rfl
      | file path content =>
        obtain ⟨_, _, made, same⟩ | ⟨_, _, _, _, same⟩ | ⟨_, _, _, _, same⟩ := perform_file_cases disk path content
        · cases same.symm.trans run
          obtain ⟨_, _, _, rfl⟩ := makeParentFor_error made
          rfl
        · cases same.symm.trans run
          rfl
        · cases same.symm.trans run
    · exact ih failed

end SpringSkeleton.Disk
