import Mathlib.Data.List.Basic
import SpringSkeleton.Proofs.Path.Steps

namespace SpringSkeleton.Path

def Component.ofStep (step : String) : Component := if step = ".." then .up else .name step

theorem filterMap_component? (pieces : List String) :
    pieces.filterMap component? = (named pieces).map Component.ofStep := by
  induction pieces with
  | nil => rfl
  | cons piece rest ih =>
    by_cases idle : isIdle piece = true
    · have passed : component? piece = none := by
        simp only [component?, isIdle] at idle ⊢
        simp [idle]
      simp [named, idle, passed, ih]
    · have idle : isIdle piece = false := by simpa using idle
      have kept : component? piece = some (.ofStep piece) := by
        simp only [component?, isIdle, Component.ofStep] at idle ⊢
        by_cases up : piece = ".." <;> simp [idle, up]
      simp [named, idle, kept, ih]

theorem leadingComponents_cases (pieces : List String) : leadingComponents pieces = [] ∨
    leadingComponents pieces = [.root] ∨ leadingComponents pieces = [.here] := by
  unfold leadingComponents
  split <;> simp

theorem components_eq (path : Path) : path.components =
    leadingComponents (Text.pieces '/' path.text) ++ path.steps.map .ofStep := by
  rw [components, filterMap_component?, steps]

-- A path has the root among its components exactly when it is absolute.
theorem leads_iff (path : Path) :
    leadingComponents (Text.pieces '/' path.text) = [.root] ↔ path.isAbsolute = true := by
  constructor
  · intro lead
    unfold leadingComponents at lead
    split at lead
    · rename_i next more parts
      have whole : path.text.toList = (Text.joined '/' ("" :: next :: more)).toList := by
        rw [← parts, Text.joined_pieces]
      rw [Text.joined_cons] at whole
      simp [isAbsolute, whole]
    · simp at lead
    · simp at lead
  · intro absolute
    cases chars : path.text.toList with
    | nil => simp [isAbsolute, chars] at absolute
    | cons c rest =>
      have slash : c = '/' := by simpa [isAbsolute, chars] using absolute
      have parted : path.text.toList = "".toList ++ '/' :: (String.ofList rest).toList := by
        simp [chars, slash]
      rw [Text.pieces_of_cut parted]
      cases more : Text.pieces '/' (String.ofList rest) with
      | nil => exact absurd more (Text.pieces_ne_nil _)
      | cons next others => rfl

theorem components_of_absolute {path : Path} (absolute : path.isAbsolute = true) :
    path.components = .root :: path.steps.map .ofStep := by
  rw [components_eq, (leads_iff path).mpr absolute]
  rfl

theorem components_of_relative {path : Path} (relative : path.isAbsolute = false) :
    path.components.filter (· ≠ .here) = path.steps.map .ofStep := by
  have kept : (path.steps.map Component.ofStep).filter (· ≠ .here) = path.steps.map .ofStep := by
    refine List.filter_eq_self.mpr fun part member => ?_
    obtain ⟨step, _, rfl⟩ := List.mem_map.mp member
    by_cases up : step = ".." <;> simp [Component.ofStep, up]
  rw [components_eq, List.filter_append, kept]
  rcases leadingComponents_cases (Text.pieces '/' path.text) with lead | lead | lead
  · simp [lead]
  · rw [(leads_iff path).mp lead] at relative
    cases relative
  · simp [lead]

theorem up_mem_components {path : Path} : .up ∈ path.components ↔ ".." ∈ path.steps := by
  have body : Component.up ∈ path.steps.map .ofStep ↔ ".." ∈ path.steps := by
    rw [List.mem_map]
    constructor
    · rintro ⟨step, member, same⟩
      by_cases up : step = ".."
      · exact up ▸ member
      · simp [Component.ofStep, up] at same
    · intro member
      exact ⟨"..", member, rfl⟩
  rw [components_eq, List.mem_append, body]
  rcases leadingComponents_cases (Text.pieces '/' path.text) with lead | lead | lead <;> simp [lead]

theorem root_mem_components {path : Path} : .root ∈ path.components ↔ path.isAbsolute = true := by
  have body : Component.root ∉ path.steps.map .ofStep := by
    rw [List.mem_map]
    rintro ⟨step, _, same⟩
    by_cases up : step = ".." <;> simp [Component.ofStep, up] at same
  rw [components_eq, List.mem_append, or_iff_left body, ← leads_iff]
  rcases leadingComponents_cases (Text.pieces '/' path.text) with lead | lead | lead <;> simp [lead]

-- A path that goes down, if anywhere, from wherever it is joined to.
structure Downward (path : Path) : Prop where
  relative : path.isAbsolute = false
  down : .up ∉ path.components

theorem Downward.steps {path : Path} (downward : path.Downward) : ".." ∉ path.steps :=
  fun up => downward.down (up_mem_components.mpr up)

theorem downward_iff {path : Path} :
    path.Downward ↔ path.isAbsolute = false ∧ ".." ∉ path.steps :=
  ⟨fun downward => ⟨downward.relative, downward.steps⟩,
    fun ⟨relative, down⟩ => ⟨relative, fun up => down (up_mem_components.mp up)⟩⟩

theorem IsName.downward {name : String} (isName : IsName name) : Downward ⟨name⟩ := by
  refine downward_iff.mpr ⟨isName.relative, ?_⟩
  rw [isName.steps]
  intro up
  exact isName.down (List.mem_singleton.mp up).symm

-- Components that are all names are the steps.
theorem downward_of_components {path : Path} {names : List String} (some : names ≠ [])
    (plain : path.components = names.map .name) : path.Downward ∧ path.steps = names := by
  have relative : path.isAbsolute = false := by
    by_contra absolute
    have rooted := components_of_absolute (by simpa using absolute)
    cases names with
    | nil => exact some rfl
    | cons name rest => simp [rooted] at plain
  have down : .up ∉ path.components := by
    rw [plain]
    simp
  have whole := components_of_relative relative
  have named : (names.map Component.name).filter (· ≠ .here) = names.map .name :=
    List.filter_eq_self.mpr (by simp)
  rw [plain, named] at whole
  have downward : path.Downward := ⟨relative, down⟩
  have kept : path.steps.map Component.ofStep = path.steps.map .name := by
    refine List.map_congr_left fun step member => if_neg ?_
    rintro rfl
    exact downward.steps member
  rw [kept] at whole
  have injective : Function.Injective Component.name := fun _ _ equal => by injection equal
  exact ⟨downward, (List.map_injective_iff.mpr injective whole).symm⟩

-- Two names joined are those two components.
theorem components_join_names {first second : String} (one : IsName first)
    (two : IsName second) :
    (join ⟨first⟩ ⟨second⟩).components = [.name first, .name second] := by
  have none : first ≠ "" := by
    rintro rfl
    exact absurd one.busy (by decide)
  have here : first ≠ "." := by
    rintro rfl
    exact absurd one.busy (by decide)
  have plain : ∀ {name : String}, IsName name → component? name = some (.name name) := by
    intro name isName
    have busy := isName.busy
    simp only [isIdle] at busy
    simp [component?, busy, isName.down]
  have pieces : Text.pieces '/' (join ⟨first⟩ ⟨second⟩).text = [first, second] := by
    obtain ⟨front, last, whole, base, ending⟩ := join_text ⟨first⟩ two.relative none
    have closed : last = [] := by
      rcases ending with rfl | rfl
      · rfl
      · exact absurd (by simp [base]) one.whole
    have parted : (join ⟨first⟩ ⟨second⟩).text.toList =
        first.toList ++ '/' :: second.toList := by
      rw [whole, base, closed, List.append_nil]
    rw [Text.pieces_of_cut parted, one.pieces, two.pieces]
    rfl
  rw [components, pieces]
  simp [leadingComponents, none, here, plain one, plain two]

theorem absoluteStart_cases (workingDirectory path : Path) :
    path.isAbsolute = true ∧
      (absoluteStart workingDirectory path = (⟨""⟩, .root :: path.steps.map .ofStep) ∨
        absoluteStart workingDirectory path = (⟨"//"⟩, path.steps.map .ofStep)) ∨
    path.isAbsolute = false ∧
      absoluteStart workingDirectory path = (workingDirectory, path.steps.map .ofStep) := by
  unfold absoluteStart
  split
  · rename_i rest chars
    have absolute : path.isAbsolute = true := by simp [isAbsolute, chars]
    exact .inl ⟨absolute, .inl (by rw [components_of_absolute absolute])⟩
  · rename_i rest _ chars
    have absolute : path.isAbsolute = true := by simp [isAbsolute, chars]
    exact .inl ⟨absolute, .inr (by rw [components_of_absolute absolute]; rfl)⟩
  · rename_i rest _ _ chars
    have absolute : path.isAbsolute = true := by simp [isAbsolute, chars]
    exact .inl ⟨absolute, .inl (by rw [components_of_absolute absolute])⟩
  · rename_i _ _ other
    have relative : path.isAbsolute = false := by
      cases chars : path.text.toList with
      | nil => simp [isAbsolute, chars]
      | cons c rest =>
        have plain : c ≠ '/' := fun slash => other rest (slash ▸ chars)
        simp [isAbsolute, chars, plain]
    exact .inr ⟨relative, by rw [components_of_relative relative]⟩

theorem steps_ofStep {path : Path} {step : String} (member : step ∈ path.steps) :
    (Component.ofStep step).path.isAbsolute = false ∧ (Component.ofStep step).path.steps = [step] := by
  by_cases up : step = ".."
  · subst up
    exact ⟨by decide, by simp [Component.ofStep, Component.path, Path.steps, Text.pieces, Text.cut, named, isIdle]⟩
  · have isName := isName_of_mem_steps member up
    rw [Component.ofStep, if_neg up]
    exact ⟨isName.relative, isName.steps⟩

theorem steps_slashes (count : Nat) : Path.steps ⟨String.ofList (List.replicate count '/')⟩ = [] := by
  unfold Path.steps Text.pieces
  rw [String.toList_ofList]
  induction count with
  | zero => simp [Text.cut, named, isIdle]
  | succ count ih =>
    rw [List.replicate_succ, Text.cut, if_pos rfl, List.map_cons]
    exact ih

-- Steps joined one by one.
def gather (start : Path) (names : List String) : Path :=
  (names.map Component.ofStep).foldl (fun gathered part => gathered.join part.path) start

theorem gather_parts (start : Path) {names : List String}
    (each : ∀ step ∈ names, (Component.ofStep step).path.isAbsolute = false ∧
      (Component.ofStep step).path.steps = [step]) :
    (gather start names).steps = start.steps ++ names ∧
      (gather start names).isAbsolute = start.isAbsolute := by
  induction names generalizing start with
  | nil => exact ⟨(List.append_nil _).symm, rfl⟩
  | cons step rest ih =>
    obtain ⟨relative, steps⟩ := each step List.mem_cons_self
    have next : gather start (step :: rest) = gather (start.join (Component.ofStep step).path) rest := rfl
    obtain ⟨whole, same⟩ := ih (start.join (Component.ofStep step).path)
      fun other member => each other (List.mem_cons_of_mem _ member)
    rw [steps_join start relative, steps, List.append_assoc] at whole
    rw [isAbsolute_join start relative] at same
    exact ⟨next ▸ whole, next ▸ same⟩

theorem absolute_eq (workingDirectory path : Path) : absolute workingDirectory path =
    if path.text.toList.getLast? == some '/' then
      ((absoluteStart workingDirectory path).2.foldl (fun gathered part => gathered.join part.path)
        (absoluteStart workingDirectory path).1).join ⟨""⟩
    else (absoluteStart workingDirectory path).2.foldl (fun gathered part => gathered.join part.path)
      (absoluteStart workingDirectory path).1 := rfl

theorem absolute_parts {workingDirectory : Path} (rooted : workingDirectory.isAbsolute = true)
    (path : Path) : (absolute workingDirectory path).isAbsolute = true ∧
      (absolute workingDirectory path).steps =
        (if path.isAbsolute then [] else workingDirectory.steps) ++ path.steps := by
  have gathered : ∀ start : Path, (gather start path.steps).steps = start.steps ++ path.steps ∧
      (gather start path.steps).isAbsolute = start.isAbsolute :=
    fun start => gather_parts start fun _ => steps_ofStep
  obtain ⟨body, same, whole, leads⟩ : ∃ body : Path,
      absolute workingDirectory path =
        (if path.text.toList.getLast? == some '/' then body.join ⟨""⟩ else body) ∧
      body.steps = (if path.isAbsolute then [] else workingDirectory.steps) ++ path.steps ∧
      body.isAbsolute = true := by
    rw [absolute_eq]
    refine ⟨_, rfl, ?_⟩
    rcases absoluteStart_cases workingDirectory path with ⟨absolute, start | start⟩ | ⟨relative, start⟩
    · obtain ⟨steps, leads⟩ := gathered ⟨"/"⟩
      rw [show Path.steps ⟨"/"⟩ = [] from steps_slashes 1] at steps
      rw [start, absolute]
      exact ⟨steps, leads⟩
    · obtain ⟨steps, leads⟩ := gathered ⟨"//"⟩
      rw [show Path.steps ⟨"//"⟩ = [] from steps_slashes 2] at steps
      rw [start, absolute]
      exact ⟨steps, leads⟩
    · obtain ⟨steps, leads⟩ := gathered workingDirectory
      rw [start, relative]
      exact ⟨steps, leads.trans rooted⟩
  have nothing : Path.isAbsolute ⟨""⟩ = false := by decide
  rw [same]
  split
  · rw [steps_join body nothing, isAbsolute_join body nothing, steps_empty, List.append_nil]
    exact ⟨leads, whole⟩
  · exact ⟨leads, whole⟩

end SpringSkeleton.Path
