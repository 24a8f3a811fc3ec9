import SpringSkeleton.Proofs.Text.Pieces
import SpringSkeleton.Tree.Route

namespace SpringSkeleton.Path

-- Pieces of a path that lead nowhere else.
def isIdle (piece : String) : Bool := piece == "" || piece == "."

def named (pieces : List String) : List String := pieces.filter fun piece => !isIdle piece

def steps (path : Path) : List String := named (Text.pieces '/' path.text)

-- A text that is one step down wherever it stands in a path.
structure IsName (name : String) : Prop where
  busy : isIdle name = false
  down : name ≠ ".."
  whole : '/' ∉ name.toList

theorem IsName.present {name : String} (h : IsName name) : name ≠ "" := by
  rintro rfl
  cases h.busy

theorem named_append (first second : List String) :
    named (first ++ second) = named first ++ named second :=
  List.filter_append first second

theorem ofText_steps (path : Path) : (Route.ofText path.text).steps = path.steps := by
  simp only [Route.ofText, steps, named, List.filter_filter]
  congr 1
  funext piece
  by_cases none : piece = "" <;> by_cases here : piece = "." <;> simp [isIdle, none, here]

theorem ofText_fromRoot (path : Path) : (Route.ofText path.text).fromRoot = path.isAbsolute := rfl

theorem IsName.pieces {name : String} (h : IsName name) : Text.pieces '/' name = [name] :=
  Text.pieces_of_not_mem h.whole

theorem IsName.steps {name : String} (h : IsName name) : Path.steps ⟨name⟩ = [name] := by
  simp [Path.steps, h.pieces, named, h.busy]

theorem IsName.relative {name : String} (h : IsName name) : Path.isAbsolute ⟨name⟩ = false := by
  unfold isAbsolute
  cases chars : name.toList with
  | nil => rfl
  | cons c rest =>
    have other : c ≠ '/' := fun same => h.whole (by simp [chars, same])
    simpa using other

theorem isName_of_mem_steps {path : Path} {step : String} (member : step ∈ path.steps)
    (down : step ≠ "..") : IsName step := by
  obtain ⟨piece, busy⟩ := List.mem_filter.mp member
  exact ⟨by simpa using busy, down, Text.not_mem_of_mem_pieces piece⟩

theorem steps_empty : Path.steps ⟨""⟩ = [] := by decide

theorem text_of_steps {path : Path} (somewhere : path.steps ≠ []) : path.text ≠ "" := by
  intro none
  rw [steps, none] at somewhere
  exact somewhere steps_empty

-- A character that neither separates nor names the place itself is in the text as it is in a step.
theorem mem_text_iff {path : Path} {c : Char} (slash : c ≠ '/') (dot : c ≠ '.') :
    c ∈ path.text.toList ↔ ∃ step ∈ path.steps, c ∈ step.toList := by
  have whole : Text.joined '/' (Text.pieces '/' path.text) = path.text := Text.joined_pieces path.text
  rw [← whole, Text.mem_joined slash]
  constructor
  · rintro ⟨piece, member, inside⟩
    refine ⟨piece, List.mem_filter.mpr ⟨member, ?_⟩, inside⟩
    have none : piece ≠ "" := by rintro rfl; simp at inside
    have here : piece ≠ "." := by rintro rfl; simp [dot] at inside
    simp [isIdle, none, here]
  · rintro ⟨step, member, inside⟩
    exact ⟨step, (List.mem_filter.mp member).1, inside⟩

-- Both ways of joining put the pieces of the second path after those of the first.
theorem join_text (base : Path) {path : Path} (relative : path.isAbsolute = false)
    (present : base.text ≠ "") :
    ∃ front last, (base.join path).text.toList = front ++ '/' :: path.text.toList ∧
      base.text.toList = front ++ last ∧ (last = [] ∨ last = ['/']) := by
  by_cases closed : base.text.toList.getLast? = some '/'
  · obtain ⟨front, whole⟩ := List.getLast?_eq_some_iff.mp closed
    exact ⟨front, ['/'], by simp [join, relative, present, whole], whole, .inr rfl⟩
  · exact ⟨base.text.toList, [], by simp [join, relative, present, closed], by simp, .inl rfl⟩

theorem steps_join (base : Path) {path : Path} (relative : path.isAbsolute = false) :
    (base.join path).steps = base.steps ++ path.steps := by
  by_cases none : base.text = ""
  · have empty : base.steps = [] := by rw [steps, none]; exact steps_empty
    simp [join, none, empty]
  · obtain ⟨front, last, whole, base_text, ending⟩ := join_text base relative none
    have parted : (base.join path).text.toList =
        (String.ofList front).toList ++ '/' :: path.text.toList := by rw [whole, String.toList_ofList]
    have front_steps : named (Text.pieces '/' (String.ofList front)) = base.steps := by
      rcases ending with rfl | rfl
      · have same : String.ofList front = base.text := by
          rw [← List.append_nil front, ← base_text, String.ofList_toList]
        rw [steps, same]
      · have closed : base.text.toList = (String.ofList front).toList ++ '/' :: "".toList := by
          simp [base_text]
        rw [steps, Text.pieces_of_cut closed, named_append]
        exact (List.append_nil _).symm
    rw [steps, Text.pieces_of_cut parted, named_append, front_steps]
    rfl

theorem isAbsolute_join (base : Path) {path : Path} (relative : path.isAbsolute = false) :
    (base.join path).isAbsolute = base.isAbsolute := by
  by_cases none : base.text = ""
  · have unmoved : base.isAbsolute = false := by simp [isAbsolute, none]
    simp [join, none, relative, unmoved]
  · obtain ⟨front, last, whole, base_text, ending⟩ := join_text base relative none
    cases front with
    | nil =>
      rcases ending with rfl | rfl
      · exact absurd (String.toList_eq_nil_iff.mp base_text) none
      · simp [isAbsolute, whole, base_text]
    | cons c rest => simp [isAbsolute, whole, base_text]

-- The last piece decides how a path ends: a plain path ends in a name.
theorem ending_plain_iff (path : Path) : (Route.ofText path.text).ending = .plain ↔
    ∃ last, (Text.pieces '/' path.text).getLast? = some last ∧ IsName last := by
  obtain ⟨front, last, parts⟩ : ∃ front last, Text.pieces '/' path.text = front ++ [last] :=
    ⟨_, _, (List.dropLast_concat_getLast (Text.pieces_ne_nil path.text)).symm⟩
  have whole : '/' ∉ last.toList := Text.not_mem_of_mem_pieces (s := path.text) (by simp [parts])
  by_cases none : last = ""
  · have open_ : (Route.ofText path.text).ending ≠ .plain := by
      simp only [Route.ofText, parts, none]
      split
      · simp
      · split <;> simp
    have no : ¬ IsName last := fun h => by simpa [isIdle, none] using h.busy
    simp [open_, parts, no]
  · by_cases dots : last = "." ∨ last = ".."
    · have open_ : (Route.ofText path.text).ending ≠ .plain := by
        simp [Route.ofText, parts, none, dots]
      have no : ¬ IsName last := fun h => by
        rcases dots with same | same
        · simpa [isIdle, same] using h.busy
        · exact h.down same
      simp [open_, parts, no]
    · obtain ⟨here, up⟩ := not_or.mp dots
      have yes : IsName last := ⟨by simp [isIdle, none, here], up, whole⟩
      simp [Route.ofText, parts, none, here, up, yes]

-- A path that does not end in dots ends in a step down, whatever slashes follow.
theorem steps_of_ending {path : Path} (open_ : (Route.ofText path.text).ending ≠ .dots) :
    ∃ front last, path.steps = front ++ [last] ∧ IsName last := by
  cases found : ((Text.pieces '/' path.text).filter (· ≠ "")).getLast? with
  | none =>
    have closed : (Route.ofText path.text).ending = .dots := by simp only [Route.ofText, found]
    exact absurd closed open_
  | some last =>
    obtain ⟨front, parts⟩ := List.getLast?_eq_some_iff.mp found
    by_cases dots : last = "." ∨ last = ".."
    · have closed : (Route.ofText path.text).ending = .dots := by
        simp only [Route.ofText, found, dots, if_true]
      exact absurd closed open_
    · obtain ⟨here, up⟩ := not_or.mp dots
      have order : path.steps = front.filter (· ≠ ".") ++ [last] := by
        rw [← ofText_steps, Route.ofText, parts, List.filter_append]
        simp [here]
      have member : last ∈ path.steps := by simp [order]
      exact ⟨_, last, order, isName_of_mem_steps member up⟩

-- From here on steps are known by the lemmas above; computing those of an open path leads nowhere.
attribute [irreducible] steps

end SpringSkeleton.Path
