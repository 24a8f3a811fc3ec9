import Mathlib.Data.List.DropRight
import SpringSkeleton.Proofs.Path.Components

namespace SpringSkeleton.Path

theorem trimPieces_eq (pieces : List String) : trimPieces pieces = pieces.rdropWhile isIdle := rfl

theorem trimPieces_initial (pieces : List String) : trimPieces pieces <+: pieces := by
  rw [trimPieces_eq]
  exact List.rdropWhile_prefix ..

theorem named_trimPieces (pieces : List String) : named (trimPieces pieces) = named pieces := by
  rw [trimPieces_eq]
  induction pieces using List.reverseRecOn with
  | nil => rfl
  | append_singleton front last ih =>
    by_cases idle : isIdle last = true
    · rw [List.rdropWhile_concat_pos _ _ _ idle, ih, named_append]
      simp [named, idle]
    · rw [List.rdropWhile_concat_neg _ _ _ idle]

-- What is left after trimming ends in a piece that names something.
theorem trimPieces_last {pieces front : List String} {last : String}
    (parts : trimPieces pieces = front ++ [last]) : isIdle last = false := by
  have present : pieces.rdropWhile isIdle ≠ [] := by simp [← trimPieces_eq, parts]
  have busy := List.rdropWhile_last_not isIdle pieces present
  simpa only [← trimPieces_eq, parts, List.getLast_concat, Bool.not_eq_true] using busy

-- How the beginning of a path, taken off by `split`, can go together with the pieces after it.
inductive Lead : String → List String → Prop where
  | root (pieces : List String) : Lead "/" pieces
  | here : Lead "." []
  | hereAnd (piece : String) (more : List String) : Lead "." ("" :: piece :: more)
  | none : Lead "" []
  | bare (piece : String) (more : List String) (present : piece ≠ "") : Lead "" (piece :: more)

theorem split_cases (path : Path) :
    (∃ piece rest, path.split = ("/", piece :: rest) ∧
      Text.pieces '/' path.text = "" :: piece :: rest) ∨
    (path.split = (".", []) ∧ Text.pieces '/' path.text = ["."]) ∨
    (∃ piece rest, path.split = (".", "" :: piece :: rest) ∧
      Text.pieces '/' path.text = "." :: piece :: rest) ∨
    (path.split = ("", [""]) ∧ Text.pieces '/' path.text = [""]) ∨
    (∃ piece rest, path.split = ("", piece :: rest) ∧ piece ≠ "" ∧
      Text.pieces '/' path.text = piece :: rest) := by
  unfold split
  split
  · rename_i piece rest found
    exact .inl ⟨piece, rest, rfl, found⟩
  · rename_i rest found
    cases rest with
    | nil => exact .inr (.inl ⟨rfl, found⟩)
    | cons piece more => exact .inr (.inr (.inl ⟨piece, more, rfl, found⟩))
  · rename_i pieces rooted _
    cases found : Text.pieces '/' path.text with
    | nil => exact absurd found (Text.pieces_ne_nil path.text)
    | cons piece rest =>
      by_cases none : piece = ""
      · cases rest with
        | nil => exact .inr (.inr (.inr (.inl (by simp [none]))))
        | cons next more => exact absurd found (none ▸ rooted next more)
      · exact .inr (.inr (.inr (.inr ⟨piece, rest, rfl, none, rfl⟩)))

theorem split_text (path : Path) : path.text = path.split.1 ++ Text.joined '/' path.split.2 := by
  have whole : Text.joined '/' (Text.pieces '/' path.text) = path.text := Text.joined_pieces path.text
  apply String.toList_injective
  rcases split_cases path with ⟨piece, rest, same, found⟩ | ⟨same, found⟩ |
    ⟨piece, rest, same, found⟩ | ⟨same, found⟩ | ⟨piece, rest, same, _, found⟩
  all_goals rw [← whole, found, same]
  · simp [Text.joined_cons]
  · rfl
  · simp [Text.joined_cons]
  · rfl
  · simp

theorem split_named (path : Path) : named path.split.2 = path.steps := by
  rcases split_cases path with ⟨piece, rest, same, found⟩ | ⟨same, found⟩ |
    ⟨piece, rest, same, found⟩ | ⟨same, found⟩ | ⟨piece, rest, same, _, found⟩
  all_goals rw [steps, found, same]
  all_goals rfl

theorem split_clean (path : Path) {piece : String} (member : piece ∈ path.split.2) :
    '/' ∉ piece.toList := by
  have among : piece = "" ∨ piece ∈ Text.pieces '/' path.text := by
    rcases split_cases path with ⟨first, rest, same, found⟩ | ⟨same, found⟩ |
      ⟨first, rest, same, found⟩ | ⟨same, found⟩ | ⟨first, rest, same, _, found⟩
    all_goals
      rw [same] at member
      rw [found]
      simp only [List.mem_cons] at member ⊢
      tauto
  rcases among with rfl | among
  · simp
  · exact Text.not_mem_of_mem_pieces among

theorem Lead.steps {lead : String} {pieces : List String} (fits : Lead lead pieces)
    (clean : ∀ piece ∈ pieces, '/' ∉ piece.toList) :
    Path.steps ⟨lead ++ Text.joined '/' pieces⟩ = named pieces := by
  unfold Path.steps
  cases fits with
  | root =>
    cases pieces with
    | nil => decide
    | cons piece more =>
      have parted : ("/" ++ Text.joined '/' (piece :: more)).toList =
          "".toList ++ '/' :: (Text.joined '/' (piece :: more)).toList := by simp
      rw [Text.pieces_of_cut parted, named_append, Text.pieces_joined (by simp) clean]
      rfl
  | here => decide
  | hereAnd piece more =>
    have parted : ("." ++ Text.joined '/' ("" :: piece :: more)).toList =
        ".".toList ++ '/' :: (Text.joined '/' (piece :: more)).toList := by simp [Text.joined_cons]
    have clean : ∀ other ∈ piece :: more, '/' ∉ other.toList :=
      fun other member => clean other (List.mem_cons_of_mem _ member)
    rw [Text.pieces_of_cut parted, named_append, Text.pieces_joined (by simp) clean]
    rfl
  | none => decide
  | bare piece more => rw [String.empty_append, Text.pieces_joined (by simp) clean]

theorem Lead.isAbsolute {lead : String} {pieces : List String} (fits : Lead lead pieces)
    (clean : ∀ piece ∈ pieces, '/' ∉ piece.toList) :
    Path.isAbsolute ⟨lead ++ Text.joined '/' pieces⟩ = (lead == "/") := by
  cases fits with
  | root => simp [Path.isAbsolute]
  | here => decide
  | hereAnd piece more => simp [Path.isAbsolute]
  | none => decide
  | bare piece more present =>
    cases chars : piece.toList with
    | nil => exact absurd (String.toList_eq_nil_iff.mp chars) present
    | cons c rest =>
      have other : c ≠ '/' := by
        have := clean piece List.mem_cons_self
        rintro rfl
        simp [chars] at this
      have first : (Text.joined '/' (piece :: more)).toList.head? = some c := by
        cases more with
        | nil => simp [Text.joined, Text.glue, chars]
        | cons next others => simp [Text.joined_cons, chars]
      simp [Path.isAbsolute, first, other]

-- Trimming the pieces before the last one leaves a body that still goes with the beginning.
theorem lead_trimmed {path : Path} {front : List String} {last : String}
    (body : trimPieces path.split.2 = front ++ [last]) : Lead path.split.1 (trimPieces front) := by
  have before : trimPieces front <+: path.split.2 :=
    (trimPieces_initial front).trans
      ((List.prefix_append front [last]).trans (body ▸ trimPieces_initial path.split.2))
  rcases split_cases path with ⟨piece, rest, same, _⟩ | ⟨same, _⟩ | ⟨piece, rest, same, _⟩ |
    ⟨same, _⟩ | ⟨piece, rest, same, present, _⟩
  all_goals rw [same] at body before ⊢
  · exact .root _
  · simp [trimPieces] at body
  · cases inner : trimPieces front with
    | nil => exact .here
    | cons first more =>
      have idle : first = "" := (List.cons_prefix_cons.mp (inner ▸ before)).1
      cases more with
      | nil =>
        have parts : trimPieces front = [] ++ [first] := inner
        simpa [idle, isIdle] using trimPieces_last parts
      | cons next others => exact idle ▸ .hereAnd next others
  · simp [trimPieces, List.dropWhile] at body
  · cases inner : trimPieces front with
    | nil => exact .none
    | cons first more =>
      have kept : first = piece := (List.cons_prefix_cons.mp (inner ▸ before)).1
      exact .bare first more (kept ▸ present)

theorem split_isAbsolute (path : Path) : path.isAbsolute = (path.split.1 == "/") := by
  have whole := split_text path
  have lead : Lead path.split.1 path.split.2 ∨ path.split = ("", [""]) := by
    rcases split_cases path with ⟨piece, rest, same, _⟩ | ⟨same, _⟩ | ⟨piece, rest, same, _⟩ |
      ⟨same, _⟩ | ⟨piece, rest, same, present, _⟩
    · exact .inl (same ▸ .root _)
    · exact .inl (same ▸ .here)
    · exact .inl (same ▸ .hereAnd piece rest)
    · exact .inr same
    · exact .inl (same ▸ .bare piece rest present)
  rcases lead with lead | same
  · have absolute := lead.isAbsolute fun _ member => split_clean path member
    rwa [← whole] at absolute
  · simp [isAbsolute, whole, same, Text.joined, Text.glue]

theorem parent?_eq (path : Path) : path.parent? =
    match trimPieces path.split.2 with
    | [] => if path.split.1 = "." then some ⟨""⟩ else none
    | body => some ⟨path.split.1 ++ Text.joined '/' (trimPieces body.dropLast)⟩ := rfl

theorem parent?_of_trimmed {path : Path} {front : List String} {last : String}
    (body : trimPieces path.split.2 = front ++ [last]) :
    path.parent? = some ⟨path.split.1 ++ Text.joined '/' (trimPieces front)⟩ := by
  rw [parent?_eq, body]
  split
  · rename_i none
    exact absurd none (by simp)
  · simp

theorem parent?_of_nothing {path : Path} (body : trimPieces path.split.2 = []) :
    path.parent? = if path.split.1 = "." then some ⟨""⟩ else none := by
  rw [parent?_eq, body]

-- The parent is the path without its last step.
structure IsParent (parent path : Path) : Prop where
  steps : parent.steps = path.steps.dropLast
  isAbsolute : parent.isAbsolute = path.isAbsolute

theorem parent?_isParent {path parent : Path} (found : path.parent? = some parent) :
    parent.IsParent path := by
  cases body : trimPieces path.split.2 using List.reverseRecOn with
  | nil =>
    rw [parent?_of_nothing body] at found
    split at found
    · rename_i dot
      cases found
      have none : path.steps = [] := by rw [← split_named, ← named_trimPieces, body]; rfl
      refine ⟨by rw [none]; exact steps_empty, ?_⟩
      rw [split_isAbsolute path, dot]
      decide
    · cases found
  | append_singleton front last =>
    rw [parent?_of_trimmed body] at found
    cases found
    have lead := lead_trimmed body
    have among : trimPieces front <+: path.split.2 :=
      (trimPieces_initial front).trans
        ((List.prefix_append front [last]).trans (body ▸ trimPieces_initial path.split.2))
    have clean : ∀ piece ∈ trimPieces front, '/' ∉ piece.toList :=
      fun piece member => split_clean path (among.subset member)
    have busy : named [last] = [last] := by simp [named, trimPieces_last body]
    refine ⟨?_, ?_⟩
    · rw [lead.steps clean, named_trimPieces, ← split_named, ← named_trimPieces path.split.2, body,
        named_append, busy, List.dropLast_concat]
    · rw [lead.isAbsolute clean, split_isAbsolute]

theorem steps_of_parent?_none {path : Path} (none : path.parent? = none) : path.steps = [] := by
  cases body : trimPieces path.split.2 using List.reverseRecOn with
  | nil => rw [← split_named, ← named_trimPieces, body]; rfl
  | append_singleton front last =>
    rw [parent?_of_trimmed body] at none
    cases none

theorem fileName?_eq_some_iff {path : Path} {name : String} :
    path.fileName? = some name ↔ path.steps.getLast? = some name ∧ name ≠ ".." := by
  have parts := components_eq path
  cases order : path.steps using List.reverseRecOn with
  | nil =>
    have none : path.fileName? = none := by
      rw [fileName?, parts, order, List.map_nil, List.append_nil]
      rcases leadingComponents_cases (Text.pieces '/' path.text) with same | same | same
      all_goals rw [same]; rfl
    simp [none]
  | append_singleton front last =>
    have ending : path.components.getLast? = some (if last = ".." then .up else .name last) := by
      rw [parts, order, List.map_append]
      simp [Component.ofStep]
    rw [fileName?, ending]
    by_cases up : last = ".."
    · simp only [up, if_true]
      simp [eq_comm]
    · simp only [up, if_false]
      simp only [List.getLast?_concat, Option.some.injEq]
      exact ⟨fun same => ⟨same, same ▸ up⟩, And.left⟩

-- Only the last step of a path with a file name is another one under another file name.
theorem withFileName_parts {path : Path} {last : String} (found : path.fileName? = some last)
    (name : String) : ∃ parent : Path, path.parent? = some parent ∧ parent.IsParent path ∧
      path.withFileName name = parent.join ⟨name⟩ := by
  have ending := (fileName?_eq_some_iff.mp found).1
  cases up : path.parent? with
  | none => simp [steps_of_parent?_none up] at ending
  | some parent => exact ⟨parent, rfl, parent?_isParent up, by simp [withFileName, found, up]⟩

theorem steps_withFileName {path : Path} {last name : String} (found : path.fileName? = some last)
    (isName : IsName name) : (path.withFileName name).steps = path.steps.dropLast ++ [name] := by
  obtain ⟨parent, _, isParent, same⟩ := withFileName_parts found name
  rw [same, steps_join parent isName.relative, isParent.steps, isName.steps]

theorem isAbsolute_withFileName {path : Path} {last name : String}
    (found : path.fileName? = some last) (isName : IsName name) :
    (path.withFileName name).isAbsolute = path.isAbsolute := by
  obtain ⟨parent, _, isParent, same⟩ := withFileName_parts found name
  rw [same, isAbsolute_join parent isName.relative, isParent.isAbsolute]

end SpringSkeleton.Path
