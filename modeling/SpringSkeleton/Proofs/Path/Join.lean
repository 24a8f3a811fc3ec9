import SpringSkeleton.Proofs.Name.Steps
import SpringSkeleton.Proofs.Path.Parent

namespace SpringSkeleton.Path

-- What a relative path is written after when it is joined.
def stem (base : Path) : String :=
  if base.text == "" then ""
  else if base.text.toList.getLast? == some '/' then base.text
  else base.text ++ "/"

theorem join_relative (base : Path) {child : Path} (relative : child.isAbsolute = false) :
    base.join child = ⟨base.stem ++ child.text⟩ := by
  unfold join stem
  by_cases none : base.text = ""
  · simp [none]
  · by_cases closed : base.text.toList.getLast? = some '/' <;> simp [none, relative, closed]

theorem stem_closed (base : Path) : base.stem = "" ∨ ∃ front, base.stem = front ++ "/" := by
  unfold stem
  split
  · exact .inl rfl
  · split
    · rename_i closed
      obtain ⟨front, whole⟩ := List.getLast?_eq_some_iff.mp (by simpa using closed)
      refine .inr ⟨String.ofList front, ?_⟩
      rw [← String.toList_inj, String.toList_append, String.toList_ofList, whole]
      rfl
    · exact .inr ⟨base.text, rfl⟩

theorem length_le_stem (base : Path) : base.text.length ≤ base.stem.length := by
  unfold stem
  split
  · rename_i none
    simp [show base.text = "" by simpa using none]
  · split <;> simp

theorem IsName.length_pos {name : String} (isName : IsName name) : 0 < name.length :=
  Nat.pos_of_ne_zero (mt String.length_eq_zero_iff.mp isName.present)

theorem stem_of_text {base : Path} {front child : String} (text : base.text = front ++ child)
    (closed : front = "" ∨ ∃ more, front = more ++ "/") : base.stem = front ++ stem ⟨child⟩ := by
  by_cases none : child = ""
  · subst none
    rw [String.append_empty] at text
    rcases closed with rfl | ⟨more, rfl⟩
    · simp [stem, text]
    · simp [stem, text]
  · have present : front ++ child ≠ "" := by
      intro empty
      have chars := congrArg String.toList empty
      simp only [String.toList_append] at chars
      exact none (String.toList_eq_nil_iff.mp (List.append_eq_nil_iff.mp chars).2)
    have some : child.toList ≠ [] := fun empty => none (String.toList_eq_nil_iff.mp empty)
    have last : (front ++ child).toList.getLast? = child.toList.getLast? := by
      rw [String.toList_append, List.getLast?_append_of_ne_nil _ some]
    unfold stem
    simp only [text, last, beq_iff_eq, present, none, if_false]
    split
    · rfl
    · rw [String.append_assoc]

theorem join_assoc (base : Path) {first second : Path} (one : first.isAbsolute = false)
    (two : second.isAbsolute = false) : (base.join first).join second = base.join (first.join second) := by
  have both : (first.join second).isAbsolute = false := (isAbsolute_join first two).trans one
  have text : (base.join first).text = base.stem ++ first.text := by rw [join_relative base one]
  rw [join_relative base both, join_relative _ two, stem_of_text text base.stem_closed,
    join_relative first two, String.append_assoc]

-- A path without components has no text at all, so joining it leaves a slash at the end, or nothing.
theorem text_of_components {path : Path} (none : path.components = []) : path.text = "" := by
  obtain ⟨lead, _⟩ := List.append_eq_nil_iff.mp (path.components_eq ▸ none)
  have idle : ∀ piece ∈ Text.pieces '/' path.text, component? piece = Option.none := by
    rw [components, lead, List.nil_append] at none
    exact List.filterMap_eq_nil_iff.mp none
  cases pieces : Text.pieces '/' path.text with
  | nil => exact absurd pieces (Text.pieces_ne_nil path.text)
  | cons piece rest =>
    rw [pieces] at lead
    have first := idle piece (by simp [pieces])
    have empty : piece = "" := by
      by_contra present
      by_cases here : piece = "."
      · simp [leadingComponents, here] at lead
      · by_cases up : piece = ".." <;> simp [component?, present, here, up] at first
    have alone : rest = [] := by
      cases rest with
      | nil => rfl
      | cons next more => simp [leadingComponents, empty] at lead
    rw [← Text.joined_pieces path.text, pieces, empty, alone]
    rfl

theorem ending_join_nothing (base : Path) {path : Path} (none : path.components = []) :
    (Route.ofText (base.join path).text).ending ≠ .plain := by
  rw [ne_eq, ending_plain_iff]
  rintro ⟨last, ends, isName⟩
  have relative : path.isAbsolute = false := by simp [isAbsolute, text_of_components none]
  rw [join_relative base relative, text_of_components none, String.append_empty] at ends
  have nothing : Text.pieces '/' "" = [""] := by decide
  have blank : last = "" := by
    rcases base.stem_closed with empty | ⟨front, closed⟩
    · rw [empty, nothing] at ends
      exact (Option.some.inj ends).symm
    · have parted : base.stem.toList = front.toList ++ '/' :: "".toList := by simp [closed]
      rw [Text.pieces_of_cut parted, nothing, List.getLast?_concat] at ends
      exact (Option.some.inj ends).symm
  rw [blank] at isName
  cases isName.busy

section Name

variable {directory : Path} {name : String} (isName : IsName name)
include isName

theorem pieces_join_name (base : Path) :
    ∃ front, Text.pieces '/' (base.join ⟨name⟩).text = front ++ [name] := by
  rw [join_relative base isName.relative]
  rcases base.stem_closed with none | ⟨front, closed⟩
  · exact ⟨[], by rw [none, String.empty_append, isName.pieces]; rfl⟩
  · have parted : (base.stem ++ name).toList = front.toList ++ '/' :: name.toList := by simp [closed]
    exact ⟨Text.pieces '/' front, by rw [Text.pieces_of_cut parted, isName.pieces]⟩

theorem ending_join_name (base : Path) : (Route.ofText (base.join ⟨name⟩).text).ending = .plain := by
  obtain ⟨front, parts⟩ := pieces_join_name isName base
  exact (ending_plain_iff _).mpr ⟨name, by simp [parts], isName⟩

-- A path that ends in a name is not written with a slash at its end.
theorem pieces_join_of_plain (plain : (Route.ofText directory.text).ending = .plain) :
    Text.pieces '/' (directory.join ⟨name⟩).text = Text.pieces '/' directory.text ++ [name] := by
  obtain ⟨last, ends, lastName⟩ := (ending_plain_iff directory).mp plain
  have whole : Text.joined '/' (Text.pieces '/' directory.text) = directory.text :=
    Text.joined_pieces directory.text
  have present : directory.text ≠ "" := by
    intro none
    rw [none] at ends
    have empty : Text.pieces '/' "" = [""] := by decide
    rw [empty] at ends
    cases ends
    exact absurd lastName.busy (by decide)
  have open_ : directory.text.toList.getLast? ≠ some '/' := by
    intro closed
    obtain ⟨front, chars⟩ := List.getLast?_eq_some_iff.mp closed
    have parted : directory.text.toList = (String.ofList front).toList ++ '/' :: "".toList := by
      simp [chars]
    have empty : Text.pieces '/' "" = [""] := by decide
    rw [Text.pieces_of_cut parted, empty, List.getLast?_concat] at ends
    cases ends
    exact absurd lastName.busy (by decide)
  have stem : directory.stem = directory.text ++ "/" := by simp [stem, present, open_]
  have parted : (directory.join ⟨name⟩).text.toList =
      directory.text.toList ++ '/' :: name.toList := by
    rw [join_relative directory isName.relative, stem]
    simp
  rw [Text.pieces_of_cut parted, isName.pieces]

theorem split_join_of_plain (plain : (Route.ofText directory.text).ending = .plain) :
    (directory.join ⟨name⟩).split = (directory.split.1, directory.split.2 ++ [name]) ∧
      ∃ front last, directory.split.2 = front ++ [last] ∧ isIdle last = false := by
  obtain ⟨last, ends, lastName⟩ := (ending_plain_iff directory).mp plain
  have longer := pieces_join_of_plain isName plain
  rcases split_cases directory with ⟨piece, rest, same, found⟩ | ⟨_, found⟩ |
    ⟨piece, rest, same, found⟩ | ⟨_, found⟩ | ⟨piece, rest, same, present, found⟩
  · rw [found] at longer ends
    rw [same]
    refine ⟨by simp [split, longer], ?_⟩
    rw [List.getLast?_cons_cons] at ends
    obtain ⟨front, parts⟩ := List.getLast?_eq_some_iff.mp ends
    exact ⟨front, last, parts, lastName.busy⟩
  · rw [found] at ends
    cases ends
    exact absurd lastName.busy (by decide)
  · rw [found] at longer ends
    rw [same]
    refine ⟨by simp [split, longer], ?_⟩
    rw [List.getLast?_cons_cons] at ends
    obtain ⟨front, parts⟩ := List.getLast?_eq_some_iff.mp ends
    exact ⟨"" :: front, last, by rw [parts]; rfl, lastName.busy⟩
  · rw [found] at ends
    cases ends
    exact absurd lastName.busy (by decide)
  · rw [found] at longer ends
    obtain ⟨front, parts⟩ := List.getLast?_eq_some_iff.mp ends
    refine ⟨?_, front, last, by rw [same, ← parts], lastName.busy⟩
    rw [same]
    unfold split
    rw [longer]
    by_cases here : piece = "."
    · rw [here] at same
      simp [split, found, here] at same
    · split
      · rename_i next more parted
        exact absurd (List.cons.inj parted).1 present
      · rename_i more parted
        exact absurd (List.cons.inj parted).1 here
      · rfl

theorem parent?_join (plain : (Route.ofText directory.text).ending = .plain) :
    (directory.join ⟨name⟩).parent? = some directory := by
  obtain ⟨longer, front, last, parts, busy⟩ := split_join_of_plain isName plain
  have kept : ∀ {pieces : List String} {last : String}, isIdle last = false →
      trimPieces (pieces ++ [last]) = pieces ++ [last] := by
    intro pieces last busy
    rw [trimPieces_eq, List.rdropWhile_concat_neg _ _ _ (by simp [busy])]
  have body : trimPieces (directory.join ⟨name⟩).split.2 = directory.split.2 ++ [name] := by
    rw [longer]
    exact kept isName.busy
  rw [parent?_of_trimmed body, longer, parts, kept busy, ← parts, ← split_text]

theorem fileName?_join (directory : Path) : (directory.join ⟨name⟩).fileName? = some name := by
  rw [fileName?_eq_some_iff, steps_join directory isName.relative, isName.steps, List.getLast?_concat]
  exact ⟨rfl, isName.down⟩

theorem withFileName_join (plain : (Route.ofText directory.text).ending = .plain) (other : String) :
    (directory.join ⟨name⟩).withFileName other = directory.join ⟨other⟩ := by
  obtain ⟨parent, up, _, same⟩ := withFileName_parts (fileName?_join isName directory) other
  rw [parent?_join isName plain] at up
  cases up
  exact same

end Name

theorem along_concat (base : Path) (front : List String) (name : String) :
    base.along (front ++ [name]) = (base.along front).join ⟨name⟩ := List.foldl_append

theorem along_append (base : Path) (front back : List String) :
    base.along (front ++ back) = (base.along front).along back := List.foldl_append

section Along

variable {base : Path} {front names : List String} {name : String}

theorem along_parts (base : Path) (each : ∀ name ∈ names, IsName name) :
    (base.along names).steps = base.steps ++ names ∧
      (base.along names).isAbsolute = base.isAbsolute := foldl_join_parts base each

theorem ending_along (base : Path) (each : ∀ other ∈ front ++ [name], IsName other) :
    (Route.ofText (base.along (front ++ [name])).text).ending = .plain := by
  rw [along_concat]
  exact ending_join_name (each name (by simp)) _

theorem parent?_along (base : Path) (some_ : front ≠ []) (each : ∀ other ∈ front ++ [name], IsName other) :
    (base.along (front ++ [name])).parent? = some (base.along front) := by
  rw [along_concat]
  refine parent?_join (each name (by simp)) ?_
  obtain ⟨before, last, rfl⟩ : ∃ before last, front = before ++ [last] :=
    ⟨_, _, (List.dropLast_concat_getLast some_).symm⟩
  exact ending_along base fun other member => each other (List.mem_append_left _ member)

-- Names that were joined first can as well be joined one after the other.
theorem join_ofPieces (some_ : names ≠ []) (each : ∀ name ∈ names, IsName name) :
    base.join (ofPieces names) = base.along names := by
  induction names using List.reverseRecOn with
  | nil => exact absurd rfl some_
  | append_singleton front name ih =>
    have last : IsName name := each name (by simp)
    by_cases alone : front = []
    · subst alone
      have single : ofPieces [name] = ⟨name⟩ := by simp [ofPieces, join]
      rw [List.nil_append, single]
      rfl
    · have before : ∀ other ∈ front, IsName other :=
        fun other member => each other (List.mem_append_left _ member)
      have pieces : ofPieces (front ++ [name]) = (ofPieces front).join ⟨name⟩ := List.foldl_append
      rw [pieces, ← join_assoc base (ofPieces_parts before).2 last.relative, ih alone before, along_concat]

theorem length_along (each : ∀ name ∈ names, IsName name) :
    names.length ≤ (base.along names).text.length := by
  induction names using List.reverseRecOn with
  | nil => exact Nat.zero_le _
  | append_singleton front name ih =>
    have last : IsName name := each name (by simp)
    have before := ih fun other member => each other (List.mem_append_left _ member)
    have longer := length_le_stem (base.along front)
    have present := last.length_pos
    rw [along_concat, join_relative _ last.relative, String.length_append, List.length_append,
      List.length_singleton]
    simp only
    omega

end Along

end SpringSkeleton.Path
