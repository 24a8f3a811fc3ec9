import SpringSkeleton.Proofs.Tree.Reach

namespace SpringSkeleton

section Hindered

variable {α ε : Type} {hindrance? other? : α → Option ε} {items more : List α} {item : α} {problem : ε}

-- What is done one after the other up to the first hindrance, and what that is.
def untilHindered (hindrance? : α → Option ε) : List α → List α × Option ε
  | [] => ([], none)
  | item :: rest =>
    match hindrance? item with
    | some problem => ([], some problem)
    | none => (item :: (untilHindered hindrance? rest).1, (untilHindered hindrance? rest).2)

-- What comes of it: the hindrance is the problem.
def outcomeOf : Option ε → Except ε Unit
  | none => .ok ()
  | some problem => .error problem

theorem untilHindered_nil : untilHindered hindrance? [] = ([], none) := rfl

theorem untilHindered_cons (item : α) (rest : List α) : untilHindered hindrance? (item :: rest) =
    match hindrance? item with
    | some problem => ([], some problem)
    | none => (item :: (untilHindered hindrance? rest).1, (untilHindered hindrance? rest).2) := rfl

theorem untilHindered_congr (same : ∀ item ∈ items, hindrance? item = other? item) :
    untilHindered hindrance? items = untilHindered other? items := by
  induction items with
  | nil => rfl
  | cons item rest ih =>
    have further := ih fun later member => same later (List.mem_cons_of_mem _ member)
    rw [untilHindered_cons, untilHindered_cons, same item List.mem_cons_self, further]

theorem untilHindered_append : untilHindered hindrance? (items ++ more) =
    match (untilHindered hindrance? items).2 with
    | some _ => untilHindered hindrance? items
    | none => (items ++ (untilHindered hindrance? more).1, (untilHindered hindrance? more).2) := by
  induction items with
  | nil => rfl
  | cons item rest ih =>
    rw [List.cons_append, untilHindered_cons, untilHindered_cons]
    cases hindrance? item with
    | some problem => rfl
    | none =>
      simp only
      rw [ih]
      cases found : untilHindered hindrance? rest with
      | mk done stop => cases stop <;> rfl

theorem untilHindered_free (free : ∀ item ∈ items, hindrance? item = none) :
    untilHindered hindrance? items = (items, none) := by
  induction items with
  | nil => rfl
  | cons item rest ih =>
    rw [untilHindered_cons, free item List.mem_cons_self,
      ih fun later member => free later (List.mem_cons_of_mem _ member)]

theorem untilHindered_stuck (free : ∀ item ∈ items, hindrance? item = none)
    (stuck : hindrance? item = some problem) :
    untilHindered hindrance? (items ++ item :: more) = (items, some problem) := by
  rw [untilHindered_append, untilHindered_free free]
  simp [untilHindered_cons, stuck]

theorem untilHindered_concat (free : (untilHindered hindrance? items).2 = none) (item : α) :
    untilHindered hindrance? (items ++ [item]) =
      (items ++ (untilHindered hindrance? [item]).1, hindrance? item) := by
  rw [untilHindered_append, free]
  cases stuck : hindrance? item <;> simp [untilHindered_cons, untilHindered_nil, stuck]

theorem untilHindered_initial (hindrance? : α → Option ε) (items : List α) :
    (untilHindered hindrance? items).1 <+: items := by
  induction items with
  | nil => exact List.prefix_rfl
  | cons item rest ih =>
    rw [untilHindered_cons]
    cases hindrance? item with
    | some problem => exact List.nil_prefix
    | none => exact List.cons_prefix_cons.mpr ⟨rfl, ih⟩

theorem untilHindered_passed (member : item ∈ (untilHindered hindrance? items).1) :
    hindrance? item = none := by
  induction items with
  | nil => cases member
  | cons first rest ih =>
    rw [untilHindered_cons] at member
    cases passed : hindrance? first with
    | some problem => simp [passed] at member
    | none =>
      rw [passed] at member
      rcases List.mem_cons.mp member with rfl | later
      · exact passed
      · exact ih later

theorem untilHindered_all (done : (untilHindered hindrance? items).2 = none) :
    (untilHindered hindrance? items).1 = items := by
  induction items with
  | nil => rfl
  | cons item rest ih =>
    rw [untilHindered_cons] at done ⊢
    cases passed : hindrance? item with
    | some problem => simp [passed] at done
    | none =>
      rw [passed] at done
      rw [ih done]

end Hindered

namespace Tree

theorem lookup_eq_some_iff_mem {entries : List Entry} (ascending : entries.Pairwise Entry.precedes)
    {place : Location} {node : Node} : entries.lookup place = some node ↔ (place, node) ∈ entries := by
  constructor
  · intro found
    obtain ⟨front, back, rfl, _⟩ := List.lookup_eq_some_iff.mp found
    simp
  · intro member
    obtain ⟨front, back, rfl⟩ := List.append_of_mem member
    refine List.lookup_eq_some_iff.mpr ⟨front, back, rfl, fun entry earlier => ?_⟩
    have before : Entry.precedes entry (place, node) :=
      (List.pairwise_append.mp ascending).2.2 entry earlier _ List.mem_cons_self
    rw [Entry.precedes] at before
    simp only [bne_iff_ne, ne_eq]
    rintro rfl
    rw [Location.before_irrefl] at before
    cases before

theorem entries_nodup (tree : Tree) : tree.entries.Nodup := by
  refine tree.ascending.imp fun {first second} before same => ?_
  rw [Entry.precedes, same, Location.before_irrefl] at before
  cases before

-- Entries are listed in one order only.
theorem ext_lookup {first second : Tree}
    (same : ∀ place, first.entries.lookup place = second.entries.lookup place) : first = second := by
  have members : ∀ entry, entry ∈ first.entries ↔ entry ∈ second.entries := by
    rintro ⟨place, node⟩
    rw [← lookup_eq_some_iff_mem first.ascending, ← lookup_eq_some_iff_mem second.ascending, same]
  have perm : first.entries.Perm second.entries :=
    (List.perm_ext_iff_of_nodup first.entries_nodup second.entries_nodup).mpr members
  have entries : first.entries = second.entries := by
    have acyclic : ∀ a b, a ∈ first.entries → b ∈ second.entries → Entry.precedes a b →
        Entry.precedes b a → a = b := by
      intro a b _ _ ab ba
      have loop := Location.before_trans ab ba
      rw [Location.before_irrefl] at loop
      cases loop
    exact perm.eq_of_pairwise acyclic first.ascending second.ascending
  cases first
  cases second
  cases entries
  rfl

theorem lookup_put (tree : Tree) {location : Location} (somewhere : location ≠ []) (node : Node)
    (place : Location) : (tree.put location node).entries.lookup place =
      if place = location then some node else tree.entries.lookup place := by
  simp [put, somewhere, lookup_insertEntry]

theorem lookup_drop (tree : Tree) (location place : Location) :
    (tree.drop location).entries.lookup place =
      if place = location then none else tree.entries.lookup place := by
  simp only [drop, lookup_filter_ne]

theorem node?_eq_lookup (tree : Tree) {place : Location} (somewhere : place ≠ []) :
    tree.node? place = tree.entries.lookup place := by
  cases place with
  | nil => exact absurd rfl somewhere
  | cons name rest => rfl

-- What stands at some places from now on, if anything; the first edit of a place counts.
abbrev Edits := List (Location × Option Node)

-- The edits of some items, those of later ones first.
def editsOf {α : Type} (each : α → Edits) (items : List α) : Edits := items.reverse.flatMap each

section EditsOf

variable {α : Type} {each : α → Edits} {items : List α} {place : Location} {left : Option Node}

theorem editsOf_append (each : α → Edits) (first second : List α) :
    editsOf each (first ++ second) = editsOf each second ++ editsOf each first := by
  simp [editsOf]

theorem editsOf_singleton (each : α → Edits) (item : α) : editsOf each [item] = each item := by
  simp [editsOf]

theorem editsOf_cons (each : α → Edits) (item : α) (rest : List α) :
    editsOf each (item :: rest) = editsOf each rest ++ each item := by
  simp [editsOf]

theorem mem_editsOf : (place, left) ∈ editsOf each items ↔
    ∃ item ∈ items, (place, left) ∈ each item := by
  simp [editsOf]

end EditsOf

theorem mem_of_lookup_edit {edits : Edits} {place : Location} {left : Option Node}
    (found : edits.lookup place = some left) : (place, left) ∈ edits := by
  obtain ⟨front, back, rfl, _⟩ := List.lookup_eq_some_iff.mp found
  simp

end Tree

namespace Disk
open SpringSkeleton.Tree (Edits)
variable {before middle after other : Disk} {edits first second : Edits} {place : Location}

structure Revises (edits : Edits) (before after : Disk) : Prop where
  workingDirectory : after.workingDirectory = before.workingDirectory
  somewhere : ∀ edit ∈ edits, edit.1 ≠ []
  lookup : ∀ place, after.tree.entries.lookup place =
    (edits.lookup place).getD (before.tree.entries.lookup place)

theorem Revises.refl : Revises [] before before := ⟨rfl, List.forall_mem_nil _, fun _ => rfl⟩

theorem Revises.trans (one : Revises first before middle) (two : Revises second middle after) :
    Revises (second ++ first) before after := by
  refine ⟨two.workingDirectory.trans one.workingDirectory, ?_, fun place => ?_⟩
  · intro edit member
    rcases List.mem_append.mp member with later | earlier
    · exact two.somewhere edit later
    · exact one.somewhere edit earlier
  · rw [two.lookup, one.lookup, List.lookup_append]
    cases second.lookup place <;> rfl

theorem revises_put (disk : Disk) (place : Location) (somewhere : place ≠ []) (node : Node) :
    Revises [(place, some node)] disk (disk.withTree (disk.tree.put place node)) := by
  refine ⟨rfl, by simpa using somewhere, fun other => ?_⟩
  rw [withTree_tree, Tree.lookup_put _ somewhere, List.lookup_cons]
  by_cases here : other = place
  · simp [here]
  · have apart : (other == place) = false := by simpa using here
    simp [here, apart]

theorem revises_drop (disk : Disk) (place : Location) (somewhere : place ≠ []) :
    Revises [(place, none)] disk (disk.withTree (disk.tree.drop place)) := by
  refine ⟨rfl, by simpa using somewhere, fun other => ?_⟩
  rw [withTree_tree, Tree.lookup_drop, List.lookup_cons]
  by_cases here : other = place
  · simp [here]
  · have apart : (other == place) = false := by simpa using here
    simp [here, apart]

theorem Revises.node? (revises : Revises edits before after) (place : Location) :
    after.tree.node? place = (edits.lookup place).getD (before.tree.node? place) := by
  by_cases root : place = []
  · subst root
    cases found : edits.lookup ([] : Location) with
    | none => rfl
    | some left => exact absurd rfl (revises.somewhere _ (Tree.mem_of_lookup_edit found))
  · rw [Tree.node?_eq_lookup _ root, Tree.node?_eq_lookup _ root, revises.lookup]

-- An edit of a place says what stands there, and the place of no edit keeps what it had.
theorem Revises.cases (revises : Revises edits before after) (place : Location) :
    after.tree.node? place = before.tree.node? place ∨
      ∃ left, (place, left) ∈ edits ∧ after.tree.node? place = left := by
  rw [revises.node?]
  cases found : edits.lookup place with
  | none => exact .inl rfl
  | some left => exact .inr ⟨left, Tree.mem_of_lookup_edit found, rfl⟩

-- If all edits of a place say the same, that stands there.
theorem Revises.held (revises : Revises edits before after) {left : Option Node}
    (member : (place, left) ∈ edits) (only : ∀ other, (place, other) ∈ edits → other = left) :
    after.tree.node? place = left := by
  rw [revises.node?]
  cases found : edits.lookup place with
  | none => simpa using List.lookup_eq_none_iff.mp found _ member
  | some other => exact only other (Tree.mem_of_lookup_edit found)

-- Earlier edits do not count where later ones follow.
theorem Revises.covered (revises : Revises (second ++ first) before after)
    (all : ∀ place left, (place, left) ∈ first → ∃ later, (place, later) ∈ second) :
    Revises second before after := by
  refine ⟨revises.workingDirectory, fun edit member => ?_, fun place => ?_⟩
  · exact revises.somewhere edit (List.mem_append_left _ member)
  · rw [revises.lookup, List.lookup_append]
    cases late : second.lookup place with
    | some left => rfl
    | none =>
      cases early : first.lookup place with
      | none => rfl
      | some left =>
        obtain ⟨later, member⟩ := all place left (Tree.mem_of_lookup_edit early)
        simpa using List.lookup_eq_none_iff.mp late _ member

-- Nothing happens to a disk that is already as the edits say.
theorem revises_idle (somewhere : ∀ edit ∈ edits, edit.1 ≠ [])
    (already : ∀ edit ∈ edits, before.tree.node? edit.1 = edit.2) : Revises edits before before := by
  refine ⟨rfl, somewhere, fun place => ?_⟩
  cases found : edits.lookup place with
  | none => rfl
  | some left =>
    have member := Tree.mem_of_lookup_edit found
    have stands := already _ member
    rw [Tree.node?_eq_lookup _ (somewhere _ member)] at stands
    exact stands

theorem ext_tree (same : after.workingDirectory = other.workingDirectory)
    (lookup : ∀ place, after.tree.entries.lookup place = other.tree.entries.lookup place) :
    after = other := by
  cases after
  cases other
  simp only [mk.injEq]
  exact ⟨Tree.ext_lookup lookup, same⟩

-- The same edits again change nothing.
theorem Revises.again (once : Revises edits before middle) (twice : Revises edits middle after) :
    after = middle := by
  refine ext_tree twice.workingDirectory fun place => ?_
  rw [twice.lookup, once.lookup]
  cases edits.lookup place <;> rfl

-- Edits that agree where they meet give the same in either order.
theorem Revises.commute {reached : Disk}
    (agree : ∀ place one two, (place, one) ∈ first → (place, two) ∈ second → one = two)
    (here : Revises first before middle) (onwards : Revises second middle after)
    (there : Revises second before reached) (back : Revises first reached other) : after = other := by
  refine ext_tree ?_ fun place => ?_
  · rw [onwards.workingDirectory, here.workingDirectory, back.workingDirectory, there.workingDirectory]
  · rw [onwards.lookup, here.lookup, back.lookup, there.lookup]
    cases one : first.lookup place with
    | none => rfl
    | some left =>
      cases two : second.lookup place with
      | none => rfl
      | some right =>
        exact (agree place left right (Tree.mem_of_lookup_edit one) (Tree.mem_of_lookup_edit two)).symm

end Disk
end SpringSkeleton
