import SpringSkeleton.Tree.Location

namespace SpringSkeleton

-- Bytes that are no text are kept as bytes, so that reading them as text can fail.
inductive Content where
  | text (text : String)
  | bytes (bytes : List UInt8)
  deriving DecidableEq

inductive Node where
  | directory
  | file (content : Content)
  | link (target : String)
  deriving DecidableEq

abbrev Entry := Location × Node

def Entry.precedes (a b : Entry) : Prop := Location.before a.1 b.1 = true

structure Tree where
  entries : List Entry
  ascending : entries.Pairwise Entry.precedes

namespace Tree

-- The root is a directory even in the empty tree.
def node? (tree : Tree) : Location → Option Node
  | [] => some .directory
  | location => tree.entries.lookup location

def insertEntry (location : Location) (node : Node) : List Entry → List Entry
  | [] => [(location, node)]
  | entry :: rest =>
    if entry.1 = location then (location, node) :: rest
    else if Location.before location entry.1 then (location, node) :: entry :: rest
    else entry :: insertEntry location node rest

theorem mem_insertEntry {location : Location} {node : Node} {entries : List Entry} {entry : Entry}
    (h : entry ∈ insertEntry location node entries) : entry = (location, node) ∨ entry ∈ entries := by
  induction entries with
  | nil => simpa [insertEntry] using h
  | cons first rest ih =>
    unfold insertEntry at h
    split at h
    · rcases List.mem_cons.mp h with h | h
      · exact .inl h
      · exact .inr (List.mem_cons_of_mem _ h)
    · split at h
      · simpa using h
      · rcases List.mem_cons.mp h with h | h
        · exact .inr (h ▸ List.mem_cons_self)
        · rcases ih h with h | h
          · exact .inl h
          · exact .inr (List.mem_cons_of_mem _ h)

theorem ascending_insertEntry (location : Location) (node : Node) {entries : List Entry}
    (h : entries.Pairwise Entry.precedes) : (insertEntry location node entries).Pairwise Entry.precedes := by
  induction entries with
  | nil => simp [insertEntry]
  | cons first rest ih =>
    obtain ⟨firstBefore, restAscending⟩ := List.pairwise_cons.mp h
    unfold insertEntry
    split
    · rename_i same
      refine List.pairwise_cons.mpr ⟨fun entry mem => ?_, restAscending⟩
      have := firstBefore entry mem
      rwa [Entry.precedes, same] at this
    · rename_i different
      split
      · rename_i earlier
        refine List.pairwise_cons.mpr ⟨fun entry mem => ?_, h⟩
        rcases List.mem_cons.mp mem with rfl | mem
        · exact earlier
        · exact Location.before_trans earlier (firstBefore entry mem)
      · rename_i notEarlier
        refine List.pairwise_cons.mpr ⟨fun entry mem => ?_, ih restAscending⟩
        rcases mem_insertEntry mem with rfl | mem
        · rcases Location.before_total different with h | h
          · exact h
          · exact absurd h notEarlier
        · exact firstBefore entry mem

def empty : Tree := ⟨[], .nil⟩

-- Nothing can be put in the place of the root.
def put (tree : Tree) (location : Location) (node : Node) : Tree :=
  if location = [] then tree
  else ⟨insertEntry location node tree.entries, ascending_insertEntry location node tree.ascending⟩

def drop (tree : Tree) (location : Location) : Tree :=
  ⟨tree.entries.filter fun entry => entry.1 ≠ location, tree.ascending.filter _⟩

-- What stands at a place goes with all that lies below it.
def dropBelow (tree : Tree) (location : Location) : Tree :=
  ⟨tree.entries.filter fun entry => (Location.below? location entry.1).isNone, tree.ascending.filter _⟩

theorem lookup_cons (entry : Entry) (rest : List Entry) (place : Location) :
    (entry :: rest).lookup place = if place = entry.1 then some entry.2 else rest.lookup place := by
  by_cases same : place = entry.1
  · rw [List.lookup_cons, same]
    simp
  · have no : (place == entry.1) = false := by simpa using same
    rw [List.lookup_cons, no]
    simp [same]

theorem lookup_insertEntry (location place : Location) (node : Node) (entries : List Entry) :
    (insertEntry location node entries).lookup place =
      if place = location then some node else entries.lookup place := by
  induction entries with
  | nil => simp [insertEntry, lookup_cons]
  | cons first rest ih =>
    unfold insertEntry
    split
    · rename_i same
      by_cases h : place = location <;> simp [lookup_cons, h, same]
    · split
      · simp [lookup_cons]
      · rename_i different _
        by_cases h : place = first.1
        · have other : place ≠ location := fun same => different (by rw [← h, same])
          simp [lookup_cons, h, different]
        · simp [lookup_cons, h, ih]

theorem node?_put (tree : Tree) {location : Location} (h : location ≠ []) (node : Node) (place : Location) :
    (tree.put location node).node? place = if place = location then some node else tree.node? place := by
  cases place with
  | nil => simp [node?, Ne.symm h]
  | cons name rest => simp [node?, put, h, lookup_insertEntry]

theorem lookup_filter_ne (location place : Location) (entries : List Entry) :
    (entries.filter fun entry => entry.1 ≠ location).lookup place =
      if place = location then none else entries.lookup place := by
  induction entries with
  | nil => simp
  | cons first rest ih =>
    by_cases gone : first.1 = location
    · rw [List.filter_cons_of_neg (by simpa using gone), ih]
      by_cases h : place = location <;> simp [lookup_cons, h, gone]
    · rw [List.filter_cons_of_pos (by simpa using gone), lookup_cons, lookup_cons, ih]
      by_cases h : place = first.1
      · simp [h, gone]
      · simp [h]

theorem node?_drop (tree : Tree) {location : Location} (h : location ≠ []) (place : Location) :
    (tree.drop location).node? place = if place = location then none else tree.node? place := by
  cases place with
  | nil => simp [node?, Ne.symm h]
  | cons name rest => simp only [node?, drop, lookup_filter_ne]

end Tree
end SpringSkeleton
