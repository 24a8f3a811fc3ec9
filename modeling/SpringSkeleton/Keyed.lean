namespace SpringSkeleton

abbrev Keyed (α : Type) := List (String × α)

namespace Keyed
variable {α β : Type}

-- The last value given for a key is the one that stays.
def insert (key : String) (value : α) : Keyed α → Keyed α
  | [] => [(key, value)]
  | entry :: rest =>
    if entry.1 = key then (key, value) :: rest
    else if key < entry.1 then (key, value) :: entry :: rest
    else entry :: insert key value rest

def find? (key : String) : Keyed α → Option α
  | [] => none
  | entry :: rest => if entry.1 = key then some entry.2 else find? key rest

def ofList (entries : List (String × α)) : Keyed α :=
  entries.foldl (fun gathered entry => insert entry.1 entry.2 gathered) []

def keys (map : Keyed α) : List String := map.map Prod.fst

def Ascending (map : Keyed α) : Prop := map.Pairwise fun a b => a.1 < b.1

theorem find?_insert (key other : String) (value : α) (map : Keyed α) :
    find? other (insert key value map) = if key = other then some value else find? other map := by
  induction map with
  | nil => simp [insert, find?]
  | cons entry rest ih =>
    unfold insert
    split
    · rename_i same
      by_cases h : key = other <;> simp [find?, h, same]
    · split
      · simp [find?]
      · rename_i different _
        by_cases h : entry.1 = other
        · have no : key ≠ other := fun k => different (by rw [h, k])
          simp [find?, h, no]
        · simp [find?, h, ih]

theorem mem_insert {key : String} {value : α} {map : Keyed α} {entry : String × α}
    (h : entry ∈ insert key value map) : entry = (key, value) ∨ entry ∈ map := by
  induction map with
  | nil => simpa [insert] using h
  | cons first rest ih =>
    unfold insert at h
    split at h
    · rcases List.mem_cons.mp h with h | h
      · exact .inl h
      · exact .inr (List.mem_cons_of_mem _ h)
    · split at h
      · simpa using h
      · rcases List.mem_cons.mp h with h | h
        · exact .inr (h ▸ List.mem_cons_self)
        · rcases ih h with h | h
          · exact .inl h
          · exact .inr (List.mem_cons_of_mem _ h)

theorem Ascending.insert {map : Keyed α} (h : Ascending map) (key : String) (value : α) :
    Ascending (Keyed.insert key value map) := by
  induction map with
  | nil => simp [Keyed.insert, Ascending]
  | cons first rest ih =>
    obtain ⟨least, ascending⟩ := List.pairwise_cons.mp h
    unfold Keyed.insert
    split
    · rename_i same
      exact List.pairwise_cons.mpr ⟨fun entry mem => same ▸ least entry mem, ascending⟩
    · rename_i different
      split
      · rename_i earlier
        refine List.pairwise_cons.mpr ⟨fun entry mem => ?_, h⟩
        rcases List.mem_cons.mp mem with rfl | mem
        · exact earlier
        · exact String.lt_trans earlier (least entry mem)
      · rename_i notEarlier
        refine List.pairwise_cons.mpr ⟨fun entry mem => ?_, ih ascending⟩
        rcases mem_insert mem with rfl | mem
        · rcases Decidable.em (first.1 < key) with less | notLess
          · exact less
          · exact absurd (String.le_antisymm (String.not_lt.mp notEarlier) (String.not_lt.mp notLess))
              different
        · exact least entry mem

end Keyed
end SpringSkeleton
