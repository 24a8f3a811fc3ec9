import Mathlib.Data.List.Dedup
import Mathlib.Data.List.Induction
import Mathlib.Data.List.Nodup
import SpringSkeleton.Keyed

namespace SpringSkeleton.Keyed

variable {α : Type} {key : String} {value : α} {map other : Keyed α} {entries : List (String × α)}

theorem Ascending.nodup_keys (ascending : Ascending map) : (keys map).Nodup :=
  List.pairwise_map.mpr (ascending.imp fun {first second} less same => by
    rw [same] at less
    exact String.lt_irrefl _ less)

-- The value that was given last for a key.
def last? (key : String) (entries : List (String × α)) : Option α :=
  (entries.filter fun entry => entry.1 = key).getLast?.map Prod.snd

theorem ofList_concat (entries : List (String × α)) (entry : String × α) :
    ofList (entries ++ [entry]) = insert entry.1 entry.2 (ofList entries) := by
  rw [ofList, List.foldl_append]
  rfl

theorem ascending_ofList (entries : List (String × α)) : Ascending (ofList entries) := by
  induction entries using List.reverseRecOn with
  | nil => exact .nil
  | append_singleton entries entry ih =>
    rw [ofList_concat]
    exact ih.insert _ _

theorem find?_ofList (key : String) (entries : List (String × α)) :
    find? key (ofList entries) = last? key entries := by
  induction entries using List.reverseRecOn with
  | nil => rfl
  | append_singleton entries entry ih =>
    rw [ofList_concat, find?_insert, ih, last?, last?, List.filter_append]
    split
    · rename_i same
      simp [same]
    · rename_i different
      simp [different]

theorem mem_of_last? (found : last? key entries = some value) : (key, value) ∈ entries := by
  obtain ⟨entry, last, rfl⟩ := Option.map_eq_some_iff.mp found
  obtain ⟨member, same⟩ := List.mem_filter.mp (List.mem_of_getLast? last)
  have key : entry.1 = key := of_decide_eq_true same
  exact key ▸ member

theorem find?_eq_none_iff : find? key map = none ↔ key ∉ keys map := by
  induction map with
  | nil => simp [find?, keys]
  | cons entry rest ih =>
    unfold find?
    split
    · rename_i same
      simp [keys, same]
    · rename_i different
      rw [ih]
      simp [keys, Ne.symm different]

theorem mem_of_find? (found : find? key map = some value) : (key, value) ∈ map := by
  induction map with
  | nil => cases found
  | cons entry rest ih =>
    unfold find? at found
    split at found
    · rename_i same
      cases found
      cases same
      exact List.mem_cons_self
    · exact List.mem_cons_of_mem _ (ih found)

theorem Ascending.find?_of_mem (ascending : Ascending map) (member : (key, value) ∈ map) :
    find? key map = some value := by
  induction map with
  | nil => cases member
  | cons entry rest ih =>
    obtain ⟨least, others⟩ := List.pairwise_cons.mp ascending
    unfold find?
    rcases List.mem_cons.mp member with rfl | later
    · simp
    · have less : entry.1 < key := least (key, value) later
      have different : entry.1 ≠ key := fun same => String.lt_irrefl _ (same ▸ less)
      rw [if_neg different]
      exact ih others later

theorem Ascending.mem_iff (ascending : Ascending map) :
    (key, value) ∈ map ↔ find? key map = some value :=
  ⟨ascending.find?_of_mem, mem_of_find?⟩

-- Two ascending maps in which the same is found have the same entries, in the same order.
theorem Ascending.ext (ascending : Ascending map) (otherAscending : Ascending other)
    (same : ∀ key, find? key map = find? key other) : map = other := by
  have nodup : ∀ {map : Keyed α}, Ascending map → map.Nodup := fun ascending =>
    List.Nodup.of_map Prod.fst ascending.nodup_keys
  have perm : map.Perm other := by
    refine (List.perm_ext_iff_of_nodup (nodup ascending) (nodup otherAscending)).mpr ?_
    rintro ⟨key, value⟩
    rw [ascending.mem_iff, otherAscending.mem_iff, same]
  refine perm.eq_of_pairwise ?_ ascending otherAscending
  intro first second _ _ less greater
  exact absurd (String.lt_trans less greater) (String.lt_irrefl _)

theorem last?_of_nodup (nodup : (keys map).Nodup) (key : String) : last? key map = find? key map := by
  induction map with
  | nil => rfl
  | cons entry rest ih =>
    obtain ⟨first, others⟩ := List.nodup_cons.mp nodup
    unfold find?
    split
    · rename_i same
      have none : rest.filter (fun later => later.1 = key) = [] := by
        refine List.filter_eq_nil_iff.mpr fun later member => ?_
        have different : later.1 ≠ key := by
          rintro rfl
          exact first (List.mem_map.mpr ⟨later, member, same.symm⟩)
        simpa using different
      simp [last?, same, none]
    · rename_i different
      rw [← ih others, last?, last?, List.filter_cons_of_neg (by simpa using different)]

-- An ascending map is gathered from its own entries.
theorem Ascending.ofList_eq (ascending : Ascending map) : ofList map = map :=
  (ascending_ofList map).ext ascending fun key => by
    rw [find?_ofList, last?_of_nodup ascending.nodup_keys]

theorem mem_ofList : (key, value) ∈ ofList entries ↔ last? key entries = some value := by
  rw [(ascending_ofList entries).mem_iff, find?_ofList]

theorem mem_keys_ofList : key ∈ keys (ofList entries) ↔ key ∈ entries.map Prod.fst := by
  have none : find? key (ofList entries) = none ↔ key ∉ entries.map Prod.fst := by
    rw [find?_ofList, last?, Option.map_eq_none_iff, List.getLast?_eq_none_iff, List.filter_eq_nil_iff]
    simp
    grind
  rw [find?_eq_none_iff] at none
  exact not_iff_not.mp none

-- One entry for each key that was given, so as many as were given only if no key was given twice.
theorem length_ofList_eq_iff : (ofList entries).length = entries.length ↔ (entries.map Prod.fst).Nodup := by
  have perm : (keys (ofList entries)).Perm (entries.map Prod.fst).dedup := by
    refine (List.perm_ext_iff_of_nodup (ascending_ofList entries).nodup_keys (List.nodup_dedup _)).mpr ?_
    intro key
    rw [mem_keys_ofList, List.mem_dedup]
  have length : (ofList entries).length = (entries.map Prod.fst).dedup.length := by
    rw [← perm.length_eq, keys, List.length_map]
  have names : (entries.map Prod.fst).length = entries.length := List.length_map Prod.fst
  rw [length, ← names, (List.dedup_sublist _).length_eq, List.dedup_eq_self]

theorem insert_perm (free : find? key map = none) (value : α) :
    (insert key value map).Perm ((key, value) :: map) := by
  induction map with
  | nil => exact .refl _
  | cons entry rest ih =>
    unfold find? at free
    split at free
    · cases free
    · rename_i different
      unfold insert
      rw [if_neg different]
      split
      · exact .refl _
      · exact ((ih free).cons entry).trans (.swap _ _ _)

theorem mem_keys_insert {added : String} : key ∈ keys (insert added value map) ↔ key = added ∨ key ∈ keys map := by
  have absent : key ∉ keys (insert added value map) ↔ ¬ (key = added ∨ key ∈ keys map) := by
    have elsewhere : key ∉ keys map ↔ find? key map = none := find?_eq_none_iff.symm
    rw [← find?_eq_none_iff, find?_insert, not_or, elsewhere]
    split
    · rename_i same
      simp [same]
    · rename_i different
      simp [Ne.symm different]
  exact not_iff_not.mp absent

-- Where no key is given twice, nothing that was given is lost.
theorem ofList_perm (nodup : (keys entries).Nodup) : (ofList entries).Perm entries := by
  induction entries using List.reverseRecOn with
  | nil => exact .refl _
  | append_singleton entries entry ih =>
    rw [keys, List.map_append, List.nodup_append] at nodup
    obtain ⟨others, _, apart⟩ := nodup
    have free : find? entry.1 (ofList entries) = none := by
      rw [find?_eq_none_iff, mem_keys_ofList]
      exact fun member => apart _ member _ (List.mem_singleton_self _) rfl
    rw [ofList_concat]
    exact (insert_perm free entry.2).trans
      (((ih others).cons entry).trans (List.perm_append_singleton entry entries).symm)

end SpringSkeleton.Keyed
