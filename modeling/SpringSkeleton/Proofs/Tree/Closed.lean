import Mathlib.Data.List.Induction
import SpringSkeleton.Proofs.Tree.Walk

namespace SpringSkeleton.Tree

-- Whatever stands anywhere stands in a directory.
def Closed (tree : Tree) : Prop :=
  ∀ place name, tree.node? (place ++ [name]) ≠ none → tree.node? place = some .directory

theorem closed_of_entries {tree : Tree}
    (each : ∀ entry ∈ tree.entries, tree.node? entry.1.dropLast = some .directory) : tree.Closed := by
  intro place name stands
  obtain ⟨node, there⟩ := Option.ne_none_iff_exists'.mp stands
  have above := each _ (mem_entries (by simp) there)
  rwa [List.dropLast_concat] at above

theorem Closed.above {tree : Tree} (closed : tree.Closed) {place : Location} {names : List String}
    (some_ : names ≠ []) (stands : tree.node? (place ++ names) ≠ none) :
    tree.node? place = some .directory := by
  induction names using List.reverseRecOn with
  | nil => exact absurd rfl some_
  | append_singleton front last ih =>
    rw [← List.append_assoc] at stands
    have directory := closed _ _ stands
    by_cases alone : front = []
    · rwa [alone, List.append_nil] at directory
    · exact ih alone (by simp [directory])

-- A walk that leaves a place where nothing stands and ends somewhere climbs on the way.
theorem Closed.climbs {tree : Tree} (closed : tree.Closed) {place : Location} {steps : List String}
    (missing : tree.node? place = none) (arrives : tree.node? (place.descend steps) ≠ none) :
    ∃ front, front ++ [".."] <+: steps ∧ tree.node? (place.descend front) = none := by
  induction steps generalizing place with
  | nil => exact absurd missing arrives
  | cons step rest ih =>
    by_cases up : step = ".."
    · exact ⟨[], ⟨rest, by simp [up]⟩, missing⟩
    · have further : tree.node? (place.climb step) = none := by
        by_contra stands
        rw [Location.climb_name place up] at stands
        rw [closed place step stands] at missing
        cases missing
      obtain ⟨front, initial, free⟩ := ih further arrives
      refine ⟨step :: front, ?_, free⟩
      obtain ⟨after, rfl⟩ := initial
      exact ⟨after, rfl⟩

-- A walk that succeeds only after directories were made comes by a place where nothing stood.
theorem Leads.missing {before after : Tree}
    (made : ∀ place, after.node? place = some .directory →
      before.node? place = some .directory ∨ before.node? place = none)
    {place : Location} {steps : List String} (leads : after.Leads place steps)
    (lost : ¬ before.Leads place steps) : ∃ front name back, steps = front ++ name :: back ∧
      name ≠ ".." ∧ before.node? (place.descend front ++ [name]) = none := by
  induction steps generalizing place with
  | nil => exact absurd trivial lost
  | cons step rest ih =>
    by_cases further : before.Leads (place.climb step) rest
    · have down : step ≠ ".." := fun up => lost ⟨fun down => absurd up down, further⟩
      obtain ⟨short, stands⟩ := leads.1 down
      refine ⟨[], step, rest, rfl, down, ?_⟩
      rcases made _ stands with stood | free
      · exact absurd ⟨fun _ => ⟨short, stood⟩, further⟩ lost
      · exact free
    · obtain ⟨front, name, back, rfl, down, free⟩ := ih leads.2 further
      exact ⟨step :: front, name, back, rfl, down, free⟩

end SpringSkeleton.Tree
