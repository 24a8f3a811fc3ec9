import SpringSkeleton.Proofs.Tree.Growth

namespace SpringSkeleton.Tree

abbrev Files := List (Location × Content)

def Misses (files : Files) (place : Location) : Prop := ∀ content, (place, content) ∉ files

-- The listed files stand at their places; elsewhere only directories are new.
structure Overlays (fresh : Location → Prop) (files : Files) (before after : Tree) : Prop where
  held : ∀ place content, (place, content) ∈ files → after.node? place = some (.file content)
  kept : ∀ place, Misses files place → after.node? place = before.node? place ∨
    before.node? place = none ∧ after.node? place = some .directory ∧ fresh place

variable {fresh : Location → Prop} {files others : Files} {before middle after : Tree}
variable {place : Location} {content : Content}

-- Directories stay when files are written or dropped where no directory stands.
theorem put_keeps {tree : Tree} (somewhere : place ≠ []) (unused : tree.node? place ≠ some .directory)
    (node : Node) {other : Location} (stands : tree.node? other = some .directory) :
    (tree.put place node).node? other = some .directory := by
  have apart : other ≠ place := fun here => unused (here ▸ stands)
  rw [node?_put _ somewhere, if_neg apart]
  exact stands

theorem drop_keeps {tree : Tree} (somewhere : place ≠ []) (unused : tree.node? place ≠ some .directory)
    {other : Location} (stands : tree.node? other = some .directory) :
    (tree.drop place).node? other = some .directory := by
  have apart : other ≠ place := fun here => unused (here ▸ stands)
  rw [node?_drop _ somewhere, if_neg apart]
  exact stands

theorem node?_move (tree : Tree) {source target : Location} (somewhere : source ≠ [])
    (targetSomewhere : target ≠ []) (node : Node) (other : Location) :
    ((tree.drop source).put target node).node? other =
      if other = target then some node else if other = source then none else tree.node? other := by
  rw [node?_put _ targetSomewhere, node?_drop _ somewhere]

-- A directory is neither what moves nor what is replaced.
theorem move_keeps {tree : Tree} {source target : Location} (somewhere : source ≠ [])
    (targetSomewhere : target ≠ []) (file : tree.node? source ≠ some .directory)
    (unused : tree.node? target ≠ some .directory) (node : Node) {other : Location}
    (stands : tree.node? other = some .directory) :
    ((tree.drop source).put target node).node? other = some .directory := by
  have apart : other ≠ source := fun here => file (here ▸ stands)
  have beside : other ≠ target := fun here => unused (here ▸ stands)
  rw [node?_move _ somewhere targetSomewhere, if_neg beside, if_neg apart]
  exact stands

theorem overlays_nil : Overlays fresh [] before after ↔ Grows fresh before after := by
  constructor
  · intro overlays place
    exact overlays.kept place fun _ => List.not_mem_nil
  · intro grows
    exact ⟨fun _ _ member => absurd member List.not_mem_nil, fun place _ => grows place⟩

theorem Overlays.congr (overlays : Overlays fresh files before after)
    (same : ∀ file, file ∈ files ↔ file ∈ others) : Overlays fresh others before after := by
  refine ⟨fun place content member => overlays.held place content ((same _).mpr member), ?_⟩
  intro place misses
  exact overlays.kept place fun content member => misses content ((same _).mp member)

theorem Overlays.linkFree (overlays : Overlays fresh files before after) (linkFree : before.LinkFree) :
    after.LinkFree := by
  intro place target stands
  by_cases listed : ∃ content, (place, content) ∈ files
  · obtain ⟨content, member⟩ := listed
    rw [overlays.held place content member] at stands
    cases stands
  · rcases overlays.kept place (not_exists.mp listed) with same | ⟨_, made, _⟩
    · exact linkFree place target (same ▸ stands)
    · rw [made] at stands
      cases stands

theorem Overlays.grow (overlays : Overlays fresh files before middle) (grows : Grows fresh middle after) :
    Overlays fresh files before after := by
  refine ⟨fun place content member => grows.keeps (overlays.held place content member), ?_⟩
  intro place misses
  rcases grows place with same | ⟨none, made, new⟩
  · rw [same]
    exact overlays.kept place misses
  · rcases overlays.kept place misses with same | ⟨_, standing, _⟩
    · exact .inr ⟨same ▸ none, made, new⟩
    · rw [standing] at none
      cases none

theorem Overlays.put (overlays : Overlays fresh files before after) (somewhere : place ≠ [])
    (misses : Misses files place) (content : Content) :
    Overlays fresh ((place, content) :: files) before (after.put place (.file content)) := by
  refine ⟨?_, ?_⟩
  · intro other held member
    rw [node?_put _ somewhere]
    rcases List.mem_cons.mp member with here | listed
    · cases here
      exact if_pos rfl
    · have apart : other ≠ place := fun same => misses held (same ▸ listed)
      rw [if_neg apart]
      exact overlays.held other held listed
  · intro other absent
    have apart : other ≠ place := fun same => absent content (same ▸ List.mem_cons_self)
    rw [node?_put _ somewhere, if_neg apart]
    exact overlays.kept other fun held listed => absent held (List.mem_cons_of_mem _ listed)

theorem Overlays.drop (overlays : Overlays fresh ((place, content) :: files) before after)
    (somewhere : place ≠ []) (misses : Misses files place) (free : before.node? place = none) :
    Overlays fresh files before (after.drop place) := by
  refine ⟨?_, ?_⟩
  · intro other held listed
    have apart : other ≠ place := fun same => misses held (same ▸ listed)
    rw [node?_drop _ somewhere, if_neg apart]
    exact overlays.held other held (List.mem_cons_of_mem _ listed)
  · intro other absent
    rw [node?_drop _ somewhere]
    by_cases here : other = place
    · rw [if_pos here, here, free]
      exact .inl rfl
    · rw [if_neg here]
      refine overlays.kept other fun held member => ?_
      rcases List.mem_cons.mp member with same | listed
      · exact here (congrArg Prod.fst same)
      · exact absent held listed

end SpringSkeleton.Tree
