import SpringSkeleton.Proofs.Tree.Way

namespace SpringSkeleton

namespace Tree
variable {tree other : Tree} {place : Location} {steps front : List String}

-- The same stands wherever the steps go down to.
def SameAlong (tree other : Tree) (place : Location) (steps : List String) : Prop :=
  ∀ front name, front ++ [name] <+: steps → name ≠ ".." →
    other.node? (place.descend front ++ [name]) = tree.node? (place.descend front ++ [name])

theorem SameAlong.initial (same : SameAlong tree other place steps) (initial : front <+: steps) :
    SameAlong tree other place front := by
  intro before name nearer down
  exact same before name (nearer.trans initial) down

theorem SameAlong.pass (same : SameAlong tree other place steps) :
    other.pass place steps = tree.pass place steps := by
  induction steps generalizing place with
  | nil => rfl
  | cons step rest ih =>
    have further : SameAlong tree other (place.climb step) rest := by
      intro front name initial down
      exact same (step :: front) name (List.cons_prefix_cons.mpr ⟨rfl, initial⟩) down
    have next := ih further
    unfold Tree.pass
    by_cases up : step = ".."
    · rw [Location.climb, if_pos up] at next
      rw [if_pos up, if_pos up, next]
    · rw [Location.climb_name place up] at next
      have here : other.node? (place ++ [step]) = tree.node? (place ++ [step]) :=
        same [] step (by simp) up
      rw [if_neg up, if_neg up, here, next]

section LinkFree

variable (linkFree : tree.LinkFree)
include linkFree

-- What is found at the end of a route is the same as well, since the last step is one of them.
theorem SameAlong.walk {route : Route} {follow : Bool}
    (same : SameAlong tree other (if route.fromRoot then [] else place) route.steps)
    (named : route.ending ≠ .dots → ∃ front name, route.steps = front ++ [name] ∧ name ≠ "..") :
    other.walk follow place route = tree.walk follow place route := by
  unfold Tree.walk
  by_cases dots : route.ending = .dots
  · simp only [dots, if_true]
    rw [same.pass]
  · obtain ⟨front, name, order, down⟩ := named dots
    have ending : (if route.ending = .dots then none else route.steps.getLast?) = some name := by
      simp [dots, order]
    have holder : route.steps.dropLast = front := by simp [order]
    rw [order] at same
    have before := (same.initial (List.prefix_append front [name])).pass
    simp only [ending, holder, before]
    cases passed : tree.pass (if route.fromRoot then [] else place) front with
    | error problem => rfl
    | ok stop =>
      obtain ⟨_, rfl⟩ := leads_of_pass linkFree passed
      simp only
      rw [same front name List.prefix_rfl down]

theorem SameAlong.spot {route : Route} {follow : Bool} {links : Nat}
    (same : SameAlong tree other (if route.fromRoot then [] else place) route.steps)
    (named : route.ending ≠ .dots → ∃ front name, route.steps = front ++ [name] ∧ name ≠ "..") :
    other.spot follow links place route = tree.spot follow links place route := by
  have alike : other.walk follow place route = tree.walk follow place route := same.walk linkFree named
  cases walked : tree.walk follow place route with
  | error problem => rw [spot_error walked, spot_error (alike.trans walked)]
  | ok halt =>
    obtain ⟨found, rfl⟩ := arrives linkFree walked
    rw [spot_arrived walked, spot_arrived (alike.trans walked)]

end LinkFree

-- The root has no entry that could be written.
theorem lookup_root_put (tree : Tree) (place : Location) (node : Node) :
    (tree.put place node).entries.lookup [] = tree.entries.lookup [] := by
  by_cases root : place = []
  · rw [put, if_pos root]
  · rw [lookup_put tree root, if_neg (Ne.symm root)]

end Tree

namespace Disk
variable {disk other made : Disk} {path outer : Path}

-- The same stands on the way of a path, without links anywhere.
structure SameOnWay (path : Path) (disk other : Disk) : Prop where
  workingDirectory : other.workingDirectory = disk.workingDirectory
  linkFree : disk.tree.LinkFree
  otherFree : other.tree.LinkFree
  same : ∀ place, disk.OnWay path place → other.tree.node? place = disk.tree.node? place

-- Two runs end alike: with one result, and the same on the way of the path.
structure EndsAlike {α : Type} (path : Path) (run also : α × Disk) : Prop where
  result : also.1 = run.1
  same : SameOnWay path run.2 also.2

theorem SameOnWay.begin (same : SameOnWay path disk other) (begins : Begins outer path) :
    SameOnWay outer disk other :=
  ⟨same.workingDirectory, same.linkFree, same.otherFree,
    fun place onWay => same.same place (begins.onWay onWay)⟩

theorem SameOnWay.findOn (same : SameOnWay path disk other) (follow : Bool) {route : Route}
    (steps : route.steps = path.steps) (fromRoot : route.fromRoot = path.isAbsolute)
    (open_ : route.ending ≠ .dots → (Route.ofText path.text).ending ≠ .dots) :
    other.findOn follow path route = disk.findOn follow path route := by
  have along : Tree.SameAlong disk.tree other.tree (disk.start path) path.steps := by
    intro front name initial down
    exact same.same _ ⟨front, name, initial, down, rfl⟩
  rw [findOn_eq, findOn_eq, same.workingDirectory]
  cases path.fault? with
  | some problem => rfl
  | none =>
    apply Tree.SameAlong.spot same.linkFree
    · rw [steps, fromRoot]
      exact along
    · intro goesOn
      obtain ⟨front, name, order, isName⟩ := Path.steps_of_ending (open_ goesOn)
      exact ⟨front, name, by rw [steps, order], isName.down⟩

theorem SameOnWay.find (same : SameOnWay path disk other) (follow : Bool) :
    other.find follow path = disk.find follow path :=
  same.findOn follow path.ofText_steps path.ofText_fromRoot id

theorem SameOnWay.findToMake (same : SameOnWay path disk other) :
    other.findToMake path = disk.findToMake path := by
  refine same.findOn false (Route.bare_steps.trans path.ofText_steps)
    (Route.bare_fromRoot.trans path.ofText_fromRoot) fun open_ dots => open_ ?_
  rw [Route.bare, if_neg (by simp [dots]), dots]

theorem SameOnWay.isDirectory (same : SameOnWay path disk other) :
    other.isDirectory path = disk.isDirectory path := by
  unfold Disk.isDirectory stat
  rw [same.find]

theorem SameOnWay.makeDirectory (same : SameOnWay path disk other) (begins : Begins outer path) :
    match disk.makeDirectory outer with
    | .ok made => ∃ also, other.makeDirectory outer = .ok also ∧ SameOnWay path made also
    | .error problem => other.makeDirectory outer = .error problem := by
  have found := (same.begin begins).findToMake
  have place : other.placeOf outer = disk.placeOf outer := placeOf_congr same.workingDirectory outer
  cases first : disk.makeDirectory outer with
  | error problem =>
    unfold Disk.makeDirectory at first ⊢
    rw [found]
    cases spotted : disk.findToMake outer with
    | error cause => simpa [spotted] using first
    | ok spot =>
      obtain ⟨goal, node, ending⟩ := spot
      cases node with
      | some node => simpa [spotted] using first
      | none => simp [spotted] at first
  | ok made =>
    obtain ⟨also, second⟩ : ∃ also, other.makeDirectory outer = .ok also := by
      unfold Disk.makeDirectory at first ⊢
      rw [found]
      cases spotted : disk.findToMake outer with
      | error cause => simp [spotted] at first
      | ok spot =>
        obtain ⟨goal, node, ending⟩ := spot
        cases node with
        | some node => simp [spotted] at first
        | none => exact ⟨_, rfl⟩
    have grown := (makeDirectory_enlarges same.linkFree first).1
    have alsoGrown := (makeDirectory_enlarges same.otherFree second).1
    obtain ⟨front, name, order, isName, _, _, _, _, rfl⟩ := makeDirectory_ok same.linkFree first
    obtain ⟨_, _, _, _, _, _, _, _, rfl⟩ := makeDirectory_ok same.otherFree second
    have somewhere : disk.placeOf outer ≠ [] := by simp [placeOf_concat order isName.down]
    refine ⟨_, second, same.workingDirectory, grown.grows.linkFree same.linkFree,
      alsoGrown.grows.linkFree same.otherFree, ?_⟩
    intro goal onWay
    rw [withTree_tree, withTree_tree, place, Tree.node?_put _ somewhere, Tree.node?_put _ somewhere,
      same.same goal onWay]

theorem SameOnWay.attempt (same : SameOnWay path disk other) (begins : Begins outer path) :
    EndsAlike path (disk.attempt outer) (other.attempt outer) := by
  have step := same.makeDirectory begins
  unfold Disk.attempt
  cases first : disk.makeDirectory outer with
  | ok made =>
    rw [first] at step
    obtain ⟨also, second, after⟩ := step
    rw [second]
    exact ⟨rfl, after⟩
  | error problem =>
    rw [first] at step
    rw [show other.makeDirectory outer = .error problem from step, (same.begin begins).isDirectory]
    cases disk.isDirectory outer with
    | true => exact ⟨rfl, same⟩
    | false => exact ⟨rfl, same⟩

theorem SameOnWay.missing_iff (same : SameOnWay path disk other) (begins : Begins outer path) :
    other.makeDirectory outer = .error .missing ↔ disk.makeDirectory outer = .error .missing := by
  have step := same.makeDirectory begins
  cases first : disk.makeDirectory outer with
  | ok made =>
    rw [first] at step
    obtain ⟨also, second, _⟩ := step
    simp [second]
  | error problem =>
    rw [first] at step
    rw [show other.makeDirectory outer = .error problem from step]

-- From the outermost missing directory inwards, step by step on both disks.
theorem SameOnWay.makeChain (same : SameOnWay path disk other) {chain : List Path}
    (begin : ∀ outer ∈ chain, Begins outer path) :
    EndsAlike path (disk.makeChain chain) (other.makeChain chain) := by
  induction chain with
  | nil => exact ⟨rfl, same⟩
  | cons nearest chain ih =>
    have begins := begin nearest List.mem_cons_self
    have further := ih fun outer member => begin outer (List.mem_cons_of_mem _ member)
    by_cases empty : nearest.text = ""
    · unfold Disk.makeChain
      rw [if_pos empty, if_pos empty]
      exact ⟨rfl, same⟩
    · have alike := same.missing_iff begins
      by_cases missing : disk.makeDirectory nearest = .error .missing
      · rw [makeChain_missing empty missing, makeChain_missing empty (alike.mpr missing)]
        obtain ⟨result, after⟩ := further
        cases first : disk.makeChain chain with
        | mk outcome reached =>
          cases second : other.makeChain chain with
          | mk others also =>
            rw [first, second] at result after
            obtain rfl : others = outcome := result
            cases others with
            | error problem => exact ⟨rfl, after⟩
            | ok done => exact after.attempt begins
      · rw [makeChain_attempt empty missing, makeChain_attempt empty (mt alike.mp missing)]
        exact same.attempt begins

theorem SameOnWay.makeDirectoriesFor (same : SameOnWay path disk other) :
    EndsAlike path (disk.makeDirectoriesFor path) (other.makeDirectoriesFor path) := by
  have alike : EndsAlike path (disk.makeDirectories path) (other.makeDirectories path) := by
    unfold makeDirectories
    exact same.makeChain fun _ member => ancestors_begin member
  unfold Disk.makeDirectoriesFor
  cases first : disk.makeDirectories path with
  | mk outcome reached =>
    cases second : other.makeDirectories path with
    | mk others also =>
      rw [first, second] at alike
      obtain ⟨result, after⟩ := alike
      obtain rfl : others = outcome := result
      cases others with
      | ok done => exact ⟨rfl, after⟩
      | error problem => exact ⟨rfl, after⟩

-- No directory is made in the place of the root.
theorem makeDirectory_root (done : disk.makeDirectory path = .ok made) :
    made.tree.entries.lookup [] = disk.tree.entries.lookup [] := by
  unfold makeDirectory at done
  split at done
  · cases done
  · cases done
  · cases done
    exact Tree.lookup_root_put _ _ _

theorem attempt_root (disk : Disk) (path : Path) :
    (disk.attempt path).2.tree.entries.lookup [] = disk.tree.entries.lookup [] := by
  obtain ⟨_, done, same⟩ | ⟨_, same⟩ | ⟨_, same⟩ := attempt_cases disk path
  · rw [same]
    exact makeDirectory_root done
  · rw [same]
  · rw [same]

theorem makeDirectoriesFor_root (disk : Disk) (path : Path) :
    (disk.makeDirectoriesFor path).2.tree.entries.lookup [] = disk.tree.entries.lookup [] :=
  makeDirectoriesFor_keeps (fun now => now.tree.entries.lookup [] = disk.tree.entries.lookup []) rfl path
    fun now kept outer _ => (attempt_root now outer).trans kept

end Disk
end SpringSkeleton
