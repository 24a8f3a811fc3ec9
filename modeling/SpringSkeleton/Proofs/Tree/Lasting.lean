import SpringSkeleton.Proofs.Tree.Way

namespace SpringSkeleton

namespace Tree
variable {tree before middle after : Tree} {place : Location} {steps : List String} {links : Nat}

-- Directories and links stay as they are, and files stay files.
structure Lasts (before after : Tree) : Prop where
  directory : ∀ place, before.node? place = some .directory → after.node? place = some .directory
  link : ∀ place target, before.node? place = some (.link target) →
    after.node? place = some (.link target)
  file : ∀ place content, before.node? place = some (.file content) →
    ∃ other, after.node? place = some (.file other)

theorem Lasts.trans (first : Lasts before middle) (second : Lasts middle after) : Lasts before after := by
  refine ⟨fun place stands => second.directory place (first.directory place stands),
    fun place target stands => second.link place target (first.link place target stands), ?_⟩
  intro place content stands
  obtain ⟨other, there⟩ := first.file place content stands
  exact second.file place other there

theorem Grows.lasts {fresh : Location → Prop} (grows : Grows fresh before after) : Lasts before after :=
  ⟨fun _ => grows.keeps, fun _ _ => grows.keeps, fun _ content stands => ⟨content, grows.keeps stands⟩⟩

-- A file may be written where no directory and no link stands.
theorem lasts_put (somewhere : place ≠ []) (unused : tree.node? place ≠ some .directory)
    (open_ : ∀ target, tree.node? place ≠ some (.link target)) (content : Content) :
    Lasts tree (tree.put place (.file content)) := by
  refine ⟨fun other stands => put_keeps somewhere unused _ stands, ?_, ?_⟩
  · intro other target stands
    have apart : other ≠ place := fun here => open_ target (here ▸ stands)
    rw [node?_put _ somewhere, if_neg apart]
    exact stands
  · intro other old stands
    rw [node?_put _ somewhere]
    by_cases here : other = place
    · exact ⟨content, if_pos here⟩
    · exact ⟨old, by rw [if_neg here, stands]⟩

section Found
variable {follow : Bool} {route : Route} {found : Spot}

-- Whatever a walk came by is still there.
theorem Lasts.pass (lasts : Lasts before after) {stop : Stop}
    (passed : before.pass place steps = .ok stop) : after.pass place steps = .ok stop := by
  induction steps generalizing place with
  | nil => exact passed
  | cons step rest ih =>
    unfold Tree.pass at passed ⊢
    by_cases up : step = ".."
    · rw [if_pos up] at passed ⊢
      exact ih passed
    · rw [if_neg up] at passed ⊢
      split at passed
      · cases passed
      · rename_i short
        rw [if_neg short]
        cases stands : before.node? (place ++ [step]) with
        | none => simp [stands] at passed
        | some node =>
          rw [stands] at passed
          cases node with
          | directory =>
            rw [lasts.directory _ stands]
            exact ih passed
          | file content => cases passed
          | link target =>
            rw [lasts.link _ _ stands]
            exact passed

theorem Lasts.detour (lasts : Lasts before after) {goal : Location} {other : Route}
    (walked : before.walk follow place route = .ok (.detour goal other)) :
    after.walk follow place route = .ok (.detour goal other) := by
  refine Walks.walk ?_
  cases walks_of_walk walked with
  | dotsLink last passed => exact .dotsLink last (lasts.pass passed)
  | innerLink last passed => exact .innerLink last (lasts.pass passed)
  | lastLink last passed short stands follows =>
    exact .lastLink last (lasts.pass passed) short (lasts.link _ _ stands) follows

theorem Lasts.arrived (lasts : Lasts before after)
    (walked : before.walk follow place route = .ok (.arrived found)) (plain : found.ending = .plain)
    (open_ : ∀ target, after.node? found.place ≠ some (.link target)) :
    after.walk follow place route = .ok (.arrived ⟨found.place, after.node? found.place, .plain⟩) := by
  refine Walks.walk ?_
  cases walks_of_walk walked with
  | dots => cases plain
  | name last passed short =>
    have ends : route.ending = .plain := plain
    rw [← ends]
    exact .name last (lasts.pass passed) short fun target stands => absurd stands (open_ target)

-- The walks for a path: each but the last comes to a link.
inductive Finds (tree : Tree) (follow : Bool) : Nat → Location → Route → Spot → Prop where
  | here {links : Nat} {place : Location} {route : Route} {found : Spot}
      (walked : tree.walk follow place route = .ok (.arrived found)) :
      Finds tree follow links place route found
  | further {links : Nat} {place goal : Location} {route other : Route} {found : Spot}
      (walked : tree.walk follow place route = .ok (.detour goal other))
      (finds : Finds tree follow links goal other found) :
      Finds tree follow (links + 1) place route found

theorem finds_of_spot (spotted : tree.spot follow links place route = .ok found) :
    Finds tree follow links place route found := by
  induction links generalizing place route with
  | zero =>
    unfold Tree.spot at spotted
    split at spotted
    · cases spotted
    · rename_i walked
      cases spotted
      exact .here walked
    · cases spotted
  | succ links ih =>
    unfold Tree.spot at spotted
    split at spotted
    · cases spotted
    · rename_i walked
      cases spotted
      exact .here walked
    · rename_i walked
      exact .further walked (ih spotted)

theorem Finds.spot (finds : Finds tree follow links place route found) :
    tree.spot follow links place route = .ok found := by
  induction finds with
  | here walked => exact spot_arrived walked
  | further walked _ ih =>
    unfold Tree.spot
    rw [walked]
    exact ih

-- The last of the walks for a path ends where the path does.
theorem Finds.last (finds : Finds tree follow links place route found) :
    ∃ goal other, tree.walk follow goal other = .ok (.arrived found) := by
  induction finds with
  | here walked => exact ⟨_, _, walked⟩
  | further _ _ ih => exact ih

theorem spot_dots_or_stands (spotted : tree.spot follow links place route = .ok found) :
    found.node = some .directory ∧ found.ending = .dots ∨ found.place ≠ [] ∧
      tree.node? found.place = found.node ∧
      ∀ target, found.node = some (.link target) → follow = false := by
  obtain ⟨goal, other, walked⟩ := (finds_of_spot spotted).last
  cases walks_of_walk walked with
  | dots => exact .inl ⟨rfl, rfl⟩
  | name last passed short stays =>
    refine .inr ⟨by simp, rfl, fun target stands => ?_⟩
    have stays := stays target stands
    rw [Bool.not_eq_true, Bool.or_eq_false_iff] at stays
    exact stays.1

-- What stands at the end stands there in the tree, and not in the place of the root.
theorem spot_node (spotted : tree.spot follow links place route = .ok found)
    (other : found.node ≠ some .directory) :
    found.place ≠ [] ∧ tree.node? found.place = found.node := by
  rcases spot_dots_or_stands spotted with ⟨directory, _⟩ | ⟨somewhere, stands, _⟩
  · exact absurd directory other
  · exact ⟨somewhere, stands⟩

theorem spot_followed (spotted : tree.spot true links place route = .ok found) (target : String) :
    found.node ≠ some (.link target) := by
  rcases spot_dots_or_stands spotted with ⟨directory, _⟩ | ⟨_, _, stays⟩
  · simp [directory]
  · exact fun link => nomatch stays target link

-- A path that ends in dots does so when links are followed.
theorem Finds.dotted (finds : Finds tree follow links place route found) (dots : route.ending = .dots) :
    found.ending = .dots := by
  induction finds with
  | here walked =>
    cases walks_of_walk walked with
    | dots => rfl
    | name => exact dots
  | further walked _ ih =>
    cases walks_of_walk walked with
    | dotsLink => exact ih rfl
    | innerLink last | lastLink last => simp [dots] at last

-- A path that was that of a file leads to the same place, whatever that holds now.
theorem Lasts.spot (lasts : Lasts before after)
    (spotted : before.spot follow links place route = .ok found) (plain : found.ending = .plain)
    (open_ : ∀ target, after.node? found.place ≠ some (.link target)) :
    after.spot follow links place route = .ok ⟨found.place, after.node? found.place, .plain⟩ := by
  refine Finds.spot ?_
  induction finds_of_spot spotted with
  | here walked => exact .here (lasts.arrived walked plain open_)
  | further walked finds ih => exact .further (lasts.detour walked) (ih finds.spot plain open_)

end Found

end Tree

namespace Disk
variable {disk middle after : Disk} {path : Path} {place : Location} {content : Content}

structure Lasts (disk after : Disk) : Prop where
  workingDirectory : after.workingDirectory = disk.workingDirectory
  tree : disk.tree.Lasts after.tree

theorem Lasts.trans (first : Lasts disk middle) (second : Lasts middle after) : Lasts disk after :=
  ⟨second.workingDirectory.trans first.workingDirectory, first.tree.trans second.tree⟩

-- The path leads to a file that holds this.
def Holds (disk : Disk) (path : Path) (place : Location) (content : Content) : Prop :=
  disk.find true path = .ok ⟨place, some (.file content), .plain⟩

theorem Holds.admissible (holds : disk.Holds path place content) : path.Admissible :=
  (findOn_eq_ok_iff.mp holds).1

theorem Holds.readText {text : String} (holds : disk.Holds path place (.text text)) :
    disk.readText path = .ok text := by
  have found : disk.stat path = .ok (place, .file (.text text)) := by
    rw [stat, show disk.find true path = _ from holds]
    rfl
  rw [Disk.readText, found]

theorem Lasts.find (lasts : Lasts disk after) {found : Tree.Spot}
    (leads : disk.find true path = .ok found) (plain : found.ending = .plain)
    (open_ : ∀ target, after.tree.node? found.place ≠ some (.link target)) :
    after.find true path = .ok ⟨found.place, after.tree.node? found.place, .plain⟩ := by
  obtain ⟨admissible, spotted⟩ := findOn_eq_ok_iff.mp leads
  refine findOn_eq_ok_iff.mpr ⟨admissible, ?_⟩
  rw [lasts.workingDirectory]
  exact lasts.tree.spot spotted plain open_

theorem Holds.node (holds : disk.Holds path place content) :
    disk.tree.node? place = some (.file content) :=
  (Tree.spot_node (findOn_eq_ok_iff.mp holds).2 (by simp)).2

-- Where a file stood, a file stands.
theorem Holds.lasts (holds : disk.Holds path place content) (lasts : Lasts disk after) :
    ∃ other, after.Holds path place other ∧ after.tree.node? place = some (.file other) := by
  obtain ⟨other, stands⟩ := lasts.tree.file place content holds.node
  have found := lasts.find holds rfl (by simp [stands])
  rw [stands] at found
  exact ⟨other, found, stands⟩

section Steps

theorem makeDirectory_grows (made : disk.makeDirectory path = .ok after) :
    Enlarges (fun _ => True) disk after := by
  unfold makeDirectory at made
  split at made
  · cases made
  · cases made
  · rename_i goal ending found
    cases made
    obtain ⟨somewhere, empty⟩ := Tree.spot_node (findOn_eq_ok_iff.mp found).2 (by simp)
    refine ⟨rfl, fun other => ?_⟩
    rw [withTree_tree, Tree.node?_put _ somewhere]
    by_cases here : other = goal
    · exact .inr ⟨here ▸ empty, if_pos here, trivial⟩
    · exact .inl (if_neg here)

theorem attempt_grows (disk : Disk) (path : Path) : Enlarges (fun _ => True) disk (disk.attempt path).2 := by
  obtain ⟨_, done, same⟩ | ⟨_, same⟩ | ⟨_, same⟩ := attempt_cases disk path
  · rw [same]
    exact makeDirectory_grows done
  · rw [same]
    exact .refl
  · rw [same]
    exact .refl

theorem makeDirectoriesFor_grows (disk : Disk) (path : Path) :
    Enlarges (fun _ => True) disk (disk.makeDirectoriesFor path).2 :=
  makeDirectoriesFor_keeps (Enlarges (fun _ => True) disk) .refl path
    fun now grown outer _ => grown.trans (attempt_grows now outer)

theorem makeParentFor_grows (disk : Disk) (path : Path) :
    Enlarges (fun _ => True) disk (disk.makeParentFor path).2 := by
  unfold makeParentFor
  split
  · exact .refl
  · exact makeDirectoriesFor_grows disk _

theorem Enlarges.lasts {fresh : Location → Prop} (grown : Enlarges fresh disk after) : Lasts disk after :=
  ⟨grown.workingDirectory, grown.grows.lasts⟩

-- Besides what lasts, files outside certain places keep what they hold.
structure Spares (touched : Location → Prop) (disk after : Disk) : Prop where
  lasts : Lasts disk after
  kept : ∀ place content, ¬touched place → disk.tree.node? place = some (.file content) →
    after.tree.node? place = some (.file content)

theorem Enlarges.spares {fresh touched : Location → Prop} (grown : Enlarges fresh disk after) :
    Spares touched disk after :=
  ⟨grown.lasts, fun _ _ _ => grown.grows.keeps⟩

theorem Spares.trans {touched : Location → Prop} (first : Spares touched disk middle)
    (second : Spares touched middle after) : Spares touched disk after :=
  ⟨first.lasts.trans second.lasts, fun place content apart stands =>
    second.kept place content apart (first.kept place content apart stands)⟩

theorem Holds.spared {touched : Location → Prop} (holds : disk.Holds path place content)
    (spares : Spares touched disk after) (apart : ¬touched place) : after.Holds path place content := by
  obtain ⟨other, found, stands⟩ := holds.lasts spares.lasts
  rw [spares.kept place content apart holds.node] at stands
  cases stands
  exact found

theorem findToWrite_found {found : Tree.Spot} (leads : disk.findToWrite path = .ok found)
    (plain : found.ending = .plain) : disk.find true path = .ok found := by
  by_cases slash : (Route.ofText path.text).ending = .slash
  · have holder : (Route.ofText path.text).holder.ending = .dots := by simp [Route.holder, slash]
    simp only [findToWrite, slash, if_true] at leads
    have dots := (Tree.finds_of_spot (findOn_eq_ok_iff.mp leads).2).dotted holder
    simp [dots] at plain
  · simp only [findToWrite, slash, if_false] at leads
    exact leads

-- A file is written where its path leads, and the path leads there afterwards.
theorem writeFile_holds (written : disk.writeFile path content = .ok after) :
    ∃ place, after.Holds path place content ∧ Spares (· = place) disk after := by
  obtain ⟨place, node, found, file, rfl⟩ := writeFile_found written
  have followed := findToWrite_found found rfl
  obtain ⟨_, spotted⟩ := findOn_eq_ok_iff.mp followed
  obtain ⟨somewhere, stands⟩ := Tree.spot_node spotted file
  have lasts : Lasts disk (disk.withTree (disk.tree.put place (.file content))) :=
    ⟨rfl, Tree.lasts_put somewhere (by rw [stands]; exact file)
      (by rw [stands]; exact Tree.spot_followed spotted) content⟩
  have here : (disk.tree.put place (.file content)).node? place = some (.file content) := by
    rw [Tree.node?_put _ somewhere, if_pos rfl]
  refine ⟨place, ?_, lasts, fun other old apart old_ => ?_⟩
  · have leads := lasts.find followed rfl (by simp [here])
    rwa [withTree_tree, here] at leads
  · rw [withTree_tree, Tree.node?_put _ somewhere, if_neg apart]
    exact old_

theorem perform_directory (run : disk.perform (.directory path) = (.ok (), after)) :
    Enlarges (fun _ => True) disk after := by
  have grown := makeDirectoriesFor_grows disk path
  rwa [show disk.makeDirectoriesFor path = (.ok (), after) from run] at grown

theorem perform_file {text : String} (run : disk.perform (.file path text) = (.ok (), after)) :
    ∃ place, after.Holds path place (.text text) ∧ Spares (· = place) disk after := by
  have grown := makeParentFor_grows disk path
  obtain ⟨reached, made, written⟩ := perform_file_ok run
  rw [made] at grown
  obtain ⟨place, holds, spares⟩ := writeFile_holds written
  exact ⟨place, holds, grown.spares.trans spares⟩

end Steps

section Run
variable {done : List Step} {step : Step} {text : String} {touched : Location → Prop}

-- A place holds what was written by the last of the steps that lead there.
def HoldsLast (disk : Disk) (done : List Step) (place : Location) (text : String) : Prop :=
  ∃ front path back, done = front ++ .file path text :: back ∧ disk.Holds path place (.text text) ∧
    ∀ later content, .file later content ∈ back →
      ∃ elsewhere held, disk.Holds later elsewhere held ∧ elsewhere ≠ place

-- Every file of the steps is found at its path.
def Written (disk : Disk) (done : List Step) : Prop :=
  ∀ path content, .file path content ∈ done →
    ∃ place text, disk.Holds path place (.text text) ∧ disk.HoldsLast done place text

theorem HoldsLast.further (last : disk.HoldsLast done place text) (spares : Spares touched disk after)
    (apart : ¬touched place) (new : ∀ path content, step = .file path content →
      ∃ elsewhere held, after.Holds path elsewhere held ∧ elsewhere ≠ place) :
    after.HoldsLast (done ++ [step]) place text := by
  obtain ⟨front, path, back, rfl, holds, others⟩ := last
  refine ⟨front, path, back ++ [step], by simp, holds.spared spares apart, ?_⟩
  intro later content member
  rcases List.mem_append.mp member with earlier | here
  · obtain ⟨elsewhere, held, found, away⟩ := others later content earlier
    obtain ⟨other, still, _⟩ := found.lasts spares.lasts
    exact ⟨elsewhere, other, still, away⟩
  · exact new later content (List.mem_singleton.mp here).symm

theorem Written.perform (written : disk.Written done) (run : disk.perform step = (.ok (), after)) :
    after.Written (done ++ [step]) := by
  cases step with
  | directory made =>
    have spares : Spares (fun _ => False) disk after := (perform_directory run).spares
    intro path content member
    obtain ⟨place, text, holds, last⟩ := written path content (by simpa using member)
    exact ⟨place, text, holds.spared spares not_false, last.further spares not_false (by simp)⟩
  | file wrote given =>
    obtain ⟨goal, new, spares⟩ := perform_file run
    have fresh : after.HoldsLast (done ++ [.file wrote given]) goal given :=
      ⟨done, wrote, [], rfl, new, by simp⟩
    intro path content member
    rcases List.mem_append.mp member with earlier | here
    · obtain ⟨place, text, holds, last⟩ := written path content earlier
      by_cases same : place = goal
      · obtain ⟨other, still, stands⟩ := holds.lasts spares.lasts
        rw [same, new.node] at stands
        cases stands
        exact ⟨goal, given, same ▸ still, fresh⟩
      · refine ⟨place, text, holds.spared spares same, last.further spares same ?_⟩
        rintro _ _ ⟨⟩
        exact ⟨goal, _, new, fun here => same here.symm⟩
    · cases List.mem_singleton.mp here
      exact ⟨goal, given, new, fresh⟩

theorem performAll_further_written {rest : List Step} (written : disk.Written done)
    (run : disk.performAll rest = (.ok (), after)) : after.Written (done ++ rest) := by
  induction rest generalizing disk done with
  | nil =>
    cases run
    rwa [List.append_nil]
  | cons step rest ih =>
    unfold performAll at run
    split at run
    · cases run
    · rename_i reached first
      rw [List.append_cons]
      exact ih (written.perform first) run

theorem written_of_ok {steps : List Step} (run : disk.performAll steps = (.ok (), after)) :
    after.Written steps := by
  have none : disk.Written [] := fun _ _ member => absurd member List.not_mem_nil
  exact performAll_further_written none run

end Run

end Disk
end SpringSkeleton
