import SpringSkeleton.Proofs.Tree.Walk
import SpringSkeleton.Tree.Disk

namespace SpringSkeleton

-- The text of a path as far as the file system looks at it before walking.
structure Path.Admissible (path : Path) : Prop where
  clean : '\x00' ∉ path.text.toList
  present : path.text ≠ ""
  short : path.text.utf8ByteSize ≤ longestPath

-- A file can stand under this path: the text is not too long and ends in a name.
structure Path.NamesFile (path : Path) : Prop where
  short : path.text.utf8ByteSize ≤ longestPath
  plain : (Route.ofText path.text).ending = .plain

namespace Disk
variable {disk after : Disk} {path source target : Path} {front : List String} {name : String}

def start (disk : Disk) (path : Path) : Location :=
  if path.isAbsolute then [] else disk.workingDirectory

-- Where a path leads if it leads anywhere.
def placeOf (disk : Disk) (path : Path) : Location := (disk.start path).descend path.steps

@[simp] theorem withTree_tree (disk : Disk) (tree : Tree) : (disk.withTree tree).tree = tree := rfl

@[simp] theorem withTree_workingDirectory (disk : Disk) (tree : Tree) :
    (disk.withTree tree).workingDirectory = disk.workingDirectory := rfl

theorem start_congr (same : after.workingDirectory = disk.workingDirectory) (path : Path) :
    after.start path = disk.start path := by rw [start, start, same]

theorem start_eq {base : Path} (absolute : path.isAbsolute = base.isAbsolute) (disk : Disk) :
    disk.start path = disk.start base := by rw [start, start, absolute]

theorem placeOf_congr (same : after.workingDirectory = disk.workingDirectory) (path : Path) :
    after.placeOf path = disk.placeOf path := by rw [placeOf, placeOf, start_congr same]

-- A path that goes down from a base leads below the place where the base leads.
theorem placeOf_append {base : Path} {names : List String}
    (absolute : path.isAbsolute = base.isAbsolute) (steps : path.steps = base.steps ++ names)
    (down : ".." ∉ names) (disk : Disk) : disk.placeOf path = disk.placeOf base ++ names := by
  rw [placeOf, start_eq absolute, steps, Location.descend_append, Location.descend_names _ down]
  rfl

theorem placeOf_concat (order : path.steps = front ++ [name]) (down : name ≠ "..") :
    disk.placeOf path = (disk.start path).descend front ++ [name] := by
  rw [placeOf, order, Location.descend_concat _ _ down]

theorem findOn_eq_ok_iff {follow : Bool} {route : Route} {found : Tree.Spot} :
    disk.findOn follow path route = .ok found ↔
      path.Admissible ∧ disk.tree.spot follow mostLinks disk.workingDirectory route = .ok found := by
  unfold findOn
  split
  · rename_i nul
    have unclean : ¬ path.Admissible := fun h => h.clean (by simpa using nul)
    simp [unclean]
  · rename_i clean
    split
    · rename_i empty
      have missing : ¬ path.Admissible := fun h => h.present empty
      simp [missing]
    · rename_i present
      split
      · rename_i long
        have tooLong : ¬ path.Admissible := fun h => absurd h.short (Nat.not_le.mpr long)
        simp [tooLong]
      · rename_i short
        have admissible : path.Admissible := ⟨by simpa using clean, present, Nat.not_lt.mp short⟩
        simp [admissible]

theorem find_name (linkFree : disk.tree.LinkFree) {follow : Bool}
    (open_ : (Route.ofText path.text).ending ≠ .dots) (order : path.steps = front ++ [name])
    (down : name ≠ "..") {found : Tree.Spot} :
    disk.find follow path = .ok found ↔
      path.Admissible ∧ disk.tree.Leads (disk.start path) front ∧ name.utf8ByteSize ≤ longestName ∧
        found = ⟨disk.placeOf path, disk.tree.node? (disk.placeOf path),
          (Route.ofText path.text).ending⟩ := by
  have steps : (Route.ofText path.text).steps = front ++ [name] := by rw [path.ofText_steps, order]
  rw [find, findOn_eq_ok_iff, Tree.spot_name linkFree open_ steps down, path.ofText_steps]
  rfl

theorem find_dots (linkFree : disk.tree.LinkFree) {follow : Bool}
    (dots : (Route.ofText path.text).ending = .dots) {found : Tree.Spot} :
    disk.find follow path = .ok found ↔
      path.Admissible ∧ disk.tree.Leads (disk.start path) path.steps ∧
        found = ⟨disk.placeOf path, some .directory, .dots⟩ := by
  rw [find, findOn_eq_ok_iff, Tree.spot_dots linkFree dots, path.ofText_steps]
  rfl

theorem findToMake_name (linkFree : disk.tree.LinkFree)
    (open_ : (Route.ofText path.text).ending ≠ .dots) (order : path.steps = front ++ [name])
    (down : name ≠ "..") {found : Tree.Spot} :
    disk.findToMake path = .ok found ↔
      path.Admissible ∧ disk.tree.Leads (disk.start path) front ∧ name.utf8ByteSize ≤ longestName ∧
        found = ⟨disk.placeOf path, disk.tree.node? (disk.placeOf path), .plain⟩ := by
  have steps : (Route.ofText path.text).bare.steps = front ++ [name] := by
    rw [Route.bare_steps, path.ofText_steps, order]
  have plain := Route.bare_plain open_
  have bareOpen : (Route.ofText path.text).bare.ending ≠ .dots := by simp [plain]
  rw [findToMake, findOn_eq_ok_iff, Tree.spot_name linkFree bareOpen steps down, plain,
    Route.bare_steps, Route.bare_fromRoot, path.ofText_steps]
  rfl

theorem findToMake_plain (plain : (Route.ofText path.text).ending = .plain) :
    disk.findToMake path = disk.find false path := by
  have bare : (Route.ofText path.text).bare = Route.ofText path.text := by simp [Route.bare, plain]
  rw [findToMake, bare, find]

theorem findToMake_dots (linkFree : disk.tree.LinkFree)
    (dots : (Route.ofText path.text).ending = .dots) {found : Tree.Spot} :
    disk.findToMake path = .ok found ↔
      path.Admissible ∧ disk.tree.Leads (disk.start path) path.steps ∧
        found = ⟨disk.placeOf path, some .directory, .dots⟩ := by
  have bare : (Route.ofText path.text).bare = Route.ofText path.text := by simp [Route.bare, dots]
  rw [findToMake, bare]
  exact find_dots linkFree dots

-- The path is one of a file: nothing on the way hinders reading or writing it.
structure Reaches (disk : Disk) (path : Path) : Prop where
  admissible : path.Admissible
  plain : (Route.ofText path.text).ending = .plain
  leads : disk.tree.Leads (disk.start path) path.steps.dropLast
  short : ∀ name, path.steps.getLast? = some name → name.utf8ByteSize ≤ longestName

theorem reaches_iff (order : path.steps = front ++ [name]) : disk.Reaches path ↔ path.Admissible ∧
    (Route.ofText path.text).ending = .plain ∧ disk.tree.Leads (disk.start path) front ∧
      name.utf8ByteSize ≤ longestName := by
  constructor
  · rintro ⟨admissible, plain, leads, short⟩
    rw [order, List.dropLast_concat] at leads
    exact ⟨admissible, plain, leads, short name (by simp [order])⟩
  · rintro ⟨admissible, plain, leads, short⟩
    refine ⟨admissible, plain, ?_, ?_⟩
    · rwa [order, List.dropLast_concat]
    · intro last same
      simp only [order, List.getLast?_concat, Option.some.injEq] at same
      exact same ▸ short

theorem Reaches.parts (reaches : disk.Reaches path) : ∃ front name, path.steps = front ++ [name] ∧
    Path.IsName name ∧ disk.tree.Leads (disk.start path) front ∧ name.utf8ByteSize ≤ longestName := by
  have open_ : (Route.ofText path.text).ending ≠ .dots := by simp [reaches.plain]
  obtain ⟨front, name, order, isName⟩ := Path.steps_of_ending open_
  obtain ⟨_, _, leads, short⟩ := (reaches_iff order).mp reaches
  exact ⟨front, name, order, isName, leads, short⟩

theorem Reaches.find (linkFree : disk.tree.LinkFree) (reaches : disk.Reaches path) (follow : Bool) :
    disk.find follow path = .ok ⟨disk.placeOf path, disk.tree.node? (disk.placeOf path), .plain⟩ := by
  have open_ : (Route.ofText path.text).ending ≠ .dots := by simp [reaches.plain]
  obtain ⟨front, name, order, isName, leads, short⟩ := reaches.parts
  exact (find_name linkFree open_ order isName.down).mpr
    ⟨reaches.admissible, leads, short, by rw [reaches.plain]⟩

theorem Reaches.placeOf_ne_nil (reaches : disk.Reaches path) : disk.placeOf path ≠ [] := by
  obtain ⟨front, name, order, isName, _⟩ := reaches.parts
  simp [placeOf_concat order isName.down]

theorem Reaches.mono (reaches : disk.Reaches path)
    (same : after.workingDirectory = disk.workingDirectory)
    (kept : ∀ place, disk.tree.node? place = some .directory →
      after.tree.node? place = some .directory) : after.Reaches path :=
  ⟨reaches.admissible, reaches.plain, by rw [start_congr same]; exact reaches.leads.mono kept,
    reaches.short⟩

theorem findToWrite_plain (plain : (Route.ofText path.text).ending = .plain) :
    disk.findToWrite path = disk.find true path := by
  simp [findToWrite, find, plain]

-- A file is written where the path is found, unless a directory stands there.
theorem writeFile_found {content : Content} (written : disk.writeFile path content = .ok after) :
    ∃ place node, disk.findToWrite path = .ok ⟨place, node, .plain⟩ ∧ node ≠ some .directory ∧
      after = disk.withTree (disk.tree.put place (.file content)) := by
  unfold writeFile at written
  split at written
  · cases written
  · cases written
  · rename_i place node ending open_ found
    split at written
    · rename_i plain
      cases written
      exact ⟨place, node, plain ▸ found, open_, rfl⟩
    · cases written

theorem writeFile_ok (linkFree : disk.tree.LinkFree) {content : Content}
    (written : disk.writeFile path content = .ok after) :
    disk.Reaches path ∧ disk.tree.node? (disk.placeOf path) ≠ some .directory ∧
      after = disk.withTree (disk.tree.put (disk.placeOf path) (.file content)) := by
  obtain ⟨place, node, found, open_, rfl⟩ := writeFile_found written
  have slashless : (Route.ofText path.text).ending ≠ .slash := by
    intro slash
    have holder : (Route.ofText path.text).holder.ending = .dots := by simp [Route.holder, slash]
    simp only [findToWrite, slash, if_true] at found
    obtain ⟨_, same⟩ := (Tree.spot_dots linkFree holder).mp (findOn_eq_ok_iff.mp found).2
    cases same
  have followed : disk.find true path = .ok ⟨place, node, .plain⟩ := by
    rwa [findToWrite, if_neg slashless] at found
  have dotless : (Route.ofText path.text).ending ≠ .dots := by
    intro dots
    obtain ⟨_, _, same⟩ := (find_dots linkFree dots).mp followed
    cases same
  obtain ⟨front, name, order, isName⟩ := Path.steps_of_ending dotless
  obtain ⟨admissible, leads, short, same⟩ := (find_name linkFree dotless order isName.down).mp followed
  obtain ⟨rfl, rfl, ending⟩ := Tree.Spot.mk.inj same
  exact ⟨(reaches_iff order).mpr ⟨admissible, ending.symm, leads, short⟩, open_, rfl⟩

theorem removeFile_ok (linkFree : disk.tree.LinkFree) (reaches : disk.Reaches path)
    {content : Content} (stands : disk.tree.node? (disk.placeOf path) = some (.file content)) :
    disk.removeFile path = .ok (disk.withTree (disk.tree.drop (disk.placeOf path))) := by
  unfold removeFile
  rw [reaches.find linkFree, stands]
  simp

-- What the name of the target must allow, whatever stands at either end.
theorem namesFile_of_renameFile (renamed : disk.renameFile source target = .ok after) :
    target.NamesFile := by
  unfold renameFile at renamed
  cases from_ : disk.find false source with
  | error problem => simp [from_] at renamed
  | ok spot =>
    cases into : disk.findOn false target (Route.ofText target.text).holder with
    | error problem => simp [from_, into] at renamed
    | ok holder =>
      refine ⟨(findOn_eq_ok_iff.mp into).1.short, ?_⟩
      cases ending : (Route.ofText target.text).ending with
      | plain => rfl
      | dots => simp [from_, into, ending] at renamed
      | slash =>
        cases standing : spot.node with
        | none => simp [from_, into, ending, standing] at renamed
        | some node => cases node <;> simp [from_, into, ending, standing] at renamed

theorem renameFile_ok (linkFree : disk.tree.LinkFree) (fromHere : disk.Reaches source)
    (toThere : disk.Reaches target) {content : Content}
    (stands : disk.tree.node? (disk.placeOf source) = some (.file content))
    (open_ : disk.tree.node? (disk.placeOf target) ≠ some .directory)
    (apart : disk.placeOf source ≠ disk.placeOf target) :
    disk.renameFile source target = .ok (disk.withTree
      ((disk.tree.drop (disk.placeOf source)).put (disk.placeOf target) (.file content))) := by
  have holder : (Route.ofText target.text).holder.ending = .dots := by
    simp [Route.holder, toThere.plain]
  have steps : (Route.ofText target.text).holder.steps = target.steps.dropLast := by
    simp [Route.holder, toThere.plain, target.ofText_steps]
  have fromRoot : (Route.ofText target.text).holder.fromRoot = target.isAbsolute := by
    simp [Route.holder, toThere.plain, target.ofText_fromRoot]
  have leads : disk.tree.Leads (if (Route.ofText target.text).holder.fromRoot then []
      else disk.workingDirectory) (Route.ofText target.text).holder.steps := by
    rw [steps, fromRoot]
    exact toThere.leads
  obtain ⟨spot, entered⟩ : ∃ spot,
      disk.findOn false target (Route.ofText target.text).holder = .ok spot :=
    ⟨_, findOn_eq_ok_iff.mpr ⟨toThere.admissible, (Tree.spot_dots linkFree holder).mpr ⟨leads, rfl⟩⟩⟩
  simp only [renameFile, fromHere.find linkFree, entered, toThere.find linkFree, stands]
  cases there : disk.tree.node? (disk.placeOf target) with
  | none => simp [toThere.plain, apart]
  | some node =>
    cases node with
    | directory => exact absurd there open_
    | file old => simp [toThere.plain, apart]
    | link goal => exact absurd there (linkFree _ goal)

theorem makeDirectory_ok (linkFree : disk.tree.LinkFree)
    (made : disk.makeDirectory path = .ok after) :
    ∃ front name, path.steps = front ++ [name] ∧ Path.IsName name ∧ path.Admissible ∧
      disk.tree.Leads (disk.start path) front ∧ name.utf8ByteSize ≤ longestName ∧
      disk.tree.node? (disk.placeOf path) = none ∧
      after = disk.withTree (disk.tree.put (disk.placeOf path) .directory) := by
  unfold makeDirectory at made
  by_cases dots : (Route.ofText path.text).ending = .dots
  · cases found : disk.findToMake path with
    | error problem => simp [found] at made
    | ok spot =>
      obtain ⟨_, _, rfl⟩ := (findToMake_dots linkFree dots).mp found
      simp [found] at made
  · obtain ⟨front, name, order, isName⟩ := Path.steps_of_ending dots
    cases found : disk.findToMake path with
    | error problem => simp [found] at made
    | ok spot =>
      obtain ⟨admissible, leads, short, rfl⟩ := (findToMake_name linkFree dots order isName.down).mp found
      cases stands : disk.tree.node? (disk.placeOf path) with
      | none =>
        rw [found, stands] at made
        exact ⟨front, name, order, isName, admissible, leads, short, rfl, (Except.ok.inj made).symm⟩
      | some node => simp [found, stands] at made

theorem isDirectory_leads (linkFree : disk.tree.LinkFree) (found : disk.isDirectory path = true) :
    disk.tree.Leads (disk.start path) path.steps := by
  unfold isDirectory stat at found
  by_cases dots : (Route.ofText path.text).ending = .dots
  · cases spotted : disk.find true path with
    | error problem => simp [spotted] at found
    | ok spot => exact ((find_dots linkFree dots).mp spotted).2.1
  · obtain ⟨front, name, order, isName⟩ := Path.steps_of_ending dots
    cases spotted : disk.find true path with
    | error problem => simp [spotted] at found
    | ok spot =>
      obtain ⟨_, leads, short, rfl⟩ := (find_name linkFree dots order isName.down).mp spotted
      have stands : disk.tree.node? (disk.placeOf path) = some .directory := by
        cases there : disk.tree.node? (disk.placeOf path) with
        | none => simp [spotted, there] at found
        | some node =>
          cases node with
          | directory => rfl
          | file content =>
            by_cases plain : (Route.ofText path.text).ending = .plain <;>
              simp [spotted, there, plain] at found
          | link target => exact absurd there (linkFree _ target)
      rw [order, Tree.leads_concat isName.down, ← placeOf_concat order isName.down]
      exact ⟨leads, short, stands⟩

theorem Reaches.isDirectory (linkFree : disk.tree.LinkFree) (reaches : disk.Reaches path)
    (stands : disk.tree.node? (disk.placeOf path) = some .directory) : disk.isDirectory path = true := by
  unfold Disk.isDirectory stat
  rw [reaches.find linkFree, stands]

theorem stat_of_leads (linkFree : disk.tree.LinkFree) (admissible : path.Admissible)
    (leads : disk.tree.Leads (disk.start path) path.steps) :
    disk.stat path = .ok (disk.placeOf path, .directory) := by
  unfold stat
  by_cases dots : (Route.ofText path.text).ending = .dots
  · rw [(find_dots linkFree dots).mpr ⟨admissible, leads, rfl⟩]
  · obtain ⟨front, name, order, isName⟩ := Path.steps_of_ending dots
    rw [order, Tree.leads_concat isName.down, ← placeOf_concat order isName.down] at leads
    obtain ⟨before, short, stands⟩ := leads
    rw [(find_name linkFree dots order isName.down).mpr ⟨admissible, before, short, rfl⟩, stands]

end Disk
end SpringSkeleton
