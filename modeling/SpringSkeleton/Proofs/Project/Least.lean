import SpringSkeleton.Proofs.Project.Anchor
import SpringSkeleton.Proofs.Text.Bytes

namespace SpringSkeleton

namespace Location

-- The names on the way, as bytes.
def bytes (location : Location) : List (List UInt8) := location.map Text.bytes

theorem before_iff_bytes {first second : Location} :
    before first second = true ↔ first.bytes < second.bytes := by
  induction first generalizing second with
  | nil => cases second <;> simp [before, bytes]
  | cons a front ih =>
    cases second with
    | nil => simp [before, bytes]
    | cons b back =>
      rw [bytes, bytes, List.map_cons, List.map_cons, List.cons_lt_cons_iff, before, ← Text.lt_iff_bytes,
        Text.bytes_injective.eq_iff, ← bytes, ← bytes, ← ih]
      by_cases same : a = b <;> simp [same]

end Location

namespace Project
variable {disk after : Disk} {settings : Settings} {project root : Path} {place names other : Location}

-- The search ends at the names, and at no names with a smaller path.
def EndsFirst (settings : Settings) (root : Path) (disk : Disk) (place names : Location) : Prop :=
  EndsAt settings root disk place names ∧ ∀ other, EndsAt settings root disk place other →
    other = names ∨ names.bytes < other.bytes

-- What the search comes to: where it ends first decides.
def Decided (settings : Settings) (root : Path) (disk : Disk) (place : Location)
    (result : Except Problem String) : Prop :=
  (∀ names, ¬EndsAt settings root disk place names) ∧
      result = .error (.noAnchor (anchorEnding settings) root) ∨
    ∃ names, EndsFirst settings root disk place names ∧
      (AnchorAt settings disk place names ∧ result = .ok (packageOf names) ∨
        UnlistableAt root disk place names ∧ result = .error (.unlisted (root.along names) .nameTooLong))

theorem EndsFirst.unique (one : EndsFirst settings root disk place names)
    (two : EndsFirst settings root disk place other) : other = names := by
  rcases one.2 other two.1 with same | later
  · exact same
  · rcases two.2 names one.1 with same | earlier
    · exact same.symm
    · exact absurd earlier (List.lt_asymm later)

theorem Decided.unique {result second : Except Problem String}
    (one : Decided settings root disk place result) (two : Decided settings root disk place second) :
    second = result := by
  rcases one with ⟨none, rfl⟩ | ⟨names, first, which⟩
  · rcases two with ⟨_, rfl⟩ | ⟨names, first, _⟩
    · rfl
    · exact absurd first.1 (none names)
  · rcases two with ⟨none, _⟩ | ⟨other, another, also⟩
    · exact absurd first.1 (none names)
    · obtain rfl := first.unique another
      rcases which with ⟨anchor, rfl⟩ | ⟨long, rfl⟩
      · rcases also with ⟨_, rfl⟩ | ⟨long, _⟩
        · rfl
        · exact absurd long anchor.listable
      · rcases also with ⟨anchor, _⟩ | ⟨_, rfl⟩
        · exact absurd long anchor.listable
        · rfl

theorem Decided.congr {result : Except Problem String}
    (anchors : ∀ names, AnchorAt settings after place names ↔ AnchorAt settings disk place names)
    (unlistable : ∀ names, UnlistableAt root after place names ↔ UnlistableAt root disk place names)
    (decided : Decided settings root after place result) : Decided settings root disk place result := by
  simpa only [Decided, EndsFirst, EndsAt, anchors, unlistable] using decided

theorem basePackage_decided
    (stands : disk.stat (project.join ⟨settings.sourceRoot⟩) = .ok (place, .directory)) :
    Decided settings (project.join ⟨settings.sourceRoot⟩) disk place
      (basePackage disk project settings) := by
  rcases basePackage_cases stands with nothing | ⟨names, least, which⟩
  · exact .inl nothing
  · refine .inr ⟨names, ⟨which.imp And.left And.left, fun other ends => ?_⟩, which⟩
    rw [← Location.before_iff_bytes]
    exact least other ends

theorem basePackage_unrooted (lost : ∀ place,
    disk.stat (project.join ⟨settings.sourceRoot⟩) ≠ .ok (place, .directory)) :
    basePackage disk project settings = .error (.noSourceRoot (project.join ⟨settings.sourceRoot⟩)) := by
  simp only [basePackage]

-- Without a source root there is no package. Else the least of the application classes and of the
-- directories that cannot be listed decides, and nothing but where these are.
theorem basePackage_least (disk : Disk) (project : Path) (settings : Settings) :
    let root := project.join ⟨settings.sourceRoot⟩
    (∀ place, disk.stat root ≠ .ok (place, .directory)) ∧
        basePackage disk project settings = .error (.noSourceRoot root) ∨
      ∃ place, disk.stat root = .ok (place, .directory) ∧
        Decided settings root disk place (basePackage disk project settings) ∧
        ∀ after : Disk, after.stat root = .ok (place, .directory) →
          (∀ names, AnchorAt settings after place names ↔ AnchorAt settings disk place names) →
          (∀ names, UnlistableAt root after place names ↔ UnlistableAt root disk place names) →
            basePackage after project settings = basePackage disk project settings := by
  intro root
  by_cases rooted : ∃ place, disk.stat root = .ok (place, .directory)
  · obtain ⟨place, stands⟩ := rooted
    have decided := basePackage_decided stands
    refine .inr ⟨place, stands, decided, fun after stays anchors unlistable => ?_⟩
    exact decided.unique ((basePackage_decided stays).congr anchors unlistable)
  · have lost := not_exists.mp rooted
    exact .inl ⟨lost, basePackage_unrooted lost⟩

-- A path with slashes before it leads where it leads from the root.
def slashed : Nat → Path → Path
  | 0, path => path
  | count + 1, path => ⟨"/" ++ (slashed count path).text⟩

section Slashed

variable (count : Nat) (path : Path)

theorem isAbsolute_slashed : (slashed (count + 1) path).isAbsolute = true := by
  simp [slashed, Path.isAbsolute]

theorem steps_slashed : (slashed count path).steps = path.steps := by
  induction count with
  | zero => rfl
  | succ count ih =>
    have parted : (slashed (count + 1) path).text.toList =
        "".toList ++ '/' :: (slashed count path).text.toList := by simp [slashed]
    have nothing : Path.named (Text.pieces '/' "") = [] := by decide
    rw [Path.steps, Text.pieces_of_cut parted, Path.named_append, nothing, List.nil_append, ← Path.steps, ih]

theorem size_slashed : (slashed count path).text.utf8ByteSize = count + path.text.utf8ByteSize := by
  induction count with
  | zero => rw [slashed, Nat.zero_add]
  | succ count ih =>
    have slash : "/".utf8ByteSize = 1 := by decide
    rw [slashed, String.utf8ByteSize_append, ih, slash]
    omega

theorem clean_slashed (clean : '\x00' ∉ path.text.toList) : '\x00' ∉ (slashed count path).text.toList := by
  induction count with
  | zero => exact clean
  | succ count ih => simpa [slashed] using ih

end Slashed

-- An application class in a directory, below a source root whose path is as long as can be.
def deepSite : Disk :=
  ⟨((Tree.empty.put ["s"] .directory).put ["s", "y"] .directory).put ["s", "y", "Application.java"]
    (.file (.text "")), []⟩

def deepRoot : Path := slashed 4094 ⟨"s"⟩

def deepSettings : Settings := { sourceRoot := deepRoot.text }

theorem deepSite_linkFree : deepSite.tree.LinkFree := Tree.linkFree_of_entries (by decide)

theorem size_deepRoot : deepRoot.text.utf8ByteSize = longestPath := by
  rw [deepRoot, size_slashed]
  decide

theorem stat_deepRoot : deepSite.stat deepRoot = .ok (["s"], .directory) := by
  have start : deepSite.start deepRoot = [] := by
    rw [Disk.start, deepRoot, if_pos (isAbsolute_slashed 4093 ⟨"s"⟩)]
  have steps : deepRoot.steps = ["s"] := by
    rw [deepRoot, steps_slashed]
    exact Path.IsName.steps ⟨by decide, by decide, by decide⟩
  have admissible : deepRoot.Admissible :=
    ⟨clean_slashed 4094 ⟨"s"⟩ (by decide), Path.text_of_steps (by simp [steps]), size_deepRoot.le⟩
  have leads : deepSite.tree.Leads [] ["s"] := ⟨fun _ => ⟨by decide, by decide⟩, trivial⟩
  rw [Disk.stat_of_leads deepSite_linkFree admissible (by rwa [start, steps]), Disk.placeOf, start, steps]
  rfl

theorem longer_along {root : Path} {name : String} (isName : Path.IsName name) (present : root.text ≠ "") :
    root.text.utf8ByteSize < (root.along [name]).text.utf8ByteSize := by
  have some_ : 0 < name.utf8ByteSize :=
    Nat.pos_of_ne_zero (mt String.utf8ByteSize_eq_zero_iff.mp isName.present)
  simp only [Path.along, List.foldl_cons, List.foldl_nil, Path.join, isName.relative, present,
    Bool.false_or, beq_iff_eq, if_false]
  split
  · rw [String.utf8ByteSize_append]
    omega
  · rw [String.utf8ByteSize_append, String.utf8ByteSize_append]
    omega

theorem isName_y : Path.IsName "y" := ⟨by decide, by decide, by decide⟩

theorem deepSite_unlistable : UnlistableAt deepRoot deepSite ["s"] ["y"] := by
  have present : deepRoot.text ≠ "" := by
    intro none
    have size := size_deepRoot
    rw [none] at size
    exact absurd size (by decide)
  have longer := longer_along isName_y present
  rw [size_deepRoot] at longer
  exact ⟨by decide, by decide, longer⟩

-- The least application class does not decide where a directory before it cannot be listed.
theorem basePackage_not_least : ¬ ∀ (disk : Disk) (project : Path) (settings : Settings)
    (place names : Location),
    disk.stat (project.join ⟨settings.sourceRoot⟩) = .ok (place, .directory) →
      AnchorAt settings disk place names →
      (∀ other, AnchorAt settings disk place other → other = names ∨ names.bytes < other.bytes) →
        basePackage disk project settings = .ok (packageOf names) := by
  intro least
  have root : (⟨""⟩ : Path).join ⟨deepSettings.sourceRoot⟩ = deepRoot :=
    Path.join_of_isAbsolute ⟨""⟩ (isAbsolute_slashed 4093 ⟨"s"⟩)
  have stands : deepSite.stat ((⟨""⟩ : Path).join ⟨deepSettings.sourceRoot⟩) = .ok (["s"], .directory) := by
    rw [root]
    exact stat_deepRoot
  have first : firstAnchor? deepSettings deepSite ["s"] = some ["y", "Application.java"] := by decide +kernel
  obtain ⟨anchor, foremost⟩ := firstAnchor?_eq_some_iff.mp first
  have found := least deepSite ⟨""⟩ deepSettings ["s"] _ stands anchor
    fun other another => (foremost other another).imp_right Location.before_iff_bytes.mp
  obtain ⟨names, same, _, ahead⟩ := (basePackage_ok_iff stands).mp found
  have before := ahead ["y"] (root ▸ deepSite_unlistable)
  rw [← Option.some.inj (first.symm.trans same)] at before
  exact absurd before (by decide)

end Project
end SpringSkeleton
