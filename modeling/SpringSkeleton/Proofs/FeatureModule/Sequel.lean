import SpringSkeleton.Proofs.FeatureModule.Course
import SpringSkeleton.Proofs.Project.Anchor

namespace SpringSkeleton

namespace FeatureModule
open Disk (Revises)
variable {spec other : FeatureModule} {settings : Settings} {disk after : Disk} {mode : WriteMode}

-- The files of a module are no application classes, and neither are staged files.
theorem fileName_not_anchor (kind : ArtifactKind) (entity : String) :
    Text.endsWith "Application.java" (kind.fileName entity) = false := by
  by_contra ends
  have application := Text.endsWith_iff.mp (Bool.not_eq_false _ ▸ ends)
  have own : (kind.suffix ++ ".java").toList <:+ (kind.fileName entity).toList := by
    simp only [ArtifactKind.fileName, ArtifactKind.typeName, String.toList_append, List.append_assoc]
    exact List.suffix_append _ _
  exact Text.endings_meet own application (by cases kind <;> decide)

theorem stagingName_not_anchor (name : String) :
    Text.endsWith "Application.java" (Disk.stagingName name) = false := by
  by_contra ends
  exact Text.endings_meet (Text.endsWith_iff.mp (Disk.stagingName_hidden name))
    (Text.endsWith_iff.mp (Bool.not_eq_false _ ▸ ends)) (by decide)

-- No suffix ends with another one, so the name of a file tells the entity.
theorem entity_of_fileName {first second : String} {kind otherKind : ArtifactKind}
    (same : kind.fileName first = otherKind.fileName second) : first = second := by
  have chars := congrArg String.toList same
  simp only [ArtifactKind.fileName, ArtifactKind.typeName, String.toList_append] at chars
  have whole := List.append_cancel_right chars
  have one : kind.suffix.toList <:+ (first ++ kind.suffix).toList := by
    rw [String.toList_append]
    exact List.suffix_append _ _
  have two : otherKind.suffix.toList <:+ (first ++ kind.suffix).toList := by
    rw [String.toList_append, whole]
    exact List.suffix_append _ _
  have kinds : kind = otherKind := by
    have meet := Text.endings_meet one two
    cases kind <;> cases otherKind <;> first | rfl | exact absurd (by decide) meet
  rw [kinds] at whole
  exact String.toList_inj.mp (List.append_cancel_right whole)

-- The edits of a run: directories on the way, files of the module, and the end of staged files.
inductive Edit (spec : FeatureModule) (root directory : Location) : Location → Option Node → Prop
  | way (front : List String) (some_ : front ≠ []) (initial : front <+: spec.wayNames) :
    Edit spec root directory (root ++ front) (some .directory)
  | file (kind : ArtifactKind) : Edit spec root directory (directory ++ [kind.fileName spec.entity])
      (some (.file (.text (spec.artifact kind).content)))
  | staged (kind : ArtifactKind) :
    Edit spec root directory (directory ++ [Disk.stagingName (kind.fileName spec.entity)]) none

theorem course_cases (sound : spec.Sound) (disk : Disk) (settings : Settings) (mode : WriteMode) :
    ∃ front, front <+: spec.wayNames ∧
      (∀ place ∈ (disk.placeOf (spec.sourceRoot settings)).way front, ∀ content,
        disk.tree.node? place ≠ some (.file content)) ∧
      ((spec.course disk settings mode).2 =
          Disk.directoryEdits ((disk.placeOf (spec.sourceRoot settings)).way front) ∨
        front = spec.wayNames ∧ ∃ edits, (spec.course disk settings mode).2 = edits ++
            Disk.directoryEdits ((disk.placeOf (spec.sourceRoot settings)).way front) ∧
          ∀ place left, (place, left) ∈ edits → disk.tree.node? place ≠ some .directory ∧
            ∃ kind, (place, left) ∈ Disk.moveEdit (disk.placeOf (spec.featureDirectory settings))
              (spec.artifact kind)) := by
  unfold course
  simp only
  cases (spec.featureDirectory settings).fault? with
  | some cause => exact ⟨[], List.nil_prefix, fun _ none => (nomatch none), .inl rfl⟩
  | none =>
    obtain ⟨front, initial, order, whole, free⟩ :=
      disk.wayUntilHindered_front (spec.sourceRoot settings) spec.wayNames
    refine ⟨front, initial, free, ?_⟩
    cases found : disk.wayUntilHindered (spec.sourceRoot settings) spec.wayNames with
    | mk made stop =>
      rw [found] at order whole
      cases stop with
      | some cause => exact .inl (congrArg Disk.directoryEdits order)
      | none =>
        refine .inr ⟨whole rfl, _, congrArg (_ ++ Disk.directoryEdits ·) order, fun place left member => ?_⟩
        obtain ⟨open_, a, inside, edit⟩ :=
          Disk.mem_artifactEdits (housed_artifacts sound settings) member
        obtain ⟨kind, _, rfl⟩ := List.mem_map.mp inside
        exact ⟨open_, kind, edit⟩

-- A path that is refused for its text leaves nothing to edit.
theorem course_admissible {place : Location} {left : Option Node}
    (member : (place, left) ∈ (spec.course disk settings mode).2) :
    (spec.featureDirectory settings).Admissible := by
  refine Path.fault?_eq_none_iff.mp (Option.eq_none_iff_forall_not_mem.mpr fun cause fault => ?_)
  unfold course at member
  simp only [show (spec.featureDirectory settings).fault? = some cause from fault] at member
  exact List.not_mem_nil member

-- Directories are edited where no file stood, and files where no directory stood.
theorem course_edit (sound : spec.Sound) {place : Location} {left : Option Node}
    (member : (place, left) ∈ (spec.course disk settings mode).2) :
    Edit spec (disk.placeOf (spec.sourceRoot settings))
      (disk.placeOf (spec.featureDirectory settings)) place left ∧
    (left = some .directory ∧ (∀ content, disk.tree.node? place ≠ some (.file content)) ∨
      left ≠ some .directory ∧ disk.tree.node? place ≠ some .directory) := by
  obtain ⟨front, initial, free, edits⟩ := course_cases sound disk settings mode
  have way : ∀ {place left}, (place, left) ∈
      Disk.directoryEdits ((disk.placeOf (spec.sourceRoot settings)).way front) →
        Edit spec (disk.placeOf (spec.sourceRoot settings))
          (disk.placeOf (spec.featureDirectory settings)) place left ∧
        (left = some .directory ∧ (∀ content, disk.tree.node? place ≠ some (.file content)) ∨
          left ≠ some .directory ∧ disk.tree.node? place ≠ some .directory) := by
    intro place left member
    obtain ⟨inside, rfl⟩ := Disk.mem_directoryEdits.mp member
    have open_ := free place inside
    obtain ⟨shorter, some_, within, rfl⟩ := Location.mem_way.mp inside
    exact ⟨.way shorter some_ (within.trans initial), .inl ⟨rfl, open_⟩⟩
  rcases edits with edits | ⟨_, files, edits, each⟩
  · rw [edits] at member
    exact way member
  · rw [edits] at member
    rcases List.mem_append.mp member with file | directory
    · obtain ⟨open_, kind, edit⟩ := each place left file
      rcases List.mem_pair.mp edit with same | same
      · obtain ⟨rfl, rfl⟩ := Prod.mk.inj same
        rw [fileName_artifact sound] at open_ ⊢
        exact ⟨.file kind, .inr ⟨by simp, open_⟩⟩
      · obtain ⟨rfl, rfl⟩ := Prod.mk.inj same
        rw [fileName_artifact sound] at open_ ⊢
        exact ⟨.staged kind, .inr ⟨by simp, open_⟩⟩
    · exact way directory

-- Directories are edited as far down as the feature, and files just below.
theorem Edit.length {root directory place : Location} {left : Option Node}
    (whole : directory = root ++ spec.wayNames) (edit : Edit spec root directory place left) :
    left = some .directory ∧ place.length ≤ directory.length ∨
      left ≠ some .directory ∧ place.length = directory.length + 1 := by
  cases edit with
  | way front some_ initial =>
    refine .inl ⟨rfl, ?_⟩
    have length := initial.length_le
    rw [whole, List.length_append, List.length_append]
    omega
  | file kind => exact .inr ⟨by simp, by simp⟩
  | staged kind => exact .inr ⟨by simp, by simp⟩

-- Modules of one package that differ in the entity write no file of each other.
theorem Edit.agree {root place : Location} {one two : Option Node}
    (base : spec.basePackage = other.basePackage) (apart : spec.entity ≠ other.entity)
    (here : Edit spec root (root ++ spec.wayNames) place one)
    (there : Edit other root (root ++ other.wayNames) place two) : one = two := by
  have lengths : (root ++ spec.wayNames).length = (root ++ other.wayNames).length := by
    simp [wayNames, base]
  rcases here.length rfl with ⟨first, out⟩ | ⟨first, in_⟩
  · rcases there.length rfl with ⟨second, _⟩ | ⟨_, in_⟩
    · rw [first, second]
    · omega
  · rcases there.length rfl with ⟨_, out⟩ | ⟨second, _⟩
    · omega
    · generalize goal : place = whole at there
      cases here with
      | way => exact absurd rfl first
      | file kind =>
        cases there with
        | way => exact absurd rfl second
        | file otherKind =>
          exact absurd (entity_of_fileName (List.singleton_inj.mp (List.append_inj' goal rfl).2)) apart
        | staged otherKind =>
          exact absurd (List.singleton_inj.mp (List.append_inj' goal rfl).2) (fileName_ne_stagingName _ _ _)
      | staged kind =>
        cases there with
        | way => exact absurd rfl second
        | file otherKind =>
          exact absurd (List.singleton_inj.mp (List.append_inj' goal rfl).2).symm
            (fileName_ne_stagingName _ _ _)
        | staged otherKind => rfl

-- What is edited stands in the source root or in a directory that is edited too.
theorem course_above (sound : spec.Sound) {place : Location} {name : String} {left : Option Node}
    (member : (place ++ [name], left) ∈ (spec.course disk settings mode).2) :
    place = disk.placeOf (spec.sourceRoot settings) ∨
      (place, some .directory) ∈ (spec.course disk settings mode).2 := by
  obtain ⟨front, initial, _, edits⟩ := course_cases sound disk settings mode
  have way : ∀ {left}, (place ++ [name], left) ∈
      Disk.directoryEdits ((disk.placeOf (spec.sourceRoot settings)).way front) →
        place = disk.placeOf (spec.sourceRoot settings) ∨ (place, some .directory) ∈
          Disk.directoryEdits ((disk.placeOf (spec.sourceRoot settings)).way front) := by
    intro left member
    obtain ⟨shorter, some_, within, whole⟩ :=
      Location.mem_way.mp (Disk.mem_directoryEdits.mp member).1
    obtain ⟨before, last, rfl⟩ : ∃ before last, shorter = before ++ [last] :=
      ⟨_, _, (List.dropLast_concat_getLast some_).symm⟩
    rw [← List.append_assoc] at whole
    have above := (List.append_inj' whole rfl).1
    by_cases alone : before = []
    · exact .inl (by rw [above, alone, List.append_nil])
    · refine .inr (Disk.mem_directoryEdits.mpr ⟨Location.mem_way.mpr ⟨before, alone, ?_, above⟩, rfl⟩)
      exact (List.prefix_append before [last]).trans within
  rcases edits with edits | ⟨whole, files, edits, each⟩
  · rw [edits] at member ⊢
    exact way member
  · rw [edits] at member ⊢
    rcases List.mem_append.mp member with file | directory
    · obtain ⟨_, kind, edit⟩ := each _ left file
      have above : place = disk.placeOf (spec.featureDirectory settings) := by
        rcases List.mem_pair.mp edit with same | same
        · exact (List.append_inj' (Prod.mk.inj same).1 rfl).1
        · exact (List.append_inj' (Prod.mk.inj same).1 rfl).1
      refine .inr (List.mem_append_right _ (Disk.mem_directoryEdits.mpr ⟨?_, rfl⟩))
      rw [whole, above, placeOf_wayNames sound]
      exact Location.mem_way.mpr ⟨spec.wayNames, spec.wayNames_ne_nil, List.prefix_rfl, rfl⟩
    · rcases way directory with root | above
      · exact .inl root
      · exact .inr (List.mem_append_right _ above)

def depth (spec : FeatureModule) (disk : Disk) (settings : Settings) : Nat :=
  (disk.placeOf (spec.featureDirectory settings)).length

-- What comes of a disk when modules of a package are written: directories may be new down to some
-- depth, files change below it, and the application classes stay, and so do the directories below the
-- source root that cannot be listed.
structure Later (settings : Settings) (source : Path) (depth : Nat) (before after : Disk) : Prop where
  workingDirectory : after.workingDirectory = before.workingDirectory
  linkFree : after.tree.LinkFree
  closed : after.tree.Closed
  outer : ∀ place, place.length ≤ depth → after.tree.node? place = before.tree.node? place ∨
    before.tree.node? place = none ∧ after.tree.node? place = some .directory
  inner : ∀ place, depth < place.length →
    (after.tree.node? place = some .directory ↔ before.tree.node? place = some .directory)
  anchors : ∀ place names,
    Project.AnchorAt settings after place names ↔ Project.AnchorAt settings before place names
  unlistable : ∀ names, Project.UnlistableAt source after (before.placeOf source) names ↔
    Project.UnlistableAt source before (before.placeOf source) names

theorem Later.keeps {depth : Nat} {source : Path} {before after : Disk}
    (later : Later settings source depth before after)
    {place : Location} (stands : before.tree.node? place = some .directory) :
    after.tree.node? place = some .directory := by
  by_cases out : place.length ≤ depth
  · rcases later.outer place out with same | ⟨none, _⟩
    · rw [same, stands]
    · rw [stands] at none
      cases none
  · exact (later.inner place (Nat.lt_of_not_le out)).mpr stands

section Revised

variable (sound : spec.Sound) (revises : Revises (spec.course disk settings mode).2 disk after)
include sound revises

theorem revised_keeps {place : Location} (stands : disk.tree.node? place = some .directory) :
    after.tree.node? place = some .directory := by
  rcases revises.cases place with same | ⟨left, member, there⟩
  · rw [same, stands]
  · rcases (course_edit sound member).2 with ⟨rfl, _⟩ | ⟨_, other⟩
    · exact there
    · exact absurd stands other

theorem revised_linkFree (linkFree : disk.tree.LinkFree) : after.tree.LinkFree := by
  intro place target stands
  rcases revises.cases place with same | ⟨left, member, there⟩
  · exact linkFree place target (same ▸ stands)
  · rw [there] at stands
    have edit := (course_edit sound member).1
    rw [stands] at edit
    cases edit

theorem revised_closed (closed : disk.tree.Closed)
    (source : disk.tree.node? (disk.placeOf (spec.sourceRoot settings)) = some .directory) :
    after.tree.Closed := by
  intro place name stands
  rcases revises.cases (place ++ [name]) with same | ⟨left, member, there⟩
  · rw [same] at stands
    exact revised_keeps sound revises (closed place name stands)
  · rcases course_above sound member with rfl | above
    · exact revised_keeps sound revises source
    · refine revises.held above fun other another => ?_
      have whole := placeOf_wayNames sound settings disk
      rcases (course_edit sound above).1.length whole with ⟨_, out⟩ | ⟨no, _⟩
      · rcases (course_edit sound another).1.length whole with ⟨same, _⟩ | ⟨_, in_⟩
        · exact same
        · omega
      · exact absurd rfl no

theorem revised_outer (linkFree : disk.tree.LinkFree) (place : Location)
    (out : place.length ≤ spec.depth disk settings) : after.tree.node? place = disk.tree.node? place ∨
      disk.tree.node? place = none ∧ after.tree.node? place = some .directory := by
  rcases revises.cases place with same | ⟨left, member, there⟩
  · exact .inl same
  · obtain ⟨edit, which⟩ := course_edit sound member
    rcases which with ⟨rfl, free⟩ | ⟨other, _⟩
    · cases stands : disk.tree.node? place with
      | none => exact .inr ⟨rfl, there⟩
      | some node =>
        cases node with
        | directory => exact .inl there
        | file content => exact absurd stands (free content)
        | link target => exact absurd stands (linkFree _ target)
    · rcases edit.length (placeOf_wayNames sound settings disk) with ⟨same, _⟩ | ⟨_, in_⟩
      · exact absurd same other
      · rw [depth] at out
        omega

theorem revised_inner (place : Location) (inside : spec.depth disk settings < place.length) :
    after.tree.node? place = some .directory ↔ disk.tree.node? place = some .directory := by
  rcases revises.cases place with same | ⟨left, member, there⟩
  · rw [same]
  · obtain ⟨edit, which⟩ := course_edit sound member
    rcases which with ⟨rfl, _⟩ | ⟨other, open_⟩
    · rcases edit.length (placeOf_wayNames sound settings disk) with ⟨_, out⟩ | ⟨no, _⟩
      · rw [depth] at inside
        omega
      · exact absurd rfl no
    · rw [there]
      exact iff_of_false other open_

-- No edit makes or hides an application class.
theorem revised_anchors (suffix : settings.anchorSuffix = "Application") (place names : Location) :
    Project.AnchorAt settings after place names ↔ Project.AnchorAt settings disk place names := by
  have ending : Project.anchorEnding settings = "Application.java" := by
    rw [Project.anchorEnding, suffix]
    decide
  unfold Project.AnchorAt
  refine and_congr_left fun ⟨name, last, ends⟩ => ?_
  obtain ⟨front, rfl⟩ := List.getLast?_eq_some_iff.mp last
  rw [ending] at ends
  rcases revises.cases (place ++ (front ++ [name])) with same | ⟨left, member, there⟩
  · rw [same]
  · obtain ⟨edit, which⟩ := course_edit sound member
    rcases which with ⟨rfl, free⟩ | ⟨other, _⟩
    · rw [there]
      simp only [reduceCtorEq, Option.some.injEq, exists_false, false_iff, not_exists]
      exact free
    · exfalso
      generalize goal : place ++ (front ++ [name]) = whole at edit
      rw [← List.append_assoc] at goal
      cases edit with
      | way => exact other rfl
      | file kind =>
        rw [List.singleton_inj.mp (List.append_inj' goal rfl).2, fileName_not_anchor] at ends
        cases ends
      | staged kind =>
        rw [List.singleton_inj.mp (List.append_inj' goal rfl).2, stagingName_not_anchor] at ends
        cases ends

-- The directories that a run makes are on the way to one with a path that is short enough.
theorem revised_unlistable (names : Location) :
    Project.UnlistableAt (spec.sourceRoot settings) after (disk.placeOf (spec.sourceRoot settings)) names ↔
      Project.UnlistableAt (spec.sourceRoot settings) disk
        (disk.placeOf (spec.sourceRoot settings)) names := by
  constructor
  · rintro ⟨some_, stands, long⟩
    rcases revises.cases (disk.placeOf (spec.sourceRoot settings) ++ names) with
      same | ⟨left, member, there⟩
    · exact ⟨some_, same ▸ stands, long⟩
    · rw [stands] at there
      have edit := (course_edit sound member).1
      rw [← there] at edit
      generalize goal : disk.placeOf (spec.sourceRoot settings) ++ names = whole at edit
      cases edit with
      | way front some_front initial =>
        obtain ⟨back, whole⟩ := initial
        have admissible := course_admissible member
        rw [featureDirectory_eq sound, ← whole] at admissible
        have shorter := Path.admissible_along some_front (whole ▸ isName_wayNames sound) admissible
        rw [List.append_cancel_left goal] at long
        exact absurd shorter.short (Nat.not_le.mpr long)
  · rintro ⟨some_, stands, long⟩
    exact ⟨some_, revised_keeps sound revises stands, long⟩

theorem later_of_revises (linkFree : disk.tree.LinkFree) (closed : disk.tree.Closed)
    (source : disk.tree.node? (disk.placeOf (spec.sourceRoot settings)) = some .directory)
    (suffix : settings.anchorSuffix = "Application") :
    Later settings (spec.sourceRoot settings) (spec.depth disk settings) disk after :=
  ⟨revises.workingDirectory, revised_linkFree sound revises linkFree,
    revised_closed sound revises closed source, revised_outer sound revises linkFree,
    revised_inner sound revises, revised_anchors sound revises suffix,
    revised_unlistable sound revises⟩

end Revised

theorem Later.refl (linkFree : disk.tree.LinkFree) (closed : disk.tree.Closed) (source : Path)
    (depth : Nat) : Later settings source depth disk disk :=
  ⟨rfl, linkFree, closed, fun _ _ => .inl rfl, fun _ _ => .rfl, fun _ _ => .rfl, fun _ => .rfl⟩

-- A run looks at files on the way, and at directories where its files go: both are as they were.
theorem course_later (sound : spec.Sound) {source : Path}
    (later : Later settings source (spec.depth disk settings) disk after) :
    spec.course after settings mode = spec.course disk settings mode := by
  have place := placeOf_wayNames sound settings disk
  have root := Disk.placeOf_congr later.workingDirectory (spec.sourceRoot settings)
  have way : after.wayUntilHindered (spec.sourceRoot settings) spec.wayNames =
      disk.wayUntilHindered (spec.sourceRoot settings) spec.wayNames := by
    unfold Disk.wayUntilHindered
    rw [root]
    refine untilHindered_congr fun other member => ?_
    obtain ⟨front, _, initial, rfl⟩ := Location.mem_way.mp member
    have out : (disk.placeOf (spec.sourceRoot settings) ++ front).length ≤ spec.depth disk settings := by
      have length := initial.length_le
      rw [depth, place, List.length_append, List.length_append]
      omega
    unfold Disk.obstacle?
    rcases later.outer _ out with same | ⟨none, made⟩
    · rw [same]
    · rw [none, made]
  have alike : Disk.AlikeIn (spec.featureDirectory settings) disk after := by
    refine ⟨later.workingDirectory, fun name => later.inner _ ?_⟩
    rw [depth, List.length_append, List.length_singleton]
    omega
  unfold course
  simp only [way, Disk.artifactHindrance?_alike alike, Disk.placeOf_congr later.workingDirectory]

end FeatureModule
end SpringSkeleton
