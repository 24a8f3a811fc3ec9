import SpringSkeleton.Project.BasePackage
import SpringSkeleton.Proofs.Tree.Revision

namespace SpringSkeleton

namespace Location

theorem before_append (place first second : Location) :
    before (place ++ first) (place ++ second) = before first second := by
  induction place with
  | nil => rfl
  | cons name rest ih => simp [before, ih]

theorem before_asymm {first second : Location} (ahead : before first second = true) :
    before second first = false := by
  refine Bool.eq_false_iff.mpr fun behind => ?_
  have loop := before_trans ahead behind
  rw [before_irrefl] at loop
  cases loop

end Location

namespace Tree
variable {entries : List Entry} {wanted : Entry → Bool} {entry : Entry}

-- In ascending order the first that is wanted is the least that is wanted.
theorem find?_least_iff (ascending : entries.Pairwise Entry.precedes) :
    entries.find? wanted = some entry ↔ entry ∈ entries ∧ wanted entry = true ∧
      ∀ other ∈ entries, wanted other = true → other = entry ∨ entry.precedes other := by
  have least : ∀ {entry}, entries.find? wanted = some entry → entry ∈ entries ∧ wanted entry = true ∧
      ∀ other ∈ entries, wanted other = true → other = entry ∨ entry.precedes other := by
    intro entry found
    obtain ⟨fits, front, back, rfl, early⟩ := List.find?_eq_some_iff_append.mp found
    refine ⟨by simp, fits, fun other member fitting => ?_⟩
    rcases List.mem_append.mp member with before | after
    · have unfit := early other before
      rw [fitting] at unfit
      cases unfit
    · rcases List.mem_cons.mp after with rfl | later
      · exact .inl rfl
      · exact .inr ((List.pairwise_cons.mp (List.pairwise_append.mp ascending).2.1).1 other later)
  constructor
  · exact least
  · rintro ⟨member, fits, first⟩
    cases found : entries.find? wanted with
    | none => exact absurd fits (List.find?_eq_none.mp found entry member)
    | some other =>
      obtain ⟨inside, fitting, foremost⟩ := least found
      rcases first other inside fitting with rfl | ahead
      · rfl
      · rcases foremost entry member fits with rfl | behind
        · rfl
        · rw [Entry.precedes, Location.before_asymm ahead] at behind
          cases behind

end Tree

namespace Disk
variable {disk : Disk} {place names : Location} {node : Node}

theorem mem_entriesBelow : (names, node) ∈ disk.entriesBelow place ↔
    names ≠ [] ∧ disk.tree.node? (place ++ names) = some node := by
  have listed : (names, node) ∈ disk.entriesBelow place ↔
      names ≠ [] ∧ (place ++ names, node) ∈ disk.tree.entries := by
    unfold entriesBelow
    rw [List.mem_filterMap]
    constructor
    · rintro ⟨⟨location, other⟩, member, relative⟩
      split at relative
      · cases relative
      · cases relative
      · rename_i name rest below
        cases relative
        exact ⟨by simp, Location.below?_eq_some.mp below ▸ member⟩
    · rintro ⟨some_, member⟩
      refine ⟨_, member, ?_⟩
      rw [Location.below?_eq_some.mpr rfl]
      cases names with
      | nil => exact absurd rfl some_
      | cons name rest => rfl
  rw [listed]
  refine and_congr_right fun some_ => ?_
  rw [Tree.node?_eq_lookup _ (by simp [some_]), Tree.lookup_eq_some_iff_mem disk.tree.ascending]

theorem entriesBelow_ascending (disk : Disk) (place : Location) :
    (disk.entriesBelow place).Pairwise Entry.precedes := by
  unfold entriesBelow
  refine List.pairwise_filterMap.mpr (disk.tree.ascending.imp ?_)
  intro first second before one here two there
  split at here
  · cases here
  · cases here
  · rename_i name rest below
    cases here
    split at there
    · cases there
    · cases there
    · rename_i next more beyond
      cases there
      rwa [Entry.precedes, Location.below?_eq_some.mp below, Location.below?_eq_some.mp beyond,
        Location.before_append] at before

end Disk

namespace Project
variable {disk after : Disk} {settings : Settings} {place names : Location} {project root : Path}

-- A file stands there whose name ends as that of an application class.
def AnchorAt (settings : Settings) (disk : Disk) (place names : Location) : Prop :=
  (∃ content, disk.tree.node? (place ++ names) = some (.file content)) ∧
    ∃ name, names.getLast? = some name ∧ Text.endsWith (anchorEnding settings) name = true

def firstAnchor? (settings : Settings) (disk : Disk) (place : Location) : Option Location :=
  ((disk.entriesBelow place).find? (isAnchor settings)).map Prod.fst

theorem isAnchor_iff {entry : Entry} : isAnchor settings entry = true ↔
    (∃ content, entry.2 = .file content) ∧
      ∃ name, entry.1.getLast? = some name ∧ Text.endsWith (anchorEnding settings) name = true := by
  obtain ⟨location, node⟩ := entry
  unfold isAnchor
  cases node with
  | file content => cases location.getLast? <;> simp
  | directory => simp
  | link target => simp

theorem anchorAt_iff : AnchorAt settings disk place names ↔
    ∃ content, (names, .file content) ∈ disk.entriesBelow place ∧
      isAnchor settings (names, .file content) = true := by
  constructor
  · rintro ⟨⟨content, stands⟩, name, last, ends⟩
    have some_ : names ≠ [] := by
      rintro rfl
      cases last
    exact ⟨content, Disk.mem_entriesBelow.2 ⟨some_, stands⟩,
      isAnchor_iff.2 ⟨⟨content, rfl⟩, name, last, ends⟩⟩
  · rintro ⟨content, member, anchor⟩
    exact ⟨⟨content, (Disk.mem_entriesBelow.1 member).2⟩, (isAnchor_iff.1 anchor).2⟩

theorem firstAnchor?_eq_some_iff : firstAnchor? settings disk place = some names ↔
    AnchorAt settings disk place names ∧
      ∀ other, AnchorAt settings disk place other → other = names ∨ Location.before names other = true := by
  have ascending := disk.entriesBelow_ascending place
  unfold firstAnchor?
  rw [Option.map_eq_some_iff]
  constructor
  · rintro ⟨⟨location, node⟩, found, rfl⟩
    obtain ⟨member, anchor, least⟩ := (Tree.find?_least_iff ascending).mp found
    obtain ⟨⟨content, rfl⟩, _⟩ := isAnchor_iff.1 anchor
    refine ⟨anchorAt_iff.2 ⟨content, member, anchor⟩, fun other there => ?_⟩
    obtain ⟨text, inside, another⟩ := anchorAt_iff.1 there
    rcases least _ inside another with same | later
    · exact .inl (congrArg Prod.fst same)
    · exact .inr later
  · rintro ⟨there, least⟩
    obtain ⟨content, member, anchor⟩ := anchorAt_iff.1 there
    refine ⟨(names, .file content), (Tree.find?_least_iff ascending).mpr ⟨member, anchor, ?_⟩, rfl⟩
    rintro ⟨other, node⟩ inside another
    obtain ⟨⟨text, rfl⟩, _⟩ := isAnchor_iff.1 another
    rcases least other (anchorAt_iff.2 ⟨text, inside, another⟩) with rfl | later
    · have one := (Disk.mem_entriesBelow.1 inside).2
      rw [(Disk.mem_entriesBelow.1 member).2] at one
      cases one
      exact .inl rfl
    · exact .inr later

-- Where there is an application class, one comes first, and none before it.
theorem firstAnchor?_of_anchor (there : AnchorAt settings disk place names) :
    ∃ first, firstAnchor? settings disk place = some first ∧ AnchorAt settings disk place first ∧
      ∀ other, AnchorAt settings disk place other → Location.before other first = false := by
  cases found : firstAnchor? settings disk place with
  | none =>
    obtain ⟨content, member, anchor⟩ := anchorAt_iff.1 there
    exact absurd anchor (List.find?_eq_none.mp (Option.map_eq_none_iff.mp found) _ member)
  | some first =>
    obtain ⟨here, least⟩ := firstAnchor?_eq_some_iff.1 found
    refine ⟨first, rfl, here, fun other another => ?_⟩
    rcases least other another with rfl | later
    · exact Location.before_irrefl _
    · exact Location.before_asymm later

-- Where the same application classes are, the same one comes first.
theorem firstAnchor?_congr
    (same : ∀ names, AnchorAt settings after place names ↔ AnchorAt settings disk place names) :
    firstAnchor? settings after place = firstAnchor? settings disk place := by
  refine Option.ext fun names => ?_
  rw [firstAnchor?_eq_some_iff, firstAnchor?_eq_some_iff]
  simp only [same]

-- A directory stands there that the search cannot list, because its path is too long.
def UnlistableAt (root : Path) (disk : Disk) (place names : Location) : Prop :=
  names ≠ [] ∧ disk.tree.node? (place ++ names) = some .directory ∧
    longestPath < (root.along names).text.utf8ByteSize

theorem isUnlistable_iff {entry : Entry} : isUnlistable root entry = true ↔
    entry.2 = .directory ∧ longestPath < (root.along entry.1).text.utf8ByteSize := by
  simp [isUnlistable]

theorem unlistableAt_iff : UnlistableAt root disk place names ↔
    (names, .directory) ∈ disk.entriesBelow place ∧ isUnlistable root (names, .directory) = true := by
  rw [Disk.mem_entriesBelow, isUnlistable_iff, UnlistableAt]
  simp only [true_and, and_assoc]

-- What ends the search at an entry.
def EndsAt (settings : Settings) (root : Path) (disk : Disk) (place names : Location) : Prop :=
  AnchorAt settings disk place names ∨ UnlistableAt root disk place names

theorem AnchorAt.listable (there : AnchorAt settings disk place names) :
    ¬UnlistableAt root disk place names := by
  obtain ⟨⟨content, file⟩, _⟩ := there
  rintro ⟨_, directory, _⟩
  rw [file] at directory
  cases directory

theorem endsAt_iff : EndsAt settings root disk place names ↔
    ∃ node, (names, node) ∈ disk.entriesBelow place ∧ endsSearch settings root (names, node) = true := by
  constructor
  · rintro (anchor | long)
    · obtain ⟨content, member, fits⟩ := anchorAt_iff.1 anchor
      exact ⟨_, member, by simp [endsSearch, fits]⟩
    · obtain ⟨member, fits⟩ := unlistableAt_iff.1 long
      exact ⟨_, member, by simp [endsSearch, fits]⟩
  · rintro ⟨node, member, fits⟩
    rcases Bool.or_eq_true_iff.mp fits with anchor | long
    · obtain ⟨⟨content, rfl⟩, _⟩ := isAnchor_iff.1 anchor
      exact .inl (anchorAt_iff.2 ⟨content, member, anchor⟩)
    · obtain ⟨rfl, _⟩ := isUnlistable_iff.1 long
      exact .inr (unlistableAt_iff.2 ⟨member, long⟩)

section Found

variable (stands : disk.stat (project.join ⟨settings.sourceRoot⟩) = .ok (place, .directory))
include stands

-- The search ends at the first application class or the first directory that it cannot list,
-- whichever comes before the other.
theorem basePackage_cases :
    (∀ names, ¬EndsAt settings (project.join ⟨settings.sourceRoot⟩) disk place names) ∧
        basePackage disk project settings =
          .error (.noAnchor (anchorEnding settings) (project.join ⟨settings.sourceRoot⟩)) ∨
      ∃ names, (∀ other, EndsAt settings (project.join ⟨settings.sourceRoot⟩) disk place other →
          other = names ∨ Location.before names other = true) ∧
        (AnchorAt settings disk place names ∧
            basePackage disk project settings = .ok (packageOf names) ∨
          UnlistableAt (project.join ⟨settings.sourceRoot⟩) disk place names ∧
            basePackage disk project settings = .error
              (.unlisted ((project.join ⟨settings.sourceRoot⟩).along names) .nameTooLong)) := by
  have run : basePackage disk project settings =
      searchResult settings (project.join ⟨settings.sourceRoot⟩)
        ((disk.entriesBelow place).find? (endsSearch settings (project.join ⟨settings.sourceRoot⟩))) := by
    simp only [basePackage, stands]
  generalize project.join ⟨settings.sourceRoot⟩ = root at run ⊢
  rw [run]
  cases found : (disk.entriesBelow place).find? (endsSearch settings root) with
  | none =>
    refine .inl ⟨fun names ends => ?_, rfl⟩
    obtain ⟨node, member, fits⟩ := endsAt_iff.1 ends
    exact List.find?_eq_none.mp found _ member fits
  | some entry =>
    obtain ⟨names, node⟩ := entry
    obtain ⟨member, fits, least⟩ := (Tree.find?_least_iff (disk.entriesBelow_ascending place)).mp found
    refine .inr ⟨names, fun other ends => ?_, ?_⟩
    · obtain ⟨node, inside, another⟩ := endsAt_iff.1 ends
      rcases least _ inside another with same | later
      · exact .inl (congrArg Prod.fst same)
      · exact .inr later
    · rcases Bool.or_eq_true_iff.mp fits with anchor | long
      · obtain ⟨⟨content, rfl⟩, _⟩ := isAnchor_iff.1 anchor
        exact .inl ⟨anchorAt_iff.2 ⟨content, member, anchor⟩, rfl⟩
      · obtain ⟨rfl, _⟩ := isUnlistable_iff.1 long
        exact .inr ⟨unlistableAt_iff.2 ⟨member, long⟩, rfl⟩

theorem basePackage_ok_iff {package : String} : basePackage disk project settings = .ok package ↔
    ∃ names, firstAnchor? settings disk place = some names ∧ package = packageOf names ∧
      ∀ other, UnlistableAt (project.join ⟨settings.sourceRoot⟩) disk place other →
        Location.before names other = true := by
  rcases basePackage_cases stands with ⟨none, result⟩ | ⟨names, least, ⟨anchor, result⟩ | ⟨long, result⟩⟩
  · rw [result]
    constructor
    · rintro ⟨⟩
    · rintro ⟨names, first, _⟩
      exact absurd (.inl (firstAnchor?_eq_some_iff.1 first).1) (none names)
  · have first : firstAnchor? settings disk place = some names :=
      firstAnchor?_eq_some_iff.2 ⟨anchor, fun other another => least other (.inl another)⟩
    rw [result, first, Except.ok.injEq]
    constructor
    · rintro rfl
      refine ⟨names, rfl, rfl, fun other long => ?_⟩
      rcases least other (.inr long) with rfl | later
      · exact absurd long anchor.listable
      · exact later
    · rintro ⟨_, same, package, _⟩
      rw [package, Option.some.inj same]
  · rw [result]
    constructor
    · rintro ⟨⟩
    · rintro ⟨other, first, _, ahead⟩
      have anchor := (firstAnchor?_eq_some_iff.1 first).1
      have early := ahead names long
      rcases least other (.inl anchor) with rfl | later
      · exact absurd long anchor.listable
      · rw [Location.before_asymm later] at early
        cases early

end Found

end Project
end SpringSkeleton
