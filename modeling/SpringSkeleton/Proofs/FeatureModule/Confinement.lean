import SpringSkeleton.Operation
import SpringSkeleton.Proofs.FeatureModule.Sound
import SpringSkeleton.Proofs.Tree.Direct

namespace SpringSkeleton

namespace FeatureModule
variable {spec : FeatureModule} {settings : Settings} {disk after : Disk}

theorem feature_free (sound : spec.Sound) {c : Char} (separator : c ∈ Text.separators) :
    c ∉ spec.feature.toList := by
  intro member
  exact Name.not_mem_of_isIdentifier sound.entity separator
    (Text.mem_lowercase_separator separator member)

theorem isName_feature (sound : spec.Sound) : Path.IsName spec.feature := by
  obtain ⟨_, _, chars, _⟩ := Name.chars_of_isIdentifier sound.entity
  obtain ⟨d, more, lowered⟩ := Text.lowercase_chars chars
  refine Path.isName_of_head lowered ?_ (feature_free sound (by decide))
  rintro rfl
  have dot : '.' ∈ Text.separators := by decide
  exact feature_free sound dot (lowered ▸ List.mem_cons_self)

theorem isName_fileName (sound : spec.Sound) (kind : ArtifactKind) :
    Path.IsName (kind.fileName spec.entity) := by
  have whole : '/' ∉ (kind.suffix ++ ".java").toList := by cases kind <;> decide
  have isName := Name.isName_append sound.entity whole
  rwa [← String.append_assoc] at isName

theorem artifact_components (sound : spec.Sound) (kind : ArtifactKind) :
    (spec.artifact kind).path.components = [.name spec.feature, .name (kind.fileName spec.entity)] :=
  Path.components_join_names (isName_feature sound) (isName_fileName sound kind)

theorem fileName_injective {entity : String} {first second : ArtifactKind}
    (same : first.fileName entity = second.fileName entity) : first = second := by
  have chars := congrArg String.toList same
  simp only [ArtifactKind.fileName, ArtifactKind.typeName, String.toList_append, List.append_assoc]
    at chars
  have suffixes := List.append_cancel_right (List.append_cancel_left chars)
  cases first <;> cases second <;> first | rfl | exact absurd suffixes (by decide)

-- The last characters differ.
theorem endsWith_java (name : String) : Text.endsWith ".scaffold-tmp" (name ++ ".java") = false := by
  by_contra ends
  have suffix : ".scaffold-tmp".toList <:+ (name ++ ".java").toList := by
    simpa [Text.endsWith] using ends
  obtain ⟨front, whole⟩ := suffix
  have last := congrArg List.getLast? whole
  have tmp : ".scaffold-tmp".toList.getLast? = some 'p' := by decide
  have java : ".java".toList.getLast? = some 'a' := by decide
  rw [String.toList_append, List.getLast?_append, List.getLast?_append, tmp, java] at last
  cases last

-- No feature has a dot in its name.
theorem feature_visible (sound : spec.Sound) :
    Text.endsWith ".scaffold-tmp" spec.feature = false := by
  by_contra ends
  have suffix : ".scaffold-tmp".toList <:+ spec.feature.toList := by
    simpa [Text.endsWith] using ends
  have dot : '.' ∈ Text.separators := by decide
  exact feature_free sound dot (suffix.subset (by decide))

theorem artifacts_separate (sound : spec.Sound) : Artifact.Separate spec.artifacts := by
  have each : ∀ artifact ∈ spec.artifacts, ∃ kind, artifact = spec.artifact kind := by
    intro artifact member
    obtain ⟨kind, _, rfl⟩ := List.mem_map.mp member
    exact ⟨kind, rfl⟩
  refine ⟨?_, ?_, ?_⟩
  · intro artifact member
    obtain ⟨kind, rfl⟩ := each artifact member
    exact ⟨[spec.feature, kind.fileName spec.entity], by simp, artifact_components sound kind⟩
  · have different : ArtifactKind.ofModule.Pairwise (· ≠ ·) := by decide
    refine List.pairwise_map.mpr (different.imp fun {first second} apart => ?_)
    have unequal : first.fileName spec.entity ≠ second.fileName spec.entity :=
      fun same => apart (fileName_injective same)
    unfold Artifact.Apart
    rw [artifact_components sound, artifact_components sound]
    simp [List.cons_prefix_cons, unequal, unequal.symm]
  · intro artifact member name component
    obtain ⟨kind, rfl⟩ := each artifact member
    rw [artifact_components sound] at component
    simp only [List.mem_cons, Path.Component.name.injEq, List.not_mem_nil, or_false] at component
    rcases component with rfl | rfl
    · exact feature_visible sound
    · exact endsWith_java _

-- Where the sources of the project begin.
def sourceRoot (spec : FeatureModule) (settings : Settings) : Path :=
  spec.projectRoot.join ⟨settings.sourceRoot⟩

theorem featureDirectory_parts (sound : spec.Sound) (settings : Settings) : ∃ names,
    ".." ∉ names ∧
      (spec.featureDirectory settings).steps = (spec.sourceRoot settings).steps ++ names ∧
      (spec.featureDirectory settings).isAbsolute = (spec.sourceRoot settings).isAbsolute ∧
      (spec.featureDirectory settings).steps =
        (spec.packageDirectory settings).steps ++ [spec.feature] ∧
      (spec.featureDirectory settings).isAbsolute = (spec.packageDirectory settings).isAbsolute := by
  have package := Name.packagePath_downward sound.package
  have feature := isName_feature sound
  have inner : (spec.packageDirectory settings).steps =
      (spec.sourceRoot settings).steps ++ (Name.packagePath spec.basePackage).steps :=
    Path.steps_join _ package.relative
  have innerAbsolute : (spec.packageDirectory settings).isAbsolute =
      (spec.sourceRoot settings).isAbsolute := Path.isAbsolute_join _ package.relative
  have outer : (spec.featureDirectory settings).steps =
      (spec.packageDirectory settings).steps ++ [spec.feature] := by
    rw [featureDirectory, Path.steps_join _ feature.relative, feature.steps]
  have outerAbsolute : (spec.featureDirectory settings).isAbsolute =
      (spec.packageDirectory settings).isAbsolute := Path.isAbsolute_join _ feature.relative
  refine ⟨(Name.packagePath spec.basePackage).steps ++ [spec.feature], ?_, ?_,
    outerAbsolute.trans innerAbsolute, outer, outerAbsolute⟩
  · intro up
    rcases List.mem_append.mp up with above | last
    · exact package.steps above
    · exact feature.down (List.mem_singleton.mp last).symm
  · rw [outer, inner, List.append_assoc]

theorem artifact_target (sound : spec.Sound) (base : Path) (kind : ArtifactKind) :
    Disk.IsTarget base (spec.artifact kind).path [spec.feature] (kind.fileName spec.entity) := by
  have components : (spec.artifact kind).path.components =
      [spec.feature, kind.fileName spec.entity].map .name := artifact_components sound kind
  obtain ⟨downward, steps⟩ := Path.downward_of_components (by simp) components
  obtain ⟨front, last, target⟩ := Disk.target_parts base downward (by rw [steps]; simp)
  have order : front ++ [last] = [spec.feature] ++ [kind.fileName spec.entity] :=
    target.order.symm.trans steps
  obtain ⟨fronts, lasts⟩ := List.append_inj' order rfl
  rw [fronts, List.singleton_inj.mp lasts] at target
  exact target

theorem placeOf_featureDirectory (sound : spec.Sound) (settings : Settings) (disk : Disk) :
    disk.placeOf (spec.featureDirectory settings) =
      disk.placeOf (spec.packageDirectory settings) ++ [spec.feature] := by
  obtain ⟨_, _, _, _, steps, absolute⟩ := featureDirectory_parts sound settings
  refine Disk.placeOf_append absolute steps ?_ disk
  simpa using (isName_feature sound).down.symm

theorem targetPlace_artifact (sound : spec.Sound) (settings : Settings) (disk : Disk)
    (kind : ArtifactKind) : disk.targetPlace (spec.packageDirectory settings) (spec.artifact kind) =
      disk.placeOf (spec.featureDirectory settings) ++ [kind.fileName spec.entity] := by
  rw [Disk.targetPlace, (artifact_target sound _ kind).place, placeOf_featureDirectory sound,
    List.append_assoc]

theorem stagingPlace_artifact (sound : spec.Sound) (settings : Settings) (disk : Disk)
    (kind : ArtifactKind) : disk.stagingPlace (spec.packageDirectory settings) (spec.artifact kind) =
      disk.placeOf (spec.featureDirectory settings) ++
        [Disk.stagingName (kind.fileName spec.entity)] := by
  rw [Disk.stagingPlace, (artifact_target sound _ kind).stagingPlace, placeOf_featureDirectory sound,
    List.append_assoc]

-- New directories on the way are at the directory of the feature or above it, since the source root
-- stands.
theorem onWay_featureDirectory (sound : spec.Sound)
    (source : disk.tree.Leads (disk.start (spec.sourceRoot settings)) (spec.sourceRoot settings).steps)
    {place : Location} (free : disk.tree.node? place = none)
    (onWay : disk.OnWay (spec.featureDirectory settings) place) :
    place <+: disk.placeOf (spec.featureDirectory settings) := by
  obtain ⟨names, down, steps, absolute, _⟩ := featureDirectory_parts sound settings
  rcases Disk.onWay_below absolute steps down onWay with above | ⟨inner, _, initial, rfl⟩
  · rw [Disk.stands_onWay source above] at free
    cases free
  · rw [Disk.placeOf_append absolute steps down]
    exact (List.prefix_append_right_inj _).mpr initial

-- With the directory of the feature there, its artifacts need no other one.
theorem newFor_stands (sound : spec.Sound)
    (leads : disk.tree.Leads (disk.start (spec.featureDirectory settings))
      (spec.featureDirectory settings).steps) {place : Location}
    (new : disk.NewFor (spec.packageDirectory settings) spec.artifacts place) :
    disk.tree.node? place = some .directory := by
  obtain ⟨artifact, member, parent, isParent, onWay⟩ := new
  obtain ⟨kind, _, rfl⟩ := List.mem_map.mp member
  obtain ⟨_, _, _, _, steps, absolute⟩ := featureDirectory_parts sound settings
  have target := artifact_target sound (spec.packageDirectory settings) kind
  have begins : Disk.Begins parent (spec.featureDirectory settings) := by
    have same : parent.steps = (spec.featureDirectory settings).steps := by
      rw [isParent.steps, target.steps, steps, ← List.append_assoc, List.dropLast_concat]
    exact ⟨(isParent.isAbsolute.trans target.isAbsolute).trans absolute.symm, same ▸ List.prefix_rfl⟩
  exact Disk.stands_onWay leads (begins.onWay onWay)

-- Files of some kinds are there, the directories they need are new where they were missing, and
-- nothing else has changed.
structure Added (spec : FeatureModule) (directory : Location) (kinds : List ArtifactKind)
    (before after : Tree) : Prop where
  placed : ∀ kind ∈ kinds, after.node? (directory ++ [kind.fileName spec.entity]) =
    some (.file (.text (spec.artifact kind).content))
  replaced : ∀ kind ∈ kinds, before.node? (directory ++ [kind.fileName spec.entity]) ≠ some .directory
  others : ∀ place, (∀ kind ∈ kinds, place ≠ directory ++ [kind.fileName spec.entity]) →
    after.node? place = before.node? place ∨
      before.node? place = none ∧ after.node? place = some .directory ∧ place <+: directory

theorem Added.touched {directory : Location} {kinds left : List ArtifactKind} {before after : Tree}
    (added : spec.Added directory kinds before after) (order : ArtifactKind.ofModule = kinds ++ left)
    (place : Location) : after.node? place = before.node? place ∨
      (before.node? place = none ∧ after.node? place = some .directory ∧ place <+: directory) ∨
      (∃ kind ∈ ArtifactKind.ofModule, place = directory ++ [kind.fileName spec.entity] ∧
        before.node? place ≠ some .directory ∧
        after.node? place = some (.file (.text (spec.artifact kind).content))) := by
  by_cases listed : ∃ kind ∈ kinds, place = directory ++ [kind.fileName spec.entity]
  · obtain ⟨kind, member, rfl⟩ := listed
    have whole : kind ∈ ArtifactKind.ofModule := order ▸ List.mem_append_left _ member
    exact .inr (.inr ⟨kind, whole, rfl, added.replaced kind member, added.placed kind member⟩)
  · have elsewhere : ∀ kind ∈ kinds, place ≠ directory ++ [kind.fileName spec.entity] :=
      fun kind member here => listed ⟨kind, member, here⟩
    rcases added.others place elsewhere with same | new
    · exact .inl same
    · exact .inr (.inl new)

theorem added_of_wrote (sound : spec.Sound) {reached : Disk} {kinds : List ArtifactKind}
    (enlarges : Disk.Enlarges (disk.OnWay (spec.featureDirectory settings)) disk reached)
    (source : disk.tree.Leads (disk.start (spec.sourceRoot settings)) (spec.sourceRoot settings).steps)
    (leads : reached.tree.Leads (reached.start (spec.featureDirectory settings))
      (spec.featureDirectory settings).steps)
    (wrote : Disk.Wrote reached after (spec.packageDirectory settings) spec.artifacts
      (kinds.map spec.artifact)) :
    spec.Added (disk.placeOf (spec.featureDirectory settings)) kinds disk.tree after.tree := by
  have place : ∀ kind, reached.targetPlace (spec.packageDirectory settings) (spec.artifact kind) =
      disk.placeOf (spec.featureDirectory settings) ++ [kind.fileName spec.entity] := by
    intro kind
    rw [targetPlace_artifact sound, Disk.placeOf_congr enlarges.workingDirectory]
  refine ⟨?_, ?_, ?_⟩
  · intro kind member
    have placed := wrote.placed (spec.artifact kind) (List.mem_map.mpr ⟨kind, member, rfl⟩)
    rwa [place] at placed
  · intro kind member stood
    have replaced := wrote.replaced (spec.artifact kind) (List.mem_map.mpr ⟨kind, member, rfl⟩)
    rw [place] at replaced
    exact replaced (enlarges.grows.keeps stood)
  · intro other elsewhere
    have still : reached.tree.node? other = disk.tree.node? other ∨ disk.tree.node? other = none ∧
        reached.tree.node? other = some .directory ∧
          other <+: disk.placeOf (spec.featureDirectory settings) := by
      rcases enlarges.grows other with same | ⟨none, made, onWay⟩
      · exact .inl same
      · exact .inr ⟨none, made, onWay_featureDirectory sound source none onWay⟩
    have missed : ∀ artifact ∈ kinds.map spec.artifact,
        other ≠ reached.targetPlace (spec.packageDirectory settings) artifact := by
      intro artifact member
      obtain ⟨kind, inside, rfl⟩ := List.mem_map.mp member
      rw [place]
      exact elsewhere kind inside
    rcases wrote.others other missed with same | ⟨none, _, new⟩
    · rwa [same]
    · rw [newFor_stands sound leads new] at none
      cases none

-- No staged file of the module stands where its directory has just been made.
theorem ready_artifacts (sound : spec.Sound) (linkFree : disk.tree.LinkFree)
    (visible : disk.tree.Visible) {reached : Disk}
    (enlarges : Disk.Enlarges (disk.OnWay (spec.featureDirectory settings)) disk reached)
    (source : disk.tree.Leads (disk.start (spec.sourceRoot settings))
      (spec.sourceRoot settings).steps) :
    reached.Ready (spec.packageDirectory settings) spec.artifacts := by
  refine ⟨enlarges.grows.linkFree linkFree, artifacts_separate sound, ?_⟩
  intro artifact member
  obtain ⟨kind, _, rfl⟩ := List.mem_map.mp member
  rw [stagingPlace_artifact sound, Disk.placeOf_congr enlarges.workingDirectory]
  rcases enlarges.grows (disk.placeOf (spec.featureDirectory settings) ++
      [Disk.stagingName (kind.fileName spec.entity)]) with same | ⟨none, _, onWay⟩
  · rw [same]
    by_contra stands
    have shown := visible _ _ stands
    rw [Disk.stagingName_hidden] at shown
    cases shown
  · have within := (onWay_featureDirectory sound source none onWay).length_le
    simp only [List.length_append, List.length_singleton] at within
    omega

theorem writeIn_added (sound : spec.Sound) (linkFree : disk.tree.LinkFree) (visible : disk.tree.Visible)
    (source : disk.tree.Leads (disk.start (spec.sourceRoot settings)) (spec.sourceRoot settings).steps)
    {mode : WriteMode} {result : Except Problem (List Path)}
    (written : spec.writeIn disk spec.artifacts settings mode = (result, after)) :
    ∃ kinds left, ArtifactKind.ofModule = kinds ++ left ∧ (∀ paths, result = .ok paths → left = []) ∧
      spec.Added (disk.placeOf (spec.featureDirectory settings)) kinds disk.tree after.tree := by
  have enlarges := Disk.makeDirectoriesFor_enlarges linkFree (spec.featureDirectory settings)
  unfold writeIn at written
  cases made : disk.makeDirectoriesFor (spec.featureDirectory settings) with
  | mk outcome reached =>
    rw [made] at enlarges written
    cases outcome with
    | error problem =>
      cases written
      refine ⟨[], ArtifactKind.ofModule, rfl, fun _ success => (nomatch success),
        List.forall_mem_nil _, List.forall_mem_nil _, ?_⟩
      intro place _
      rcases enlarges.grows place with same | ⟨none, made, onWay⟩
      · exact .inl same
      · exact .inr ⟨none, made, onWay_featureDirectory sound source none onWay⟩
    | ok done =>
      have leads := Disk.makeDirectoriesFor_leads linkFree made
      have ready := ready_artifacts sound linkFree visible enlarges source
      have outcome := Disk.writeArtifacts_outcome ready mode
      simp only at written
      rw [written] at outcome
      cases result with
      | ok paths =>
        exact ⟨ArtifactKind.ofModule, [], (List.append_nil _).symm, fun _ _ => rfl,
          added_of_wrote sound enlarges source leads outcome.2⟩
      | error problem =>
        obtain ⟨front, back, parted, wrote⟩ := outcome
        obtain ⟨kinds, left, order, rfl, _⟩ := List.map_eq_append_iff.mp parted
        exact ⟨kinds, left, order, fun _ success => (nomatch success),
          added_of_wrote sound enlarges source leads wrote⟩

end FeatureModule

namespace Operation
open FeatureModule

theorem isFailure_failure (action cause : String) :
    Status.isFailure (Status.failure action cause) = true := by
  simp [Status.isFailure, Status.failure, Text.startsWith, String.toList_append]

-- A base package is found only in a source root that stands.
theorem basePackage_leads {disk : Disk} (linkFree : disk.tree.LinkFree) {root : Path}
    {settings : Settings} {package : String}
    (found : Project.basePackage disk root settings = .ok package) :
    disk.tree.Leads (disk.start (root.join ⟨settings.sourceRoot⟩))
      (root.join ⟨settings.sourceRoot⟩).steps := by
  apply Disk.isDirectory_leads linkFree
  unfold Project.basePackage at found
  simp only at found
  split at found
  · rename_i place stands
    simp [Disk.isDirectory, stands]
  · cases found

-- A plan is a module that is built for the base package that is found.
theorem planModule_built {workspace : Workspace} {disk : Disk} {request : ModuleRequest}
    {spec : FeatureModule} (planned : planModule workspace disk request = .ok spec) :
    ∃ package,
      Project.basePackage disk (projectRoot workspace request) workspace.settings = .ok package ∧
      FeatureModule.build request.entity request.fields request.methods package
        (projectRoot workspace request) = .ok spec := by
  unfold planModule at planned
  simp only at planned
  split at planned
  · cases planned
  · rename_i package found
    refine ⟨package, found, ?_⟩
    cases built : FeatureModule.build request.entity request.fields request.methods package
        (projectRoot workspace request) with
    | error problem => simp [built, Except.mapError] at planned
    | ok spec =>
      simp only [built, Except.mapError, Except.ok.injEq] at planned
      rw [planned]

theorem planModule_sound {workspace : Workspace} {disk : Disk} (linkFree : disk.tree.LinkFree)
    {request : ModuleRequest} {spec : FeatureModule}
    (planned : planModule workspace disk request = .ok spec) :
    spec.Sound ∧ disk.tree.Leads (disk.start (spec.sourceRoot workspace.settings))
      (spec.sourceRoot workspace.settings).steps := by
  obtain ⟨package, found, built⟩ := planModule_built planned
  obtain ⟨sound, _, root⟩ := build_sound built
  refine ⟨sound, ?_⟩
  rw [FeatureModule.sourceRoot, root]
  exact basePackage_leads linkFree found

-- A project with nothing but its application class, and a module to add to it.
def site : Disk :=
  ⟨(Tree.empty.put ["s"] .directory).put ["s", "Application.java"] (.file (.text "")), []⟩

def shop : Workspace := ⟨⟨""⟩, { sourceRoot := "s" }⟩

def orders : FeatureModule := ⟨"Order", [], [], "", ⟨""⟩⟩

theorem site_linkFree : site.tree.LinkFree := Tree.linkFree_of_entries (by decide)

theorem site_visible : site.tree.Visible := by
  intro place name stands
  rw [site, Tree.node?_put _ (by simp)] at stands
  split at stands
  · rename_i file
    have named : name = "Application.java" := by simpa using congrArg List.getLast? file
    rw [named]
    decide
  · rw [Tree.node?_put _ (by simp)] at stands
    split at stands
    · rename_i directory
      have named : name = "s" := by simpa using congrArg List.getLast? directory
      rw [named]
      decide
    · cases place <;> exact absurd rfl stands

theorem enhance_orders :
    Status.isFailure (enhance shop site ⟨"Order", [], [], none⟩).1 = false := by decide +kernel

end Operation
end SpringSkeleton
