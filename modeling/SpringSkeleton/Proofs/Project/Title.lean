import SpringSkeleton.Proofs.Project.Skeleton
import SpringSkeleton.Proofs.Tree.Lasting

namespace SpringSkeleton

namespace Disk
variable {disk : Disk} {path : Path} {place : Location} {content : Content}

-- Without links, a path leads to a place of its own last name.
theorem Holds.last (linkFree : disk.tree.LinkFree) {last : String} (named : path.fileName? = some last)
    (holds : disk.Holds path place content) : place.getLast? = some last := by
  obtain ⟨ends, down⟩ := Path.fileName?_eq_some_iff.mp named
  obtain ⟨front, order⟩ := List.getLast?_eq_some_iff.mp ends
  by_cases dots : (Route.ofText path.text).ending = .dots
  · obtain ⟨_, _, found⟩ := (find_dots linkFree dots).mp holds
    cases found
  · obtain ⟨_, _, _, found⟩ := (find_name linkFree dots order down).mp holds
    obtain ⟨rfl, _⟩ := Tree.Spot.mk.inj found
    rw [placeOf_concat order down, List.getLast?_concat]

-- A path without steps is the one of a directory that stands.
theorem pathExists_of_steps (disk : Disk) (admissible : path.Admissible) (none : path.steps = []) :
    disk.pathExists path = true := by
  have dots : (Route.ofText path.text).ending = .dots := by
    by_contra open_
    obtain ⟨front, last, order, _⟩ := Path.steps_of_ending open_
    simp [none] at order
  have route : (Route.ofText path.text).steps = [] := by rw [path.ofText_steps, none]
  have found : disk.find true path = .ok ⟨disk.start path, some .directory, .dots⟩ := by
    refine findOn_eq_ok_iff.mpr ⟨admissible, ?_⟩
    refine Tree.spot_arrived ?_
    unfold Tree.walk
    simp only [dots, if_true, route]
    rfl
  rw [pathExists, stat, found]
  rfl

end Disk

namespace Project
variable {spec : ProjectSpec} {directory path workspace : Path} {settings : Settings} {name title : String}
  {disk after : Disk}

section Assignment

-- What ends a text in quotes, escapes in it, or breaks its line.
def breaksQuotes (c : Char) : Bool := ['\'', '\\', '\n', '\r'].contains c

-- What a text assigns to the name of the build, if it is one assignment of a text in quotes.
def assigned? (text : String) : Option String :=
  match text.toList.dropPrefix? "rootProject.name = '".toList with
  | none => none
  | some rest =>
    if rest.dropWhile (fun c => !breaksQuotes c) = ['\'', '\n'] then
      some (String.ofList (rest.takeWhile fun c => !breaksQuotes c))
    else none

theorem settings_chars (title : String) : (sourceText (settingsLines title)).toList =
    "rootProject.name = '".toList ++ (title.toList ++ ['\'', '\n']) := by
  simp [sourceText, settingsLines]

theorem settings_text (title : String) :
    sourceText (settingsLines title) = "rootProject.name = '" ++ title ++ "'\n" := by
  refine String.toList_inj.mp ?_
  rw [settings_chars]
  simp

theorem assigned?_settings_iff (title : String) :
    assigned? (sourceText (settingsLines title)) = some title ↔
      ∀ c ∈ title.toList, breaksQuotes c = false := by
  have quote : breaksQuotes '\'' = true := by decide
  rw [assigned?, settings_chars, List.dropPrefix?_append_of_beq _ BEq.rfl]
  simp only
  constructor
  · intro read
    split at read
    · have taken := congrArg String.toList (Option.some.inj read)
      rw [String.toList_ofList] at taken
      intro c member
      have inside : c ∈ (title.toList ++ ['\'', '\n']).takeWhile fun c => !breaksQuotes c := by rwa [taken]
      simpa using List.mem_takeWhile_imp inside
    · cases read
  · intro plain
    have all : ∀ c ∈ title.toList, (fun c => !breaksQuotes c) c = true := by simpa using plain
    rw [List.dropWhile_append_of_pos all, List.takeWhile_append_of_pos all]
    simp [quote]

example : assigned? (sourceText (settingsLines "billing")) = some "billing" := by decide +kernel

end Assignment

section Plan

-- One file of the plan has this name, and one only.
theorem plan_settings (checked : checkPackages spec = .ok ()) {other : Path} {text : String}
    (member : .file other text ∈ plan directory name spec settings) :
    text = sourceText (settingsLines (buildName directory name)) ∨
      ∃ last, other.fileName? = some last ∧ last ≠ "settings.gradle" := by
  have named : ∀ {base : Path} {last : String}, Path.IsName last → last ≠ "settings.gradle" →
      ∃ own, (base.join ⟨last⟩).fileName? = some own ∧ own ≠ "settings.gradle" :=
    fun {base last} isName apart => ⟨last, Path.fileName?_join isName base, apart⟩
  have note : ∀ {last : String} {given : Option String}, Path.IsName last → last ≠ "settings.gradle" →
      .file other text ∈ noteSteps (directory.join ⟨last⟩) given →
        ∃ own, other.fileName? = some own ∧ own ≠ "settings.gradle" := by
    intro last given isName apart inside
    unfold noteSteps at inside
    split at inside
    · cases inside
    · split at inside
      · cases inside
      · cases List.mem_singleton.mp inside
        exact named isName apart
  obtain ⟨_, _, entries⟩ := checkPackages_ok_iff.mp checked
  simp only [plan, List.mem_append] at member
  rcases member with ((((first | standard) | below) | last) | requirements) | standards
  · rcases List.mem_pair.mp first with same | same
    · rw [(Step.file.inj same).1]
      exact .inr (named ⟨by decide, by decide, by decide⟩ (by decide))
    · exact .inl (Step.file.inj same).2
  · obtain ⟨_, _, same⟩ := List.mem_map.mp standard
    cases same
  · obtain ⟨entry, inside, listed⟩ := List.mem_flatMap.mp below
    rcases List.mem_cons.mp listed with same | among
    · cases same
    · obtain ⟨className, given, same⟩ := List.mem_map.mp among
      cases same
      have identifier := Name.isIdentifier_of_isFreeName ((entries entry inside).2 className given)
      refine .inr (named (Name.isName_append identifier (by decide)) fun same => ?_)
      have ends := congrArg (fun text : String => text.toList.getLast?) same
      simp at ends
  · rcases List.mem_pair.mp last with same | same
    · rw [(Step.file.inj same).1]
      exact .inr (named ⟨by decide, by decide, by decide⟩ (by decide))
    · rw [(Step.file.inj same).1]
      exact .inr (named ⟨by decide, by decide, by decide⟩ (by decide))
  · exact .inr (note ⟨by decide, by decide, by decide⟩ (by decide) requirements)
  · exact .inr (note ⟨by decide, by decide, by decide⟩ (by decide) standards)

theorem settings_written (checked : checkPackages spec = .ok ())
    (run : disk.performAll (plan directory name spec settings) = (.ok (), after)) :
    ∃ place text, after.Holds (directory.join ⟨"settings.gradle"⟩) place (.text text) ∧
      (text = sourceText (settingsLines (buildName directory name)) ∨
        ¬disk.tree.LinkFree ∧ ∃ other last, .file other text ∈ plan directory name spec settings ∧
          other.fileName? = some last ∧ last ≠ "settings.gradle" ∧ after.Holds other place (.text text)) := by
  have isName : Path.IsName "settings.gradle" := ⟨by decide, by decide, by decide⟩
  obtain ⟨place, text, holds, front, other, back, order, found, _⟩ := Disk.written_of_ok run
    (directory.join ⟨"settings.gradle"⟩) _ (List.mem_cons_of_mem _ List.mem_cons_self)
  refine ⟨place, text, holds, ?_⟩
  have member : .file other text ∈ plan directory name spec settings := by simp [order]
  refine (plan_settings checked member).imp_right fun ⟨last, named, apart⟩ => ?_
  refine ⟨fun linkFree => apart ?_, other, last, member, named, apart, found⟩
  have free := (Disk.performed_of_ok linkFree run).linkFree linkFree
  have ends := holds.last free (Path.fileName?_join isName directory)
  rw [found.last free named] at ends
  exact Option.some.inj ends

end Plan

section Directory

theorem workingPath_absolute (disk : Disk) : disk.workingPath.isAbsolute = true := by
  simp [Disk.workingPath, Path.isAbsolute]

-- The name of a project ends its directory.
theorem projectDirectory_steps (disk : Disk) (workspace : Path) (checked : checkName name = .ok ()) :
    ∃ outer, (projectDirectory disk workspace name).steps = outer ++ Path.steps ⟨name⟩ ∧
      ".." ∉ Path.steps ⟨name⟩ ∧ (projectDirectory disk workspace name).isAbsolute = true := by
  have downward := checkName_downward checked
  obtain ⟨rooted, steps⟩ := Path.absolute_parts (workingPath_absolute disk) (workspace.join ⟨name⟩)
  rw [Path.steps_join workspace downward.relative, ← List.append_assoc] at steps
  exact ⟨_, steps, downward.steps, rooted⟩

theorem admissible_of_settings (checked : checkName name = .ok ()) {place : Location} {content : Content}
    (holds : after.Holds ((projectDirectory disk workspace name).join ⟨"settings.gradle"⟩) place content) :
    (projectDirectory disk workspace name).Admissible := by
  have isName : Path.IsName "settings.gradle" := ⟨by decide, by decide, by decide⟩
  obtain ⟨_, _, _, rooted⟩ := projectDirectory_steps disk workspace checked
  have present : (projectDirectory disk workspace name).text ≠ "" := by
    intro empty
    rw [Path.isAbsolute, empty] at rooted
    cases rooted
  exact (below_file (Path.Below.refl _) isName).admissible present holds.admissible

-- The build has the last name of the project's own, if it has any, and else that of the directory. A
-- directory that ends in two dots leaves the build with what the project is called.
theorem buildName_cases (checked : checkName name = .ok ())
    (admissible : (projectDirectory disk workspace name).Admissible)
    (unseen : disk.pathExists (projectDirectory disk workspace name) = false) :
    let path := projectDirectory disk workspace name
    (∀ last, (Path.steps ⟨name⟩).getLast? = some last → buildName path name = last) ∧
      (path.fileName? = some (buildName path name) ∨
        path.steps.getLast? = some ".." ∧ Path.steps ⟨name⟩ = [] ∧ buildName path name = name) := by
  intro path
  obtain ⟨outer, steps, down, _⟩ := projectDirectory_steps disk workspace checked
  have own : ∀ last, (Path.steps ⟨name⟩).getLast? = some last → path.fileName? = some last := by
    intro last ends
    refine Path.fileName?_eq_some_iff.mpr ⟨?_, ?_⟩
    · rw [show path.steps = outer ++ Path.steps ⟨name⟩ from steps, List.getLast?_append, ends]
      rfl
    · rintro rfl
      exact down (List.mem_of_getLast? ends)
  refine ⟨fun last ends => by rw [buildName, own last ends]; rfl, ?_⟩
  cases found : path.fileName? with
  | some last => exact .inl (by rw [buildName, found]; rfl)
  | none =>
    have nothing : Path.steps ⟨name⟩ = [] := by
      by_contra some_
      have named := own _ (List.getLast?_eq_some_getLast some_)
      rw [found] at named
      cases named
    refine .inr ⟨?_, nothing, by rw [buildName, found]; rfl⟩
    cases ends : path.steps.getLast? with
    | none =>
      have there := Disk.pathExists_of_steps disk admissible (List.getLast?_eq_none_iff.mp ends)
      rw [unseen] at there
      cases there
    | some last =>
      by_contra other
      have named := Path.fileName?_eq_some_iff.mpr ⟨ends, fun up => other (up ▸ rfl)⟩
      rw [found] at named
      cases named

end Directory

-- The settings file assigns the name between quotes, as it is. A file of the plan can only take its place
-- through a link. What is read back is that name exactly when no character of it breaks the quotes.
theorem create_titled {files : Nat}
    (made : create disk workspace spec settings = (.ok (.created title path files), after)) :
    let name := Text.trim spec.name
    let build := buildName path name
    (∃ place text, after.Holds (path.join ⟨"settings.gradle"⟩) place (.text text) ∧
      after.readText (path.join ⟨"settings.gradle"⟩) = .ok text ∧
      (text = "rootProject.name = '" ++ build ++ "'\n" ∨
        ¬disk.tree.LinkFree ∧ ∃ other last, .file other text ∈ plan path name spec settings ∧
          other.fileName? = some last ∧ last ≠ "settings.gradle" ∧ after.Holds other place (.text text))) ∧
    (∀ last, (Path.steps ⟨name⟩).getLast? = some last → build = last) ∧
    (path.fileName? = some build ∨
      path.steps.getLast? = some ".." ∧ Path.steps ⟨name⟩ = [] ∧ build = name) ∧
    (assigned? ("rootProject.name = '" ++ build ++ "'\n") = some build ↔
      ∀ c ∈ build.toList, c ≠ '\'' ∧ c ≠ '\\' ∧ c ≠ '\n' ∧ c ≠ '\r') := by
  intro name build
  obtain ⟨checked, packages, same, unseen, run⟩ := create_created made
  obtain ⟨place, text, holds, written⟩ := settings_written packages run
  rw [settings_text] at written
  have admissible := admissible_of_settings checked (same ▸ holds)
  obtain ⟨own, last⟩ := buildName_cases checked admissible (same ▸ unseen)
  rw [← same] at own last
  refine ⟨⟨place, text, holds, holds.readText, written⟩, own, last, ?_⟩
  rw [← settings_text, assigned?_settings_iff]
  simp [breaksQuotes]

-- A project with a quote in its name.
def quoted : ProjectSpec := ⟨"it's", "c", none, none, some []⟩

theorem quoted_created : ∃ title path files after,
    create ⟨Tree.empty, []⟩ ⟨""⟩ quoted .standard = (.ok (.created title path files), after) ∧
      after.tree.node? ["it's"] = some .directory :=
  created_of_node (by decide +kernel)

theorem quoted_name : (Path.steps ⟨Text.trim quoted.name⟩).getLast? = some "it's" := by decide +kernel

theorem create_titled_quoted : ∃ title path files after,
    create ⟨Tree.empty, []⟩ ⟨""⟩ quoted .standard = (.ok (.created title path files), after) ∧
      path.fileName? = some "it's" ∧
      after.readText (path.join ⟨"settings.gradle"⟩) = .ok "rootProject.name = 'it's'\n" ∧
      assigned? "rootProject.name = 'it's'\n" ≠ some "it's" := by
  obtain ⟨title, path, files, after, made, _⟩ := quoted_created
  obtain ⟨⟨place, text, _, stands, written⟩, own, last, back⟩ := create_titled made
  have build : buildName path (Text.trim quoted.name) = "it's" := own _ quoted_name
  rw [build] at written last back
  have named : path.fileName? = some "it's" := by
    rcases last with named | ⟨_, none, _⟩
    · exact named
    · have ends := quoted_name
      rw [none] at ends
      cases ends
  rcases written with same | ⟨links, _⟩
  · rw [same] at stands
    exact ⟨title, path, files, after, made, named, stands, fun read => (back.mp read '\'' (by decide)).1 rfl⟩
  · exact absurd Tree.linkFree_empty links

-- A name can end the quotes around it.
theorem create_misquotes : ¬ ∀ (disk after : Disk) (workspace path : Path) (spec : ProjectSpec)
    (title : String) (files : Nat),
      create disk workspace spec .standard = (.ok (.created title path files), after) →
        ∃ build, path.fileName? = some build ∧
          after.readText (path.join ⟨"settings.gradle"⟩) =
            .ok ("rootProject.name = '" ++ build ++ "'\n") ∧
          ∀ c ∈ build.toList, breaksQuotes c = false := by
  intro plain
  obtain ⟨title, path, files, after, made, _⟩ := quoted_created
  obtain ⟨build, last, _, free⟩ := plain _ _ _ _ _ _ _ made
  obtain ⟨checked, packages, same, unseen, run⟩ := create_created made
  obtain ⟨place, text, holds, _⟩ := settings_written packages run
  obtain ⟨own, _⟩ := buildName_cases checked (admissible_of_settings checked (same ▸ holds)) (same ▸ unseen)
  have named : build = "it's" := by
    rw [← own _ quoted_name, ← same, buildName, last]
    rfl
  exact absurd (free '\'' (named ▸ by decide)) (by decide)

end Project
end SpringSkeleton
