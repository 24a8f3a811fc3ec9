import SpringSkeleton.Proofs.FeatureModule.Sequel

namespace SpringSkeleton

namespace Disk
variable {disk : Disk} {path : Path} {place : Location}

theorem stat_directory (linkFree : disk.tree.LinkFree) (found : disk.stat path = .ok (place, .directory)) :
    path.Admissible ∧ disk.tree.Leads (disk.start path) path.steps ∧ place = disk.placeOf path := by
  have directory : disk.isDirectory path = true := by rw [isDirectory, found]
  have leads := isDirectory_leads linkFree directory
  have admissible : path.Admissible := by
    unfold stat at found
    cases spotted : disk.find true path with
    | error problem => simp [spotted] at found
    | ok spot => exact (findOn_eq_ok_iff.mp spotted).1
  rw [stat_of_leads linkFree admissible leads] at found
  exact ⟨admissible, leads, (Prod.mk.inj (Except.ok.inj found)).1.symm⟩

end Disk

namespace Operation
open FeatureModule Disk
variable {disk now after : Disk} {workspace : Workspace} {request first second : ModuleRequest}
variable {root : Path} {settings : Settings} {package : String} {spec : FeatureModule} {depth : Nat}

def sourceRootOf (workspace : Workspace) (request : ModuleRequest) : Path :=
  (projectRoot workspace request).join ⟨workspace.settings.sourceRoot⟩

-- A base package is that of a class, which stands below the source root.
theorem basePackage_parts (linkFree : disk.tree.LinkFree) (closed : disk.tree.Closed)
    (found : Project.basePackage disk root settings = .ok package) :
    (root.join ⟨settings.sourceRoot⟩).Admissible ∧
      disk.tree.Leads (disk.start (root.join ⟨settings.sourceRoot⟩))
        (root.join ⟨settings.sourceRoot⟩).steps ∧
      disk.tree.node? (disk.placeOf (root.join ⟨settings.sourceRoot⟩)) = some .directory := by
  cases stands : disk.stat (root.join ⟨settings.sourceRoot⟩) with
  | error problem => simp [Project.basePackage, stands] at found
  | ok spot =>
    obtain ⟨place, node⟩ := spot
    cases node with
    | file content => simp [Project.basePackage, stands] at found
    | link target => simp [Project.basePackage, stands] at found
    | directory =>
      obtain ⟨admissible, leads, rfl⟩ := stat_directory linkFree stands
      refine ⟨admissible, leads, ?_⟩
      obtain ⟨names, anchor, _⟩ := (Project.basePackage_ok_iff stands).mp found
      obtain ⟨⟨⟨content, file⟩, name, last, _⟩, _⟩ := Project.firstAnchor?_eq_some_iff.mp anchor
      have some_ : names ≠ [] := by
        rintro rfl
        cases last
      exact closed.above some_ (by rw [file]; simp)

-- What is written later is no application class, so the same one is the first.
theorem basePackage_later (linkFree : disk.tree.LinkFree) (closed : disk.tree.Closed)
    (later : Later settings (root.join ⟨settings.sourceRoot⟩) depth disk now)
    (found : Project.basePackage disk root settings = .ok package) :
    Project.basePackage now root settings = .ok package := by
  obtain ⟨admissible, leads, _⟩ := basePackage_parts linkFree closed found
  have stood := stat_of_leads linkFree admissible leads
  have walked : now.tree.Leads (now.start (root.join ⟨settings.sourceRoot⟩))
      (root.join ⟨settings.sourceRoot⟩).steps := by
    rw [start_congr later.workingDirectory]
    exact leads.mono fun _ => later.keeps
  have stands := stat_of_leads later.linkFree admissible walked
  rw [placeOf_congr later.workingDirectory] at stands
  obtain ⟨names, first, package, ahead⟩ := (Project.basePackage_ok_iff stood).mp found
  refine (Project.basePackage_ok_iff stands).mpr ⟨names, ?_, package, fun other long => ?_⟩
  · rw [Project.firstAnchor?_congr (later.anchors _), first]
  · exact ahead other ((later.unlistable other).mp long)

theorem planModule_later (linkFree : disk.tree.LinkFree) (closed : disk.tree.Closed)
    (later : Later workspace.settings (sourceRootOf workspace request) depth disk now)
    (found : Project.basePackage disk (projectRoot workspace request) workspace.settings = .ok package) :
    planModule workspace now request = planModule workspace disk request := by
  unfold planModule
  simp only [found, basePackage_later linkFree closed later found]

-- What a plan is made of, and where it goes.
theorem planModule_parts (linkFree : disk.tree.LinkFree) (closed : disk.tree.Closed)
    (planned : planModule workspace disk request = .ok spec) :
    Project.basePackage disk (projectRoot workspace request) workspace.settings = .ok spec.basePackage ∧
      spec.projectRoot = projectRoot workspace request ∧ spec.entity = Text.trim request.entity ∧
      disk.tree.node? (disk.placeOf (spec.sourceRoot workspace.settings)) = some .directory := by
  obtain ⟨package, found, built⟩ := planModule_built planned
  obtain ⟨_, _, _, _, entity, base, root⟩ := build_parts built
  refine ⟨base ▸ found, root, entity, ?_⟩
  rw [FeatureModule.sourceRoot, root]
  exact (basePackage_parts linkFree closed found).2.2

theorem enhance_unplanned {problem : Problem}
    (planned : planModule workspace disk request = .error problem) :
    enhance workspace disk request = (Status.failure "enhance domain" problem.message, disk) := by
  simp [enhance, addModule, planned, report]

def courseStatus (settings : Settings) (spec : FeatureModule) : Option Problem → String
  | none => moduleStatus settings spec
  | some problem => Status.failure "enhance domain" problem.message

-- A planned run takes its course, on this disk or a later one.
theorem enhance_course (linkFree : disk.tree.LinkFree) (closed : disk.tree.Closed)
    (planned : planModule workspace disk request = .ok spec)
    (later : Later workspace.settings (sourceRootOf workspace request)
      (spec.depth disk workspace.settings) disk now) :
    let course := spec.course disk workspace.settings (.ofSettings workspace.settings)
    (enhance workspace now request).1 = courseStatus workspace.settings spec course.1 ∧
      Revises course.2 now (enhance workspace now request).2 := by
  obtain ⟨found, _⟩ := planModule_parts linkFree closed planned
  obtain ⟨sound, leads⟩ := planModule_sound linkFree planned
  have again := (planModule_later linkFree closed later found).trans planned
  have written := writeIn_course sound later.linkFree later.closed
    (by
      rw [start_congr later.workingDirectory]
      exact leads.mono fun _ => later.keeps)
    (.ofSettings workspace.settings)
  rw [course_later sound later] at written
  intro course
  cases run : spec.writeIn now spec.artifacts workspace.settings (.ofSettings workspace.settings) with
  | mk result reached =>
    rw [run] at written
    obtain ⟨outcome, revises⟩ := written
    cases stop : course.1 with
    | none =>
      rw [show (spec.course disk workspace.settings _).1 = none from stop] at outcome
      cases outcome
      simp only [enhance, addModule, again, run, report]
      exact ⟨rfl, revises⟩
    | some problem =>
      rw [show (spec.course disk workspace.settings _).1 = some problem from stop] at outcome
      cases outcome
      simp only [enhance, addModule, again, run, report]
      exact ⟨rfl, revises⟩

-- The disk that a planned run leaves is a later one.
theorem enhance_later (linkFree : disk.tree.LinkFree) (closed : disk.tree.Closed)
    (suffix : workspace.settings.anchorSuffix = "Application")
    (planned : planModule workspace disk request = .ok spec) :
    Later workspace.settings (sourceRootOf workspace request) (spec.depth disk workspace.settings) disk
      (enhance workspace disk request).2 := by
  obtain ⟨_, root, _, stands⟩ := planModule_parts linkFree closed planned
  obtain ⟨sound, _⟩ := planModule_sound linkFree planned
  obtain ⟨_, revises⟩ := enhance_course linkFree closed planned (Later.refl linkFree closed _ _)
  have source : spec.sourceRoot workspace.settings = sourceRootOf workspace request := by
    rw [sourceRoot, root, sourceRootOf]
  exact source ▸ later_of_revises sound revises linkFree closed stands suffix

-- Whether the first run succeeds, fails before it writes or stops on the way, the second run ends the
-- same way and finds everything as it would leave it.
theorem enhance_twice (linkFree : disk.tree.LinkFree) (closed : disk.tree.Closed)
    (suffix : workspace.settings.anchorSuffix = "Application") (request : ModuleRequest) :
    let once := enhance workspace disk request
    enhance workspace once.2 request = once ∧
      Project.basePackage once.2 (projectRoot workspace request) workspace.settings =
        Project.basePackage disk (projectRoot workspace request) workspace.settings := by
  intro once
  cases planned : planModule workspace disk request with
  | error problem =>
    have same : once = (Status.failure "enhance domain" problem.message, disk) :=
      enhance_unplanned planned
    rw [same]
    exact ⟨enhance_unplanned planned, rfl⟩
  | ok spec =>
    obtain ⟨found, _⟩ := planModule_parts linkFree closed planned
    have later := enhance_later linkFree closed suffix planned
    obtain ⟨status, revises⟩ := enhance_course linkFree closed planned (Later.refl linkFree closed _ _)
    obtain ⟨again, revised⟩ := enhance_course linkFree closed planned later
    refine ⟨Prod.ext (again.trans status.symm) (revises.again revised), ?_⟩
    rw [basePackage_later linkFree closed later found, found]

-- Modules of one project that differ in the entity.
theorem depth_eq (disk : Disk) (settings : Settings) {other : FeatureModule}
    (root : spec.projectRoot = other.projectRoot) (base : spec.basePackage = other.basePackage)
    (one : spec.Sound) (two : other.Sound) :
    spec.depth disk settings = other.depth disk settings := by
  have sources : spec.sourceRoot settings = other.sourceRoot settings := by
    rw [sourceRoot, sourceRoot, root]
  rw [FeatureModule.depth, FeatureModule.depth, placeOf_wayNames one, placeOf_wayNames two, sources]
  simp [wayNames, base]

-- A run that is not planned is not planned after another one of the same project either.
theorem enhance_beside_unplanned (linkFree : disk.tree.LinkFree) (closed : disk.tree.Closed)
    (suffix : workspace.settings.anchorSuffix = "Application")
    (root : projectRoot workspace first = projectRoot workspace second) {problem : Problem}
    (failed : planModule workspace disk first = .error problem) :
    enhance workspace (enhance workspace disk second).2 first =
      ((enhance workspace disk first).1, (enhance workspace disk second).2) := by
  cases planned : planModule workspace disk second with
  | error other => rw [enhance_unplanned planned, enhance_unplanned failed]
  | ok spec =>
    obtain ⟨found, _⟩ := planModule_parts linkFree closed planned
    have later := enhance_later linkFree closed suffix planned
    rw [← root] at found
    rw [sourceRootOf, ← root, ← sourceRootOf] at later
    have still := planModule_later linkFree closed later found
    rw [enhance_unplanned (still.trans failed), enhance_unplanned failed]

-- Each of two planned runs takes its course after the other one, and their edits agree.
theorem enhance_both_planned (linkFree : disk.tree.LinkFree) (closed : disk.tree.Closed)
    (suffix : workspace.settings.anchorSuffix = "Application")
    (root : projectRoot workspace first = projectRoot workspace second)
    (apart : Text.trim first.entity ≠ Text.trim second.entity) {other : FeatureModule}
    (here : planModule workspace disk first = .ok spec)
    (there : planModule workspace disk second = .ok other) :
    (enhance workspace (enhance workspace disk first).2 second).2 =
        (enhance workspace (enhance workspace disk second).2 first).2 ∧
      (enhance workspace (enhance workspace disk first).2 second).1 = (enhance workspace disk second).1 ∧
      (enhance workspace (enhance workspace disk second).2 first).1 = (enhance workspace disk first).1 := by
  obtain ⟨found, rootHere, entity, _⟩ := planModule_parts linkFree closed here
  obtain ⟨foundThere, rootThere, otherEntity, _⟩ := planModule_parts linkFree closed there
  obtain ⟨sound, _⟩ := planModule_sound linkFree here
  obtain ⟨otherSound, _⟩ := planModule_sound linkFree there
  have roots : spec.projectRoot = other.projectRoot := by rw [rootHere, rootThere, root]
  have base : spec.basePackage = other.basePackage := by
    rw [root, foundThere] at found
    exact (Except.ok.inj found).symm
  have depths := depth_eq disk workspace.settings roots base sound otherSound
  have afterFirst := enhance_later linkFree closed suffix here
  have afterSecond := enhance_later linkFree closed suffix there
  rw [depths, sourceRootOf, root, ← sourceRootOf] at afterFirst
  rw [← depths, sourceRootOf, ← root, ← sourceRootOf] at afterSecond
  obtain ⟨statusFirst, firstHere⟩ := enhance_course linkFree closed here (.refl linkFree closed _ _)
  obtain ⟨statusSecond, firstThere⟩ := enhance_course linkFree closed there (.refl linkFree closed _ _)
  obtain ⟨againSecond, secondThere⟩ := enhance_course linkFree closed there afterFirst
  obtain ⟨againFirst, secondHere⟩ := enhance_course linkFree closed here afterSecond
  refine ⟨?_, againSecond.trans statusSecond.symm, againFirst.trans statusFirst.symm⟩
  refine Revises.commute ?_ firstHere secondThere firstThere secondHere
  intro place left right one two
  have editOne := (course_edit sound one).1
  have editTwo := (course_edit otherSound two).1
  have sources : other.sourceRoot workspace.settings = spec.sourceRoot workspace.settings := by
    rw [sourceRoot, sourceRoot, roots]
  rw [placeOf_wayNames sound] at editOne
  rw [placeOf_wayNames otherSound, sources] at editTwo
  exact editOne.agree base (by rwa [entity, otherEntity]) editTwo

-- Each run ends as it would alone, and neither undoes what the other one did.
theorem enhance_commutes (linkFree : disk.tree.LinkFree) (closed : disk.tree.Closed)
    (suffix : workspace.settings.anchorSuffix = "Application")
    (root : projectRoot workspace first = projectRoot workspace second)
    (apart : Text.trim first.entity ≠ Text.trim second.entity) :
    let one := enhance workspace disk first
    let two := enhance workspace disk second
    (enhance workspace one.2 second).2 = (enhance workspace two.2 first).2 ∧
      (enhance workspace one.2 second).1 = two.1 ∧ (enhance workspace two.2 first).1 = one.1 := by
  simp only
  cases here : planModule workspace disk first with
  | error problem =>
    rw [enhance_beside_unplanned linkFree closed suffix root here, enhance_unplanned here]
    exact ⟨rfl, rfl, rfl⟩
  | ok spec =>
    cases there : planModule workspace disk second with
    | error problem =>
      rw [enhance_beside_unplanned linkFree closed suffix root.symm there, enhance_unplanned there]
      exact ⟨rfl, rfl, rfl⟩
    | ok other => exact enhance_both_planned linkFree closed suffix root apart here there

theorem site_closed : site.tree.Closed := Tree.closed_of_entries (by decide)

def orderRequest : ModuleRequest := ⟨"Order", [], [], none⟩

def itemRequest : ModuleRequest := ⟨"Item", [], [], none⟩

theorem enhance_twice_orders :
    Status.isFailure (enhance shop site orderRequest).1 = false ∧
      enhance shop (enhance shop site orderRequest).2 orderRequest = enhance shop site orderRequest :=
  ⟨enhance_orders, (enhance_twice site_linkFree site_closed rfl orderRequest).1⟩

theorem enhance_commutes_items :
    Status.isFailure (enhance shop (enhance shop site orderRequest).2 itemRequest).1 = false ∧
      (enhance shop (enhance shop site orderRequest).2 itemRequest).2 =
        (enhance shop (enhance shop site itemRequest).2 orderRequest).2 := by
  have root : projectRoot shop orderRequest = projectRoot shop itemRequest := rfl
  have apart : Text.trim orderRequest.entity ≠ Text.trim itemRequest.entity := by decide
  refine ⟨by decide +kernel, ?_⟩
  exact (enhance_commutes site_linkFree site_closed rfl root apart).1

end Operation
end SpringSkeleton
