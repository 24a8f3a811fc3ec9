import SpringSkeleton.CommandLine.Run
import SpringSkeleton.Proofs.FeatureModule.Members
import SpringSkeleton.Proofs.Keyed
import SpringSkeleton.Proofs.Tool.Failure

namespace SpringSkeleton

namespace FeatureModule
open Name

-- The field that a module declares for a given one.
def declaration (given : String × String) : Except NameProblem (String × String) :=
  (escapeField (Text.trim given.1)).map fun name => (name, Text.trim given.2)

-- Every given field is declared; none of them is merged with another.
theorem addFields_perm {fields later : Keyed String} {given : List (String × String)}
    (added : addFields fields given = .ok later) :
    ∃ declared, given.map declaration = declared.map .ok ∧ later.Perm (fields ++ declared) := by
  induction given generalizing fields with
  | nil =>
    cases added
    exact ⟨[], rfl, by rw [List.append_nil]⟩
  | cons first rest ih =>
    unfold addFields at added
    split at added
    · cases added
    · rename_i next one
      obtain ⟨name, _, escaped, free, rfl⟩ := addField_parts one
      obtain ⟨declared, each, perm⟩ := ih added
      refine ⟨(name, Text.trim first.2) :: declared, ?_, ?_⟩
      · rw [List.map_cons, List.map_cons, each, declaration, escaped]
        rfl
      · have inserted := (Keyed.insert_perm free (Text.trim first.2)).append_right declared
        exact perm.trans (inserted.trans List.perm_middle.symm)

theorem build_perm {entity package : String} {given : Keyed String} {methods : List String} {root : Path}
    {spec : FeatureModule} (built : build entity given methods package root = .ok spec) :
    ∃ declared, given.map declaration = declared.map .ok ∧ spec.fields.Perm declared := by
  obtain ⟨_, _, added, _⟩ := build_parts built
  exact addFields_perm added

end FeatureModule

namespace Operation

variable {workspace : Workspace} {disk after : Disk} {request : ModuleRequest} {spec : FeatureModule}

theorem addModule_ok (added : addModule workspace disk request = (.ok spec, after)) :
    planModule workspace disk request = .ok spec ∧ ∃ paths, spec.writeIn disk spec.artifacts
      workspace.settings (.ofSettings workspace.settings) = (.ok paths, after) := by
  unfold addModule at added
  simp only at added
  split at added
  · cases added
  · rename_i planned
    split at added
    · cases added
    · rename_i paths reached written
      cases added
      exact ⟨planned, paths, written⟩

-- Each file of the module is on the disk as it was rendered.
theorem addModule_placed (linkFree : disk.tree.LinkFree) (visible : disk.tree.Visible)
    (added : addModule workspace disk request = (.ok spec, after)) {kind : ArtifactKind}
    (member : kind ∈ ArtifactKind.ofModule) :
    after.tree.node? (disk.placeOf (spec.featureDirectory workspace.settings) ++
      [kind.fileName spec.entity]) = some (.file (.text (spec.artifact kind).content)) := by
  obtain ⟨planned, paths, written⟩ := addModule_ok added
  obtain ⟨sound, source⟩ := planModule_sound linkFree planned
  obtain ⟨kinds, left, order, all, placed⟩ :=
    FeatureModule.writeIn_added sound linkFree visible source written
  rw [order, all paths rfl, List.append_nil] at member
  exact placed.placed kind member

end Operation

namespace CommandLine
open FeatureModule Name

-- Both parts of a field are given without blanks around them.
theorem parseField?_trimmed {raw : String} {field : String × String} (parsed : parseField? raw = some field) :
    Text.trim field.1 = field.1 ∧ Text.trim field.2 = field.2 := by
  unfold parseField? at parsed
  split at parsed
  · cases parsed
  · simp only at parsed
    split at parsed
    · cases parsed
    · cases parsed
      exact ⟨Text.trim_trim _, Text.trim_trim _⟩

theorem filterMap_accepted {raws : List String} (accepted : ∀ raw ∈ raws, (parseField? raw).isSome = true) :
    (raws.filterMap parseField?).length = raws.length := by
  rw [List.length_filterMap_eq_countP, List.countP_eq_length]
  exact accepted

section Declared

variable {entity package : String} {given : List (String × String)} {methods : List String} {root : Path}
  {spec : FeatureModule} (built : build entity (Keyed.ofList given) methods package root = .ok spec)
  (trimmed : ∀ field ∈ given, Text.trim field.1 = field.1 ∧ Text.trim field.2 = field.2)

include built

-- One field for each name.
theorem length_fields_eq_iff : spec.fields.length = given.length ↔ (given.map Prod.fst).Nodup := by
  obtain ⟨declared, each, perm⟩ := build_perm built
  have length : (Keyed.ofList given).length = declared.length := by
    simpa using congrArg List.length each
  rw [perm.length_eq, ← length, Keyed.length_ofList_eq_iff]

include trimmed

-- A declared field stands for the last argument of its name.
theorem mem_fields_iff {field : String × String} : field ∈ spec.fields ↔
    ∃ name, escapeField name = .ok field.1 ∧ Keyed.last? name given = some field.2 := by
  obtain ⟨declared, each, perm⟩ := build_perm built
  have entry : field ∈ spec.fields ↔ ∃ source ∈ Keyed.ofList given, declaration source = .ok field := by
    rw [perm.mem_iff]
    have images : field ∈ declared ↔ (.ok field : Except NameProblem _) ∈ declared.map .ok := by simp
    rw [images, ← each, List.mem_map]
  rw [entry]
  constructor
  · rintro ⟨⟨name, type⟩, member, same⟩
    have last := Keyed.mem_ofList.mp member
    obtain ⟨plainName, plainType⟩ := trimmed _ (Keyed.mem_of_last? last)
    obtain ⟨escaped, found, rfl⟩ := Json.ok_of_map same
    rw [plainName] at found
    exact ⟨name, found, last.trans (congrArg some plainType.symm)⟩
  · rintro ⟨name, escaped, last⟩
    obtain ⟨plainName, plainType⟩ := trimmed _ (Keyed.mem_of_last? last)
    refine ⟨(name, field.2), Keyed.mem_ofList.mpr last, ?_⟩
    rw [declaration, plainName, plainType, escaped]
    rfl

-- Every name is declared. The type that was given with it is declared only if it was given last.
theorem declared_of_given {name type : String} (member : (name, type) ∈ given) :
    ∃ escaped, escapeField name = .ok escaped ∧ escaped ∈ Keyed.keys spec.fields ∧
      ((escaped, type) ∈ spec.fields ↔ Keyed.last? name given = some type) := by
  obtain ⟨declared, each, perm⟩ := build_perm built
  have ascending := (build_fields built).1
  have listed : name ∈ Keyed.keys (Keyed.ofList given) :=
    Keyed.mem_keys_ofList.mpr (List.mem_map.mpr ⟨_, member, rfl⟩)
  obtain ⟨⟨_, last⟩, entry, rfl⟩ := List.mem_map.mp listed
  have chosen := Keyed.mem_ofList.mp entry
  obtain ⟨plain, _⟩ := trimmed _ member
  have mapped : declaration (_, last) ∈ declared.map .ok := each ▸ List.mem_map.mpr ⟨_, entry, rfl⟩
  obtain ⟨field, _, same⟩ := List.mem_map.mp mapped
  obtain ⟨escaped, found, rfl⟩ := Json.ok_of_map same.symm
  rw [plain] at found
  have kept : (escaped, last) ∈ spec.fields := (mem_fields_iff built trimmed).mpr ⟨_, found, chosen⟩
  refine ⟨escaped, found, List.mem_map.mpr ⟨_, kept, rfl⟩, ?_⟩
  rw [ascending.mem_iff, ascending.find?_of_mem kept, chosen]

end Declared

variable {workspace : Workspace} {disk after : Disk} {entity : String} {methods : List String}
  {root : Option Path} {report : Report}

def enhanceStep (entity : String) (fields methods : Nat) : String :=
  announced ("Generating feature module for " ++ entity ++ " " ++ counted fields methods)

theorem perform_enhance {fields : List (String × String)} {spec : FeatureModule}
    (added : Operation.addModule workspace disk
      ⟨entity, Keyed.ofList fields, methods, root.map (·.text)⟩ = (.ok spec, after)) :
    perform workspace disk (.enhance entity fields methods root) =
      (.finished (.succeeded [enhanceStep entity fields.length methods.length,
        confirmed (Operation.moduleStatus workspace.settings spec)]), after) := by
  have plain : Status.isFailure (Operation.moduleStatus workspace.settings spec) = false :=
    Status.isFailure_domainEnhanced _ _ _
  simp [perform, finishing, runEnhance, Operation.enhance, added, Operation.report, Report.ofStatus, plain,
    enhanceStep]

theorem enhance_added {fields : List (String × String)}
    (run : perform workspace disk (.enhance entity fields methods root) = (.finished report, after))
    (success : report.code = 0) :
    ∃ spec, Operation.addModule workspace disk
      ⟨entity, Keyed.ofList fields, methods, root.map (·.text)⟩ = (.ok spec, after) := by
  cases outcome : Operation.addModule workspace disk
      ⟨entity, Keyed.ofList fields, methods, root.map (·.text)⟩ with
  | mk result reached =>
    cases result with
    | ok spec =>
      rw [perform_enhance outcome] at run
      cases run
      exact ⟨spec, rfl⟩
    | error problem =>
      have failed : ∃ output errors, perform workspace disk (.enhance entity fields methods root) =
          (.finished ⟨1, output, errors⟩, reached) := by
        simp [perform, finishing, runEnhance, Operation.enhance, outcome, Operation.report,
          Report.ofStatus, Operation.isFailure_failure, Report.failed]
      obtain ⟨output, errors, refused⟩ := failed
      rw [refused] at run
      cases run
      cases success

-- The entity declares a field for the name of every argument, and nothing else but the identity. The
-- type of an argument is declared exactly when no later argument gives the name another one, and as many
-- fields as were announced are declared exactly when no name was given twice.
theorem enhance_declares {raws : List String}
    (accepted : ∀ raw ∈ raws, (parseField? raw).isSome = true)
    (run : perform workspace disk (.enhance entity (raws.filterMap parseField?) methods root) =
      (.finished report, after))
    (success : report.code = 0) :
    let given := raws.filterMap parseField?
    ∃ spec fields rest,
      Operation.planModule workspace disk
        ⟨entity, Keyed.ofList given, methods, root.map (·.text)⟩ = .ok spec ∧
      report.output = unlines (enhanceStep entity raws.length methods.length :: rest) ∧
      declaredFields (spec.artifact .entity).content = ("id", "Long") :: fields ∧
      (∀ raw ∈ raws, ∃ name type escaped, parseField? raw = some (name, type) ∧
        escapeField name = .ok escaped ∧ escaped ∈ Keyed.keys fields ∧
        ((escaped, type) ∈ fields ↔ Keyed.last? name given = some type)) ∧
      (∀ field ∈ fields, ∃ name, escapeField name = .ok field.1 ∧ (name, field.2) ∈ given) ∧
      (fields.length = raws.length ↔ (given.map Prod.fst).Nodup) ∧
      (disk.tree.LinkFree → disk.tree.Visible →
        after.tree.node? (disk.placeOf (spec.featureDirectory workspace.settings) ++
          [ArtifactKind.fileName .entity spec.entity]) =
            some (.file (.text (spec.artifact .entity).content))) := by
  intro given
  obtain ⟨spec, added⟩ := enhance_added run success
  rw [perform_enhance added] at run
  obtain ⟨planned, _⟩ := Operation.addModule_ok added
  obtain ⟨package, _, built⟩ := Operation.planModule_built planned
  have trimmed : ∀ field ∈ given, Text.trim field.1 = field.1 ∧ Text.trim field.2 = field.2 := by
    intro field member
    obtain ⟨raw, _, parsed⟩ := List.mem_filterMap.mp member
    exact parseField?_trimmed parsed
  have announcedAll : given.length = raws.length := filterMap_accepted accepted
  refine ⟨spec, spec.fields, [confirmed (Operation.moduleStatus workspace.settings spec)], planned, ?_,
    declaredFields_artifact (build_sound built).1.plain (words_of_built built) (.inl rfl), ?_, ?_, ?_, ?_⟩
  · cases run
    rw [← announcedAll]
    rfl
  · intro raw member
    obtain ⟨⟨name, type⟩, parsed⟩ := Option.isSome_iff_exists.mp (accepted raw member)
    obtain ⟨escaped, found, declared⟩ :=
      declared_of_given built trimmed (List.mem_filterMap.mpr ⟨raw, member, parsed⟩)
    exact ⟨name, type, escaped, parsed, found, declared⟩
  · intro field member
    obtain ⟨name, found, last⟩ := (mem_fields_iff built trimmed).mp member
    exact ⟨name, found, Keyed.mem_of_last? last⟩
  · rw [← announcedAll]
    exact length_fields_eq_iff built
  · intro linkFree visible
    exact Operation.addModule_placed linkFree visible added (by decide)

theorem enhance_declares_two : ∃ (report : Report) (after : Disk) (spec : FeatureModule)
    (fields : List (String × String)),
    perform Operation.shop Operation.site
      (.enhance "Order" (["a:String", " b : long"].filterMap parseField?) [] none) =
        (.finished report, after) ∧ report.code = 0 ∧
    declaredFields (spec.artifact .entity).content = ("id", "Long") :: fields ∧ fields.length = 2 ∧
    after.tree.node? (Operation.site.placeOf (spec.featureDirectory Operation.shop.settings) ++
      [ArtifactKind.fileName .entity spec.entity]) =
        some (.file (.text (spec.artifact .entity).content)) := by
  have done : (Operation.addModule Operation.shop Operation.site
      ⟨"Order", Keyed.ofList (["a:String", " b : long"].filterMap parseField?), [], none⟩).1.toBool =
        true := by decide +kernel
  cases outcome : Operation.addModule Operation.shop Operation.site
      ⟨"Order", Keyed.ofList (["a:String", " b : long"].filterMap parseField?), [], none⟩ with
  | mk result after =>
    rw [outcome] at done
    cases result with
    | error problem => cases done
    | ok spec =>
      have run : perform Operation.shop Operation.site
          (.enhance "Order" (["a:String", " b : long"].filterMap parseField?) [] none) = _ :=
        perform_enhance outcome
      obtain ⟨spec, fields, _, _, _, declared, _, _, count, placed⟩ :=
        enhance_declares (by decide) run rfl
      exact ⟨_, after, spec, fields, run, rfl, declared, count.mpr (by decide),
        placed Operation.site_linkFree Operation.site_visible⟩

-- An argument whose name is given again is announced, but its field is not declared.
def invoice : FeatureModule := ⟨"Order", [("a", "Integer")], [], "", ⟨""⟩⟩

theorem enhance_forgets_field : ∃ (report : Report) (after : Disk) (text : String) (rest : List String),
    perform Operation.shop Operation.site
      (.enhance "Order" (["a:String", "a:Integer"].filterMap parseField?) [] none) =
        (.finished report, after) ∧ report.code = 0 ∧
    report.output = unlines (enhanceStep "Order" 2 0 :: rest) ∧
    after.tree.node? ["s", "order", "OrderEntity.java"] = some (.file (.text text)) ∧
    declaredFields text = [("id", "Long"), ("a", "Integer")] := by
  have done : (Operation.addModule Operation.shop Operation.site
      ⟨"Order", Keyed.ofList (["a:String", "a:Integer"].filterMap parseField?), [], none⟩).1.toOption =
        some invoice := by decide +kernel
  cases outcome : Operation.addModule Operation.shop Operation.site
      ⟨"Order", Keyed.ofList (["a:String", "a:Integer"].filterMap parseField?), [], none⟩ with
  | mk result after =>
    rw [outcome] at done
    cases result with
    | error problem => cases done
    | ok spec =>
      obtain rfl : spec = invoice := Option.some.inj done
      have run : perform Operation.shop Operation.site
          (.enhance "Order" (["a:String", "a:Integer"].filterMap parseField?) [] none) = _ :=
        perform_enhance outcome
      have placed := Operation.addModule_placed Operation.site_linkFree Operation.site_visible outcome
        (by decide : ArtifactKind.entity ∈ ArtifactKind.ofModule)
      have place : Operation.site.placeOf (invoice.featureDirectory Operation.shop.settings) ++
          [ArtifactKind.fileName .entity invoice.entity] = ["s", "order", "OrderEntity.java"] := by
        decide +kernel
      obtain ⟨package, _, built⟩ := Operation.planModule_built (Operation.addModule_ok outcome).1
      exact ⟨_, after, _, _, run, rfl, rfl, place ▸ placed,
        declaredFields_artifact (build_sound built).1.plain (words_of_built built) (.inl rfl)⟩

end CommandLine
end SpringSkeleton
