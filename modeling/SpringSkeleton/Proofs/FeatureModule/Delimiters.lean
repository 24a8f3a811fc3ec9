import SpringSkeleton.FeatureModule.Rendering
import SpringSkeleton.Proofs.FeatureModule.Sound

namespace SpringSkeleton

namespace Name

-- What gives a text its statements, blocks and lines.
def delimitersOf (text : String) : List Char := text.toList.filter isDelimiter

@[simp] theorem delimitersOf_append (first second : String) :
    delimitersOf (first ++ second) = delimitersOf first ++ delimitersOf second := by
  rw [delimitersOf, String.toList_append, List.filter_append]
  rfl

theorem Undelimited.delimitersOf {text : String} (plain : Undelimited text) :
    Name.delimitersOf text = [] := by
  refine List.filter_eq_nil_iff.mpr fun c member => ?_
  rw [plain c member]
  simp

theorem delimitersOf_sourceText (lines : List String) :
    delimitersOf (sourceText lines) = (lines.map delimitersOf).flatMap (· ++ ['\n']) := by
  rw [sourceText, delimitersOf, String.toList_ofList]
  induction lines with
  | nil => rfl
  | cons line rest ih =>
    have feed : ['\n'].filter isDelimiter = ['\n'] := by decide
    simp only [List.flatMap_cons, List.map_cons, List.filter_append, feed, ih]
    rfl

end Name

namespace FeatureModule
open Name

-- All that a module puts into its source text.
structure Plain (spec : FeatureModule) : Prop where
  entity : Undelimited spec.entity
  table : Undelimited spec.tableName
  feature : Undelimited spec.feature
  package : Undelimited spec.featurePackage
  fields : ∀ field ∈ spec.fields,
    Undelimited field.1 ∧ Undelimited field.2 ∧ Undelimited (accessorName field.1)
  methods : ∀ method ∈ spec.methods, Undelimited method

theorem Sound.plain {spec : FeatureModule} (sound : spec.Sound) : spec.Plain := by
  have entity := undelimited_of_isIdentifier sound.entity
  have package := undelimited_of_checkPackage sound.package
  refine ⟨entity, entity.uppercase, entity.lowercase, package.joinPackage entity.lowercase, ?_,
    sound.methods⟩
  intro field member
  obtain ⟨name, type⟩ := sound.fields field member
  exact ⟨name, type, name.capitalize⟩

variable {spec other : FeatureModule}

-- A part repeated for every item of a list, each time with the same delimiters.
theorem flatMap_delimiters {α : Type} {render : α → List String} {pattern : List (List Char)}
    {items : List α} (each : ∀ item ∈ items, (render item).map delimitersOf = pattern) :
    (items.flatMap render).map delimitersOf = (List.replicate items.length pattern).flatten := by
  induction items with
  | nil => rfl
  | cons item rest ih =>
    have others := ih fun other member => each other (List.mem_cons_of_mem _ member)
    rw [List.flatMap_cons, List.map_append, each item List.mem_cons_self, others]
    rfl

theorem map_delimiters {α : Type} {render : α → String} {pattern : List Char} {items : List α}
    (each : ∀ item ∈ items, delimitersOf (render item) = pattern) :
    (items.map render).map delimitersOf = List.replicate items.length pattern := by
  rw [List.map_map, List.eq_replicate_iff]
  refine ⟨by simp, fun line member => ?_⟩
  obtain ⟨item, inside, rfl⟩ := List.mem_map.mp member
  exact each item inside

theorem fieldLine_delimiters {field : String × String} (name : Undelimited field.1)
    (type : Undelimited field.2) : delimitersOf (fieldLine field) = [';'] := by
  simp only [fieldLine, delimitersOf_append, name.delimitersOf, type.delimitersOf]
  decide

theorem accessorLines_delimiters {field : String × String} (name : Undelimited field.1)
    (type : Undelimited field.2) (accessor : Undelimited (accessorName field.1)) :
    (accessorLines field).map delimitersOf =
      [[], ['\x7b', ';', '\x7d'], ['\x7b', ';', '\x7d']] := by
  simp only [accessorLines, List.map_cons, List.map_nil, delimitersOf_append, name.delimitersOf,
    type.delimitersOf, accessor.delimitersOf]
  decide

theorem memberLines_delimiters (plain : spec.Plain) (same : other.Plain)
    (fields : spec.fields.length = other.fields.length) :
    spec.memberLines.map delimitersOf = other.memberLines.map delimitersOf := by
  have each : ∀ {spec : FeatureModule}, spec.Plain →
      (spec.fields.map fieldLine).map delimitersOf = List.replicate spec.fields.length [';'] ∧
        (spec.fields.flatMap accessorLines).map delimitersOf = (List.replicate spec.fields.length
          [[], ['\x7b', ';', '\x7d'], ['\x7b', ';', '\x7d']]).flatten := by
    intro spec plain
    constructor
    · refine map_delimiters fun field member => ?_
      obtain ⟨name, type, _⟩ := plain.fields field member
      exact fieldLine_delimiters name type
    · refine flatMap_delimiters fun field member => ?_
      obtain ⟨name, type, accessor⟩ := plain.fields field member
      exact accessorLines_delimiters name type accessor
  simp only [memberLines, List.map_append, List.map_cons, (each plain).1, (each plain).2,
    (each same).1, (each same).2, fields]

theorem methodLines_delimiters (plain : spec.Plain) :
    (spec.methods.map fun method => "    " ++ method ++ ";").map delimitersOf =
      List.replicate spec.methods.length [';'] := by
  refine map_delimiters fun method member => ?_
  simp only [delimitersOf_append, (plain.methods method member).delimitersOf]
  decide

-- Line by line, for each kind of file.
theorem lines_delimiters (plain : spec.Plain) (same : other.Plain)
    (fields : spec.fields.length = other.fields.length)
    (methods : spec.methods.length = other.methods.length) (kind : ArtifactKind) :
    (spec.lines kind).map delimitersOf = (other.lines kind).map delimitersOf := by
  have members := memberLines_delimiters plain same fields
  have listed := (methodLines_delimiters plain).trans (methods ▸ (methodLines_delimiters same).symm)
  cases kind with
  | entity =>
    simp only [lines, entityLines, packageLine, List.map_append, List.map_cons, List.map_nil,
      delimitersOf_append, members, plain.entity.delimitersOf, same.entity.delimitersOf,
      plain.table.delimitersOf, same.table.delimitersOf, plain.package.delimitersOf,
      same.package.delimitersOf]
  | dto =>
    simp only [lines, dtoLines, packageLine, List.map_append, List.map_cons, List.map_nil,
      delimitersOf_append, members, plain.entity.delimitersOf, same.entity.delimitersOf,
      plain.package.delimitersOf, same.package.delimitersOf]
  | mapper =>
    simp only [lines, mapperLines, packageLine, List.map_cons, List.map_nil, delimitersOf_append,
      plain.entity.delimitersOf, same.entity.delimitersOf, plain.package.delimitersOf,
      same.package.delimitersOf]
  | repository =>
    simp only [lines, repositoryLines, packageLine, List.map_append, List.map_cons, List.map_nil,
      delimitersOf_append, listed, plain.entity.delimitersOf, same.entity.delimitersOf,
      plain.package.delimitersOf, same.package.delimitersOf]
  | service =>
    simp only [lines, serviceLines, packageLine, List.map_cons, List.map_nil, delimitersOf_append,
      plain.entity.delimitersOf, same.entity.delimitersOf, plain.package.delimitersOf,
      same.package.delimitersOf]
  | controller =>
    simp only [lines, controllerLines, packageLine, List.map_cons, List.map_nil,
      delimitersOf_append, plain.entity.delimitersOf, same.entity.delimitersOf,
      plain.feature.delimitersOf, same.feature.delimitersOf, plain.package.delimitersOf,
      same.package.delimitersOf]
  | test => rfl

-- No text of a caller moves, adds or takes away a delimiter of a generated file.
theorem build_delimiters {entity otherEntity package otherPackage : String}
    {given otherGiven : Keyed String} {methods otherMethods : List String} {root otherRoot : Path}
    (built : build entity given methods package root = .ok spec)
    (otherBuilt : build otherEntity otherGiven otherMethods otherPackage otherRoot = .ok other)
    (fields : spec.fields.length = other.fields.length)
    (signatures : spec.methods.length = other.methods.length) (kind : ArtifactKind) :
    (spec.artifact kind).content.toList.filter isDelimiter =
      (other.artifact kind).content.toList.filter isDelimiter := by
  have plain := (build_sound built).1.plain
  have same := (build_sound otherBuilt).1.plain
  have content : delimitersOf (sourceText (spec.lines kind)) =
      delimitersOf (sourceText (other.lines kind)) := by
    rw [delimitersOf_sourceText, delimitersOf_sourceText,
      lines_delimiters plain same fields signatures kind]
  exact content

def order : FeatureModule := ⟨"Order", [("total", "int")], ["Order first()"], "com", ⟨""⟩⟩

def visit : FeatureModule := ⟨"Visit", [("class_", "List<Long>")], ["long count"], "", ⟨""⟩⟩

theorem order_built :
    build " Order " [("total", "int")] ["Order first();"] "com" ⟨""⟩ = .ok order := by decide

theorem visit_built :
    build "Visit" [("class", "List<Long> ")] ["long count"] "" ⟨""⟩ = .ok visit := by decide

theorem build_delimiters_order : (order.artifact .repository).content.toList.filter isDelimiter =
    (visit.artifact .repository).content.toList.filter isDelimiter :=
  build_delimiters order_built visit_built rfl rfl .repository

end FeatureModule
end SpringSkeleton
