import SpringSkeleton.Proofs.ClassModel.Spacing
import SpringSkeleton.Proofs.Java.Sites

namespace SpringSkeleton.ClassModel
open Java (Lexeme FieldSite Variable)
open Java.Grammar (rulesTo itemSteps item itemSteps_ok item_from LeavesAfter)

section Access

def accessOf? : String → Option Visibility
  | "public" => some .publicAccess
  | "protected" => some .protectedAccess
  | "private" => some .privateAccess
  | _ => none

-- The access that the last word for one gives.
def accessBy (words : List String) : Visibility := ((words.filterMap accessOf?).getLast?).getD .packageAccess

theorem foldl_getD {α β : Type} (make : α → Option β) (entries : List α) (first : β) :
    entries.foldl (fun found entry => (make entry).getD found) first =
      ((entries.filterMap make).getLast?).getD first := by
  induction entries generalizing first with
  | nil => rfl
  | cons entry others ih =>
    rw [List.foldl_cons, ih, List.filterMap_cons]
    cases make entry with
    | none => rfl
    | some value => rw [List.getLast?_cons, Option.getD_some, Option.getD_some]

theorem visibilityOf_eq (modifiers : Java.Modifiers) : visibilityOf modifiers = accessBy modifiers.words := by
  rw [visibilityOf, accessBy, ← foldl_getD]
  refine congrArg (fun step => modifiers.words.foldl step Visibility.packageAccess) ?_
  funext found word
  unfold accessOf?
  split
  · rfl
  · rfl
  · rfl
  · simp_all

end Access

section Declared
variable {source className fallback : String} {program : Java.Program} {model : ClassModel}
  {declaration : Java.ClassDeclaration}

-- The variables that are declared in the body of a class, in the order of the source.
def declarators (source className : String) : List (FieldSite × Variable) :=
  (Java.fieldSites source className).flatMap fun site => site.declared.map fun one => (site, one)

-- A variable as a field: the dimensions behind its name belong to its type.
def declaredField (declarator : FieldSite × Variable) : FieldModel :=
  { name := Java.written declarator.2.name
    declaredType := Java.written (declarator.1.type ++ declarator.2.dimensions)
    visibility := accessBy declarator.1.words
    isStatic := declarator.1.words.contains "static" }

-- The same without those dimensions.
def sharedField (declarator : FieldSite × Variable) : FieldModel :=
  { declaredField declarator with declaredType := Java.written declarator.1.type }

theorem mem_declarators {declarator : FieldSite × Variable} (member : declarator ∈ declarators source className) :
    declarator.1.Placed (Java.lexemes source) ∧ declarator.2 ∈ declarator.1.declared := by
  obtain ⟨site, among, inside⟩ := List.mem_flatMap.mp member
  obtain ⟨one, declared, rfl⟩ := List.mem_map.mp inside
  exact ⟨Java.fieldSites_placed site among, declared⟩

theorem declaredType_iff {declarator : FieldSite × Variable} (member : declarator ∈ declarators source className) :
    sharedField declarator = declaredField declarator ↔ declarator.2.dimensions = [] := by
  obtain ⟨placed, declared⟩ := mem_declarators member
  constructor
  · intro same
    have types : Java.written declarator.1.type = Java.written (declarator.1.type ++ declarator.2.dimensions) :=
      congrArg FieldModel.declaredType same
    rw [Java.written_append placed.type] at types
    cases own : declarator.2.dimensions with
    | nil => rfl
    | cons first more =>
      -- The dimensions begin with a mark, and every mark has a text.
      have chars := congrArg String.toList types
      rw [own, String.toList_ofList, List.flatMap_cons] at chars
      obtain ⟨mark, token⟩ := (placed.declared _ declared).dimensions first (by rw [own]; rfl)
      have inside : first ∈ Java.lexemes source :=
        placed.stands.subset (FieldSite.stretch_subset declared (by simp [Variable.stretch, own]))
      obtain ⟨text, among, spelled⟩ := (Java.lexemes_genuine source first inside).mark token
      have texts : ∀ entry ∈ Java.markTexts, entry.1.toList ≠ [] := by decide
      have none := List.self_eq_append_right.mp chars
      simp only [List.append_eq_nil_iff] at none
      exact absurd (spelled.symm.trans none.1.2) (texts _ among)
  · intro none
    rw [sharedField, declaredField, none, List.append_nil]

-- A name is read as it is written.
theorem written_name {name : List Lexeme} {word : Java.Word} (genuine : ∀ lexeme ∈ name, lexeme.Genuine)
    (token : Java.tokensOf name = [.word word]) : Java.written name = word.text := by
  obtain ⟨lexeme, rfl, here⟩ := List.map_eq_singleton_iff.mp token
  have text := (genuine lexeme (List.mem_singleton_self _)).word here
  simp [Java.written, text]

theorem names_written {ones : List Variable} {names : List Java.Word}
    (genuine : ∀ one ∈ ones, ∀ lexeme ∈ one.name, lexeme.Genuine) (named : Java.AreNames ones names) :
    ones.map (fun one => Java.written one.name) = names.map (·.text) := by
  induction ones generalizing names with
  | nil =>
    cases names with
    | nil => rfl
    | cons => cases named
  | cons one others ih =>
    cases names with
    | nil => cases named
    | cons name more =>
      obtain ⟨here, there⟩ := List.cons.inj named
      obtain ⟨first, later⟩ := List.forall_mem_cons.mp genuine
      rw [List.map_cons, List.map_cons, written_name first here, ih later there]

theorem fieldsOf_tells {site : FieldSite} {found : Java.FieldDeclaration} (tells : site.Tells program found)
    (genuine : ∀ one ∈ site.declared, ∀ lexeme ∈ one.name, lexeme.Genuine) :
    fieldsOf program (.field found) = site.declared.map fun one => sharedField (site, one) := by
  have names := names_written genuine tells.names
  have type : program.written found.type = Java.written site.type := by
    rw [Java.Program.written_eq, tells.type]
  have parted : (site.declared.map fun one => sharedField (site, one)) =
      (site.declared.map fun one => Java.written one.name).map fun name =>
        ⟨name, Java.written site.type, accessBy site.words, site.words.contains "static"⟩ := by
    rw [List.map_map]
    rfl
  rw [parted, names, List.map_map, fieldsOf, type, visibilityOf_eq, isStaticBy, tells.words]
  rfl

theorem fieldsAmong_fields (members : List Java.Member) :
    members.flatMap (fieldsOf program) =
      (Java.fieldsAmong members).flatMap fun found => fieldsOf program (.field found) := by
  induction members with
  | nil => rfl
  | cons member others ih =>
    rw [List.flatMap_cons, ih]
    cases member with
    | field found => rfl
    | method _ => rfl
    | other => rfl

theorem classNamed?_cons {first : Java.Item} {others : List Java.Item}
    (found : classNamed? className (first :: others) = some declaration) :
    (first = .classItem declaration ∧ first.isClassNamed className = true) ∨
      (first.isClassNamed className = false ∧ classNamed? className others = some declaration) := by
  cases first with
  | classItem other =>
    unfold classNamed? at found
    split at found
    · next same =>
      cases found
      exact .inl ⟨rfl, decide_eq_true same⟩
    · next other => exact .inr ⟨decide_eq_false other, found⟩
  | package _ => exact .inr ⟨rfl, found⟩
  | other => exact .inr ⟨rfl, found⟩

theorem sitesNamed_tell {depth bound : Nat} {lexemes : List Lexeme} {items : List Java.Item}
    (genuine : ∀ lexeme ∈ program.lexemes, lexeme.Genuine) (inside : lexemes <:+ program.lexemes)
    (read : itemSteps (rulesTo depth) bound (Java.tokensOf lexemes) = .ok items)
    (found : classNamed? className items = some declaration) :
    List.Forall₂ (FieldSite.Tells program) (Java.sitesNamed (rulesTo depth) className bound lexemes)
      (Java.fieldsAmong declaration.members) := by
  induction bound generalizing lexemes items with
  | zero =>
    cases lexemes with
    | nil =>
      cases read
      cases found
    | cons => cases read
  | succ bound ih =>
    cases lexemes with
    | nil =>
      cases read
      cases found
    | cons lexeme more =>
      obtain ⟨first, left, others, here, later, rfl⟩ := itemSteps_ok read
      have here : item (rulesTo depth) (Java.tokensOf (lexeme :: more)) = .ok (first, left) := here
      rw [Java.sitesNamed, here]
      rcases classNamed?_cons found with ⟨rfl, named⟩ | ⟨other, later_⟩
      · obtain ⟨_, modified, declared⟩ := item_from here
        simp only [named, if_true]
        exact Java.class_tells genuine inside modified declared
      · have behind := Java.tokensOf_behind (LeavesAfter.suffix here)
        simp only [other, Bool.false_eq_true, if_false]
        exact ih ((List.drop_suffix _ _).trans inside) (behind.symm ▸ later) later_

theorem fieldSites_tell (parsed : Java.parse source = .ok program)
    (found : classNamed? className program.items = some declaration) :
    List.Forall₂ (FieldSite.Tells program) (Java.fieldSites source className)
      (Java.fieldsAmong declaration.members) := by
  obtain ⟨lexed, read⟩ := Java.parse_ok_iff.mp parsed
  rw [Java.Grammar.items, Java.tokensOf, List.length_map] at read
  have genuine : ∀ lexeme ∈ program.lexemes, lexeme.Genuine := lexed ▸ Java.lexemes_genuine source
  exact sitesNamed_tell genuine (lexed ▸ List.suffix_rfl) read found

theorem fields_tell {sites : List FieldSite} {found : List Java.FieldDeclaration}
    (tells : List.Forall₂ (FieldSite.Tells program) sites found)
    (genuine : ∀ site ∈ sites, ∀ one ∈ site.declared, ∀ lexeme ∈ one.name, lexeme.Genuine) :
    (found.flatMap fun declaration => fieldsOf program (.field declaration)) =
      sites.flatMap fun site => site.declared.map fun one => sharedField (site, one) := by
  induction tells with
  | nil => rfl
  | cons first _ ih =>
    obtain ⟨here, later⟩ := List.forall_mem_cons.mp genuine
    rw [List.flatMap_cons, List.flatMap_cons, fieldsOf_tells first here, ih later]

-- There is a field for each variable, in order. Its type is the variable's, unless the variable has
-- dimensions of its own.
theorem extract_declarators (extracted : extract fallback ⟨source, className⟩ = .ok model) :
    model.fields = (declarators source className).map sharedField ∧
      (∀ declarator ∈ declarators source className,
        declarator.1.Placed (Java.lexemes source) ∧ declarator.2 ∈ declarator.1.declared ∧
        (sharedField declarator = declaredField declarator ↔ declarator.2.dimensions = [])) ∧
      (model.fields = (declarators source className).map declaredField ↔
        ∀ declarator ∈ declarators source className, declarator.2.dimensions = []) := by
  obtain ⟨program, declaration, parsed, found, rfl⟩ := extract_ok_iff.mp extracted
  have fields : (ofDeclaration program ((packageOf? program program.items).getD fallback) declaration).fields =
      (declarators source className).map sharedField := by
    have genuine : ∀ site ∈ Java.fieldSites source className, ∀ one ∈ site.declared, ∀ lexeme ∈ one.name,
        lexeme.Genuine := by
      intro site among one declared lexeme inside
      refine Java.lexemes_genuine source lexeme ((Java.fieldSites_placed site among).stands.subset ?_)
      exact FieldSite.stretch_subset declared (by simp [Variable.stretch, inside])
    rw [ofDeclaration, fieldsAmong_fields, fields_tell (fieldSites_tell parsed found) genuine, declarators,
      List.map_flatMap]
    simp only [List.map_map]
    rfl
  have types : ∀ declarator ∈ declarators source className,
      (sharedField declarator = declaredField declarator ↔ declarator.2.dimensions = []) :=
    fun declarator member => declaredType_iff member
  refine ⟨fields, fun declarator member => ?_, ?_⟩
  · obtain ⟨placed, declared⟩ := mem_declarators member
    exact ⟨placed, declared, types declarator member⟩
  · rw [fields, List.map_inj_left]
    exact forall₂_congr types

-- Declarations with modifiers, a value and dimensions of the type, and one with dimensions of a variable.
def mixed : String := "class C \x7b private static T x, y = 1; @A T[] z; \x7d"

def mixedModel : ClassModel :=
  ⟨"p", "C", [], [⟨"x", "T", .privateAccess, true⟩, ⟨"y", "T", .privateAccess, true⟩,
    ⟨"z", "T[]", .packageAccess, false⟩], []⟩

def ownDimensions : String := "class C \x7b T a[], b; \x7d"

theorem extract_declarators_mixed : extract "p" ⟨mixed, "C"⟩ = .ok mixedModel ∧
    mixedModel.fields = (declarators mixed "C").map declaredField := by
  have extracted : extract "p" ⟨mixed, "C"⟩ = .ok mixedModel := ok_of_toOption (by decide +kernel)
  have bare : ∀ declarator ∈ declarators mixed "C", declarator.2.dimensions = [] := by decide +kernel
  obtain ⟨_, _, types⟩ := extract_declarators extracted
  exact ⟨extracted, types.mpr bare⟩

-- The brackets behind a name are lost: the variable is an array, and its field is none.
theorem extract_declarators_ownDimensions : ¬ ∀ (fallback source className : String) (model : ClassModel),
    extract fallback ⟨source, className⟩ = .ok model →
      model.fields = (declarators source className).map declaredField := by
  intro all
  have extracted : extract "p" ⟨ownDimensions, "C"⟩ = .ok
      ⟨"p", "C", [], [⟨"a", "T", .packageAccess, false⟩, ⟨"b", "T", .packageAccess, false⟩], []⟩ :=
    ok_of_toOption (by decide +kernel)
  have declared : (declarators ownDimensions "C").map declaredField =
      [⟨"a", "T[]", .packageAccess, false⟩, ⟨"b", "T", .packageAccess, false⟩] := by decide +kernel
  have same := all "p" ownDimensions "C" _ extracted
  rw [declared] at same
  exact absurd same (by decide)

end Declared

end SpringSkeleton.ClassModel
