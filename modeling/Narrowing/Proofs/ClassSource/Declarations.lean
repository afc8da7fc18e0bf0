import Narrowing.Proofs.ClassSource.Head
import Narrowing.Proofs.ClassSource.Positional

/-!
# The marked classes of a module

The reader collects the classes of a whole module, sorts out the marked ones and makes a
declaration of each, or fails.  This module says what comes out for every module that
can be read: which classes are found, which of them are refused, and what the others
declare.

* **Where a class stands** is told by `Statement.Encloses`, the closure of "stands
  directly in".  The flag that the collection gives to a class is true exactly of the
  classes directly in the module (`Statement.mem_classes_iff`).
* **Which class is the first** is a matter of places in the text.  That the list of
  classes is in their order is a fact about the readers
  (`ClassSource.pairwise_start_classes`), not about the tree.
* **What a class declares** is read off its own statements, one by one
  (`FoundClass.Declares`).

There are two causes of a failure (`FoundClass.Refused`).  A marked class inside a
statement is one.  The other is a pair of empty brackets: the type of a field is the
first element in the brackets of `Annotated`, and `Annotated[()]` has none.

## Main statements

* `FoundClass.declaration?_eq_error_iff` — a class fails with the cause for which it is refused
* `declarations_eq_error_iff` — a module fails with the first class that is refused
* `causes_of_declarations` — the two causes, and when empty brackets are the one
* `declares_of_hinted` — which classes make declarations, and which
-/

namespace Narrowing.ClassSource

/-! ## Classes in a tree -/

namespace Statement

/-- A statement stands directly in another one: in the body of a class, or in a block of a compound
statement. -/
inductive Holds : Statement → Statement → Prop
  | body {start : Nat} {name : String} {typeParams : List String} {decorators bases : List Expr}
      {body : List Statement} {s : Statement} (member : s ∈ body) :
      Holds (.classDef start name typeParams decorators bases body) s
  | block {blocks : List (List Statement)} {block : List Statement} {s : Statement}
      (held : block ∈ blocks) (member : s ∈ block) : Holds (.compound blocks) s

/-- **A statement stands inside another one**, at any depth. -/
abbrev Encloses : Statement → Statement → Prop := Relation.TransGen Holds

end Statement

/-- The definition of a class. -/
def FoundClass.statement (c : FoundClass) : Statement :=
  .classDef c.start c.name c.typeParams c.decorators c.bases c.body

/-- **The class stands inside a statement of the module**, not directly in the module. -/
def FoundClass.IsInner (module : List Statement) (c : FoundClass) : Prop :=
  ∃ s ∈ module, s.Encloses c.statement

/-- **The classes directly in a module.** -/
def outerClasses (module : List Statement) : List FoundClass :=
  module.filterMap fun
    | .classDef start name typeParams decorators bases body =>
      some ⟨true, start, name, typeParams, decorators, bases, body⟩
    | _ => none

namespace Statement

mutual

/-- A class that is found in a statement is the statement itself or stands inside it. -/
theorem of_mem_classesIn {topLevel : Bool} {c : FoundClass} {s : Statement}
    (member : c ∈ s.classesIn topLevel) :
    s = c.statement ∧ c.topLevel = topLevel ∨ s.Encloses c.statement ∧ c.topLevel = false := by
  cases s with
  | classDef start name typeParams decorators bases body =>
      rw [classesIn, List.mem_cons] at member
      rcases member with rfl | member
      · exact .inl ⟨rfl, rfl⟩
      · obtain ⟨t, within, found⟩ := of_mem_classesInList member
        refine .inr ?_
        rcases found with ⟨rfl, inner⟩ | ⟨encloses, inner⟩
        · exact ⟨.single (.body within), inner⟩
        · exact ⟨.head (.body within) encloses, inner⟩
  | annotated | simple => cases member
  | compound blocks =>
      rw [classesIn] at member
      obtain ⟨b, held, t, within, found⟩ := of_mem_classesInBlocks member
      refine .inr ?_
      rcases found with ⟨rfl, inner⟩ | ⟨encloses, inner⟩
      · exact ⟨.single (.block held within), inner⟩
      · exact ⟨.head (.block held within) encloses, inner⟩

theorem of_mem_classesInList {topLevel : Bool} {c : FoundClass} {l : List Statement}
    (member : c ∈ classesInList topLevel l) : ∃ s ∈ l,
      s = c.statement ∧ c.topLevel = topLevel ∨ s.Encloses c.statement ∧ c.topLevel = false := by
  cases l with
  | nil => cases member
  | cons s rest =>
      rw [classesInList, List.mem_append] at member
      rcases member with member | member
      · exact ⟨s, List.mem_cons_self, of_mem_classesIn member⟩
      · obtain ⟨t, within, found⟩ := of_mem_classesInList member
        exact ⟨t, List.mem_cons_of_mem s within, found⟩

theorem of_mem_classesInBlocks {c : FoundClass} {bs : List (List Statement)}
    (member : c ∈ classesInBlocks bs) : ∃ b ∈ bs, ∃ s ∈ b,
      s = c.statement ∧ c.topLevel = false ∨ s.Encloses c.statement ∧ c.topLevel = false := by
  cases bs with
  | nil => cases member
  | cons b rest =>
      rw [classesInBlocks, List.mem_append] at member
      rcases member with member | member
      · obtain ⟨s, within, found⟩ := of_mem_classesInList member
        exact ⟨b, List.mem_cons_self, s, within, found⟩
      · obtain ⟨b', held, found⟩ := of_mem_classesInBlocks member
        exact ⟨b', List.mem_cons_of_mem b held, found⟩

end

theorem classesIn_subset {topLevel : Bool} {l : List Statement} {s : Statement} (member : s ∈ l) :
    classesIn topLevel s ⊆ classesInList topLevel l := by
  induction l with
  | nil => cases member
  | cons t l ih =>
      rw [classesInList]
      rcases List.mem_cons.mp member with rfl | member
      · exact List.subset_append_left _ _
      · exact List.Subset.trans (ih member) (List.subset_append_right _ _)

theorem classesInList_subset {bs : List (List Statement)} {b : List Statement} (held : b ∈ bs) :
    classesInList false b ⊆ classesInBlocks bs := by
  induction bs with
  | nil => cases held
  | cons b' bs ih =>
      rw [classesInBlocks]
      rcases List.mem_cons.mp held with rfl | held
      · exact List.subset_append_left _ _
      · exact List.Subset.trans (ih held) (List.subset_append_right _ _)

/-- The classes of an inner statement are found. -/
theorem Holds.subset {s t : Statement} (holds : Holds s t) (topLevel : Bool) :
    classesIn false t ⊆ classesIn topLevel s := by
  cases holds with
  | body member =>
      rw [classesIn.eq_def _ (.classDef ..)]
      exact List.Subset.trans (classesIn_subset member) (List.subset_cons_self _ _)
  | block held member =>
      rw [classesIn.eq_def _ (.compound _)]
      exact List.Subset.trans (classesIn_subset member) (classesInList_subset held)

theorem Encloses.subset {s t : Statement} (encloses : s.Encloses t) (topLevel : Bool) :
    classesIn false t ⊆ classesIn topLevel s := by
  induction encloses with
  | single holds => exact holds.subset topLevel
  | tail _ holds ih => exact List.Subset.trans (holds.subset false) ih

theorem outerClasses_eq_filter (module : List Statement) :
    outerClasses module = (classes module).filter FoundClass.topLevel := by
  have inner : ∀ l : List Statement, (classesInList false l).filter FoundClass.topLevel = [] := by
    intro l
    refine List.filter_eq_nil_iff.mpr fun c member => ?_
    obtain ⟨s, -, ⟨-, inner⟩ | ⟨-, inner⟩⟩ := of_mem_classesInList member <;> simp [inner]
  have innerBlocks : ∀ bs, (classesInBlocks bs).filter FoundClass.topLevel = [] := by
    intro bs
    refine List.filter_eq_nil_iff.mpr fun c member => ?_
    obtain ⟨b, -, s, -, ⟨-, inner⟩ | ⟨-, inner⟩⟩ := of_mem_classesInBlocks member <;> simp [inner]
  rw [classes]
  induction module with
  | nil => rfl
  | cons s l ih =>
      rw [classesInList, List.filter_append, ← ih]
      cases s with
      | classDef => rw [classesIn, List.filter_cons_of_pos rfl, inner]; rfl
      | compound => rw [classesIn, innerBlocks]; rfl
      | annotated => rfl
      | simple => rfl

/-- **The classes of a module are those in its tree**: directly in the module, or inside a statement
of it. -/
theorem mem_classes_iff {module : List Statement} {c : FoundClass} :
    c ∈ classes module ↔ c ∈ outerClasses module ∨ c.topLevel = false ∧ c.IsInner module := by
  rw [outerClasses_eq_filter, List.mem_filter]
  constructor
  · intro member
    obtain ⟨s, within, ⟨-, outer⟩ | ⟨encloses, inner⟩⟩ := of_mem_classesInList member
    · exact .inl ⟨member, outer⟩
    · exact .inr ⟨inner, s, within, encloses⟩
  · rintro (⟨member, -⟩ | ⟨inner, s, within, encloses⟩)
    · exact member
    · have own : c ∈ classesIn false c.statement := by
        rw [FoundClass.statement, classesIn, ← inner]
        exact List.mem_cons_self
      exact classesIn_subset within (encloses.subset true own)

end Statement

/-! ## Marked classes -/

/-- The expression is a marker: a name that marks, possibly dotted, or a call of one. -/
def Expr.isMarker (marker : String) : Expr → Bool
  | .call _ function _ _ => function.dottedTail == some marker
  | e => e.dottedTail == some marker

/-- A marker stands among the decorators of a class. -/
def FoundClass.isMarked (marker : String) (c : FoundClass) : Bool :=
  c.decorators.any (Expr.isMarker marker)

variable {source : Source}

theorem Expr.marker?_eq_none_iff {e : Expr} :
    e.marker? source = none ↔ e.isMarker source.marker = false := by
  cases e <;> simp [marker?, isMarker]

theorem FoundClass.directive_eq_none_iff {c : FoundClass} :
    c.directive source = none ↔ c.isMarked source.marker = false := by
  rw [directive, directiveOf_eq_none_iff, List.filterMap_eq_nil_iff, isMarked, List.any_eq_false]
  simp only [Expr.marker?_eq_none_iff, Bool.not_eq_true]

/-! ## Fields -/

/-- The type in the annotation of a field: the first element in the brackets of `Annotated`, or the
whole annotation. -/
def Expr.fieldHint (hint : Expr) : Expr :=
  ((hint.subscriptOf? "Annotated").bind fun index => index.elements.head?).getD hint

namespace Statement

/-- An annotated assignment to a plain name that makes no class variable. -/
def isField : Statement → Bool
  | .annotated _ (.name _ _) hint => !hint.isClassVariable
  | _ => false

/-- A field whose brackets of `Annotated` are empty. -/
def hasEmptyHint : Statement → Bool
  | .annotated _ (.name _ _) hint =>
    (hint.subscriptOf? "Annotated").any fun index => index.elements.isEmpty
  | _ => false

/-- **The field that a statement declares.** -/
inductive DeclaresField (source : Source) : Statement → Field → Prop
  | annotated (start : Nat) (span : Reading.Span) (name : String) (hint : Expr) :
      DeclaresField source (.annotated start (.name span name) hint)
        ⟨name, hint.fieldHint.text source.text, some (source.locate start)⟩

/-- The directive text of a field with its name, if markers stand in its annotation. -/
def fieldDirective? (source : Source) (s : Statement) : Option (String × String) :=
  match s with
  | .annotated _ (.name _ name) _ =>
    (directiveOf (s.annotations.filterMap (Expr.marker? source))).map (name, ·)
  | _ => none

/-- What stands in brackets of `Annotated` is no class variable. -/
theorem isClassVariable_of_annotated {hint index : Expr}
    (annotated : hint.subscriptOf? "Annotated" = some index) : hint.isClassVariable = false := by
  cases hint with
  | subscript span value index =>
      rw [Expr.subscriptOf?] at annotated
      split at annotated
      · next named =>
          rw [Expr.isClassVariable, Expr.subscriptOf?, if_neg (by simp [named])]
          rfl
      · cases annotated
  | _ => cases annotated

/-- Another statement declares nothing. -/
theorem field?_of_not_isField {s : Statement} (other : s.isField = false) :
    s.field? source = .ok none ∧ s.fieldDirective? source = none := by
  fun_cases field? source s with
  | case1 start span name hint constant => simp [fieldDirective?, annotations, constant, directiveOf]
  | case2 _ _ _ _ field => simp [isField, field] at other
  | case3 s other =>
      refine ⟨rfl, ?_⟩
      unfold fieldDirective?
      split
      · exact absurd rfl (other _ _ _ _)
      · rfl

/-- Brackets without elements keep a field from being read. -/
theorem field?_of_hasEmptyHint {s : Statement} (empty : s.hasEmptyHint = true) :
    s.field? source = .error .emptyHint := by
  fun_cases hasEmptyHint s with
  | case2 => simp [hasEmptyHint] at empty
  | case1 start span name hint =>
      rw [hasEmptyHint, Option.any_eq_true] at empty
      obtain ⟨index, annotated, nothing⟩ := empty
      rw [field?, if_neg (by simp [isClassVariable_of_annotated annotated]), Expr.fieldType, annotated]
      dsimp only
      rw [List.isEmpty_iff.mp nothing]
      rfl

/-- **What a field is read as**: its name, its type and its place, and the directive in its
annotation. -/
theorem exists_of_field? (source : Source) {s : Statement} (field : s.isField = true) (hinted : s.hasEmptyHint = false) :
    ∃ f text, s.field? source = .ok (some (f, text)) ∧ DeclaresField source s f ∧
      s.fieldDirective? source = text.map (f.name, ·) := by
  fun_cases isField s with
  | case2 => simp [isField] at field
  | case1 start span name hint =>
      have constant : ¬ hint.isClassVariable = true := by simpa [isField] using field
      refine ⟨_, _, ?_, .annotated start span name hint, rfl⟩
      rw [field?, if_neg constant, Expr.fieldType, annotations, if_neg constant, Expr.fieldHint]
      cases annotated : hint.subscriptOf? "Annotated" with
      | none => rfl
      | some index =>
          rw [hasEmptyHint, annotated, Option.any_some] at hinted
          dsimp only [Option.bind_some, Option.map_some, Option.getD_some]
          cases elements : index.elements with
          | nil => simp [elements] at hinted
          | cons type rest => rfl

/-- **The fields of a class** are those that its own statements declare, in order, and so are their
directives. -/
theorem fields_of_mapM {body : List Statement} {fields : List (Option (Field × Option String))}
    (read : body.mapM (field? source) = .ok fields) :
    List.Forall₂ (DeclaresField source) (body.filter isField) ((fields.filterMap id).map Prod.fst) ∧
      ((fields.filterMap id).filterMap fun (field, text) => text.map (field.name, ·)) =
        body.filterMap (fieldDirective? source) := by
  have apart : ∀ s ∈ body, s.isField = false → ∀ r, s.field? source = .ok r → r.toList = [] := by
    intro s _ other r done
    rw [(field?_of_not_isField other).1, Except.ok.injEq] at done
    rw [← done, Option.toList_none]
  have declares : ∀ s ∈ body, s.isField = true → ∀ r, s.field? source = .ok r →
      ∃ found : Field × Option String, r.toList = [found] ∧ DeclaresField source s found.1 ∧
        s.fieldDirective? source = found.2.map (found.1.name, ·) := by
    intro s _ field r done
    cases empty : s.hasEmptyHint with
    | true =>
        rw [field?_of_hasEmptyHint empty] at done
        cases done
    | false =>
        obtain ⟨f, text, found, declares, directive⟩ := exists_of_field? source field empty
        rw [found, Except.ok.injEq] at done
        exact ⟨(f, text), by rw [← done, Option.toList_some], declares, directive⟩
  have declared := forall₂_filter_of_mapM read apart declares
  rw [flatMap_toList] at declared
  have directives : body.filterMap (fieldDirective? source) =
      (body.filter isField).filterMap (fieldDirective? source) := by
    rw [List.filterMap_filter]
    refine List.filterMap_congr fun s _ => ?_
    split
    · rfl
    · next other => exact (field?_of_not_isField (by simpa using other)).2
  rw [directives, List.forall₂_map_right_iff]
  refine ⟨declared.imp fun _ _ both => both.1, ?_⟩
  generalize body.filter isField = picked, fields.filterMap id = found at declared
  induction declared with
  | nil => rfl
  | cons both _ ih => rw [List.filterMap_cons, List.filterMap_cons, both.2, ih]

end Statement

namespace FoundClass

/-! ## Declarations -/

/-- **The declaration that a class makes.** Its fields are the statements of its own body that
declare one, and only these have directives. -/
structure Declares (source : Source) (c : FoundClass) (d : Declaration) : Prop where
  name : d.schema.name = c.name
  params : d.schema.params = paramsOf c.typeParams c.bases
  location : d.schema.location = some (source.locate c.start)
  directive : d.directive = c.directive source
  fields : List.Forall₂ (Statement.DeclaresField source) (c.body.filter Statement.isField) d.schema.fields
  fieldDirectives : d.fieldDirectives = .ofPairs (c.body.filterMap (Statement.fieldDirective? source))
  listed : ∀ key ∈ d.fieldDirectives.keys, key ∈ d.schema.fieldNames

/-- **Why a marked class is refused**, given whether it stands directly in the module. -/
inductive Refused (source : Source) (c : FoundClass) : SourceError → Prop
  | inner (marked : c.isMarked source.marker = true) (inner : c.topLevel = false) :
      Refused source c (.innerClass c.name source.marker (source.locate c.start))
  | emptyHint (marked : c.isMarked source.marker = true) (outer : c.topLevel = true)
      (empty : c.body.any Statement.hasEmptyHint = true) : Refused source c .emptyHint

variable {c : FoundClass}

/-- The statements of a class can be read when no brackets of `Annotated` among them are empty. -/
theorem mapM_field?_cases (source : Source) (body : List Statement) :
    (body.any Statement.hasEmptyHint = true ∧
        body.mapM (Statement.field? source) = .error .emptyHint) ∨
      body.any Statement.hasEmptyHint = false ∧
        ∃ fields, body.mapM (Statement.field? source) = .ok fields := by
  have apart : ∀ s : Statement, s.hasEmptyHint = false → ∃ found, s.field? source = .ok found := by
    intro s hinted
    cases field : s.isField with
    | false => exact ⟨none, (Statement.field?_of_not_isField field).1⟩
    | true =>
        obtain ⟨f, text, found, -⟩ := Statement.exists_of_field? source field hinted
        exact ⟨_, found⟩
  cases read : body.mapM (Statement.field? source) with
  | error fault =>
      obtain ⟨before, s, after, rfl, -, failed⟩ := mapM_eq_error_iff.mp read
      cases empty : s.hasEmptyHint with
      | true =>
          rw [Statement.field?_of_hasEmptyHint empty] at failed
          cases failed
          exact .inl ⟨by simp [empty], rfl⟩
      | false =>
          obtain ⟨found, done⟩ := apart s empty
          rw [done] at failed
          cases failed
  | ok fields =>
      refine .inr ⟨List.any_eq_false.mpr fun s within empty => ?_, fields, rfl⟩
      obtain ⟨found, -, done⟩ := exists_of_mapM read s within
      rw [Statement.field?_of_hasEmptyHint empty] at done
      cases done

/-- What a class declares is read off its head and its own statements. -/
theorem declares_of_declaration {text : String} (own : c.directive source = some text) {d : Declaration}
    (made : c.declaration source text = .ok d) : c.Declares source d := by
  obtain ⟨fields, read, made⟩ := bind_eq_ok_iff.mp made
  rw [pure_eq_ok_iff] at made
  subst made
  obtain ⟨declared, directives⟩ := Statement.fields_of_mapM read
  refine ⟨rfl, rfl, rfl, own.symm, declared, by rw [directives], fun key member => ?_⟩
  rw [KeyedList.mem_keys_ofPairs] at member
  rw [Schema.fieldNames, List.map_map]
  exact (map_fst_directives_sublist _).subset member

/-- A class without a marker declares nothing. -/
theorem declaration?_of_not_isMarked (unmarked : c.isMarked source.marker = false) :
    c.declaration? source = .ok none := by
  rw [declaration?, directive_eq_none_iff.mpr unmarked]

/-- **A marked class is refused or makes a declaration.** -/
theorem declaration?_of_isMarked (source : Source) (marked : c.isMarked source.marker = true) :
    (∃ fault, c.declaration? source = .error fault ∧ c.Refused source fault) ∨
      ∃ d, c.declaration? source = .ok (some d) ∧ c.Declares source d ∧ c.topLevel = true ∧
        c.body.any Statement.hasEmptyHint = false := by
  obtain ⟨text, own⟩ : ∃ text, c.directive source = some text := by
    refine Option.ne_none_iff_exists'.mp fun none => ?_
    rw [directive_eq_none_iff, marked] at none
    cases none
  rw [declaration?, own]
  dsimp only
  split
  · next outer =>
      rcases mapM_field?_cases source c.body with ⟨empty, failed⟩ | ⟨hinted, fields, read⟩
      · refine .inl ⟨_, map_eq_error_iff.mpr ?_, .emptyHint marked outer empty⟩
        exact bind_eq_error_iff.mpr (.inl failed)
      · obtain ⟨d, made⟩ : ∃ d, c.declaration source text = .ok d :=
          ⟨_, bind_eq_ok_iff.mpr ⟨fields, read, rfl⟩⟩
        exact .inr ⟨d, map_eq_ok_iff.mpr ⟨d, made, rfl⟩, declares_of_declaration own made, outer, hinted⟩
  · next inner => exact .inl ⟨_, rfl, .inner marked (by simpa using inner)⟩

/-- **A class fails with the cause for which it is refused.** -/
theorem declaration?_eq_error_iff {fault : SourceError} :
    c.declaration? source = .error fault ↔ c.Refused source fault := by
  constructor
  · intro failed
    cases marked : c.isMarked source.marker with
    | false =>
        rw [declaration?_of_not_isMarked marked] at failed
        cases failed
    | true =>
        rcases declaration?_of_isMarked source marked with ⟨fault', same, refused⟩ | ⟨d, made, -⟩
        · rw [same, Except.error.injEq] at failed
          exact failed ▸ refused
        · rw [made] at failed
          cases failed
  · intro refused
    have marked : c.isMarked source.marker = true := by
      cases refused <;> assumption
    rcases declaration?_of_isMarked source marked with ⟨fault', same, other⟩ | ⟨d, -, -, outer, hinted⟩
    · rw [same]
      cases refused <;> cases other <;> simp_all
    · cases refused <;> simp_all

end FoundClass

/-! ## Modules -/

section Modules

variable {explain : String → Complaint} {path : Option String} {marker text : String}
variable {module : List Statement}

/-- The source that a module is read from. -/
abbrev sourceOf (path : Option String) (marker text : String) : Source := ⟨text.toList, path, marker⟩

theorem declarations_eq (read : moduleOf? text.toList = some module) :
    declarations explain path marker text =
      ((Statement.classes module).mapM (FoundClass.declaration? (sourceOf path marker text))).map
        (List.filterMap id) := by
  rw [declarations]
  simp only [read]
  rfl

/-- Two classes of a module do not stand at one place. -/
theorem eq_of_start_eq (read : moduleOf? text.toList = some module) {c d : FoundClass}
    (found : c ∈ Statement.classes module) (found' : d ∈ Statement.classes module)
    (same : c.start = d.start) : c = d := by
  have distinct : ((Statement.classes module).map FoundClass.start).Nodup :=
    List.pairwise_map.mpr ((pairwise_start_classes read).imp Nat.ne_of_lt)
  exact List.inj_on_of_nodup_map distinct found found' same

/-- **A module fails with the first of its classes that is refused**, if one is. -/
theorem declarations_eq_error_iff (read : moduleOf? text.toList = some module) {fault : SourceError} :
    declarations explain path marker text = .error fault ↔
      ∃ c ∈ Statement.classes module, c.Refused (sourceOf path marker text) fault ∧
        ∀ d ∈ Statement.classes module, ∀ fault', d.Refused (sourceOf path marker text) fault' →
          c.start ≤ d.start := by
  have ordered := pairwise_start_classes read
  rw [declarations_eq read, map_eq_error_iff, mapM_eq_error_iff]
  constructor
  · rintro ⟨before, c, after, whole, passed, failed⟩
    rw [whole] at ordered ⊢
    refine ⟨c, by simp, FoundClass.declaration?_eq_error_iff.mp failed, fun d found fault' refused => ?_⟩
    rcases List.mem_append.mp found with earlier | found
    · obtain ⟨r, done⟩ := passed d earlier
      rw [FoundClass.declaration?_eq_error_iff.mpr refused] at done
      cases done
    rcases List.mem_cons.mp found with rfl | later
    · exact Nat.le_refl _
    · exact Nat.le_of_lt (List.rel_of_pairwise_cons (List.pairwise_append.mp ordered).2.1 later)
  · rintro ⟨c, found, refused, first⟩
    obtain ⟨before, after, whole⟩ := List.append_of_mem found
    refine ⟨before, c, after, whole, fun d earlier => ?_, FoundClass.declaration?_eq_error_iff.mpr refused⟩
    cases failed : d.declaration? (sourceOf path marker text) with
    | ok r => exact ⟨r, rfl⟩
    | error fault' =>
        rw [FoundClass.declaration?_eq_error_iff] at failed
        have behind := first d (by simp [whole, earlier]) fault' failed
        rw [whole] at ordered
        have ahead := (List.pairwise_append.mp ordered).2.2 d earlier c List.mem_cons_self
        exact absurd behind (Nat.not_le_of_lt ahead)

/-- A module that is read has no class that is refused. -/
theorem not_refused_of_eq_ok (read : moduleOf? text.toList = some module) {ds : List Declaration}
    (done : declarations explain path marker text = .ok ds) {c : FoundClass}
    (found : c ∈ Statement.classes module) {fault : SourceError} :
    ¬ c.Refused (sourceOf path marker text) fault := by
  intro refused
  rw [declarations_eq read] at done
  obtain ⟨results, done, -⟩ := map_eq_ok_iff.mp done
  obtain ⟨r, -, made⟩ := exists_of_mapM done c found
  rw [FoundClass.declaration?_eq_error_iff.mpr refused] at made
  cases made

/-- A marked class inside a statement is refused. -/
theorem refused_of_isInner (path : Option String) (text : String) {c : FoundClass} (marked : c.isMarked marker = true)
    (inner : c.IsInner module) :
    { c with topLevel := false } ∈ Statement.classes module ∧
      FoundClass.Refused (sourceOf path marker text) { c with topLevel := false }
        (.innerClass c.name marker ((sourceOf path marker text).locate c.start)) :=
  ⟨Statement.mem_classes_iff.mpr (.inr ⟨rfl, inner⟩), .inner marked rfl⟩

/-- A class directly in the module is one at the top level. -/
theorem topLevel_of_mem_outerClasses {c : FoundClass} (outer : c ∈ outerClasses module) :
    c.topLevel = true := by
  rw [Statement.outerClasses_eq_filter] at outer
  exact (List.mem_filter.mp outer).2

/-- **What a refused class of a module is.** -/
theorem FoundClass.Refused.cases_of_mem {c : FoundClass} (found : c ∈ Statement.classes module)
    {fault : SourceError} (refused : c.Refused (sourceOf path marker text) fault) :
    c.isMarked marker = true ∧
      (c.IsInner module ∧ c.topLevel = false ∧
          fault = .innerClass c.name marker ((sourceOf path marker text).locate c.start) ∨
        c ∈ outerClasses module ∧ c.body.any Statement.hasEmptyHint = true ∧ fault = .emptyHint) := by
  cases refused with
  | inner marked inner =>
      rcases Statement.mem_classes_iff.mp found with outer | ⟨-, encloses⟩
      · rw [topLevel_of_mem_outerClasses outer] at inner
        cases inner
      · exact ⟨marked, .inl ⟨encloses, inner, rfl⟩⟩
  | emptyHint marked outer empty =>
      rcases Statement.mem_classes_iff.mp found with within | ⟨inner, -⟩
      · exact ⟨marked, .inr ⟨within, empty, rfl⟩⟩
      · rw [inner] at outer
        cases outer

/-- **Reading a module fails for a marked class inside a statement, or for empty brackets of
`Annotated`** in a marked class directly in the module.  Empty brackets are the cause exactly when
no marked class inside a statement comes before the class that they stand in. -/
theorem causes_of_declarations (read : moduleOf? text.toList = some module) :
    (∀ fault, declarations explain path marker text = .error fault →
      (∃ c : FoundClass, c.isMarked marker = true ∧ c.IsInner module ∧
        fault = .innerClass c.name marker ((sourceOf path marker text).locate c.start)) ∨
      fault = .emptyHint) ∧
    (declarations explain path marker text = .error .emptyHint ↔
      ∃ c ∈ outerClasses module, c.isMarked marker = true ∧
        c.body.any Statement.hasEmptyHint = true ∧
        ∀ d : FoundClass, d.isMarked marker = true → d.IsInner module → c.start < d.start) := by
  refine ⟨fun fault failed => ?_, ?_, ?_⟩
  · obtain ⟨c, found, refused, -⟩ := (declarations_eq_error_iff read).mp failed
    obtain ⟨marked, ⟨inner, -, cause⟩ | ⟨-, -, cause⟩⟩ := refused.cases_of_mem found
    · exact .inl ⟨c, marked, inner, cause⟩
    · exact .inr cause
  · intro failed
    obtain ⟨c, found, refused, first⟩ := (declarations_eq_error_iff read).mp failed
    obtain ⟨marked, ⟨-, -, cause⟩ | ⟨outer, empty, -⟩⟩ := refused.cases_of_mem found
    · cases cause
    refine ⟨c, outer, marked, empty, fun d marked' inner => ?_⟩
    obtain ⟨found', refused'⟩ := refused_of_isInner path text marked' inner
    refine Nat.lt_of_le_of_ne (first { d with topLevel := false } found' _ refused') fun same => ?_
    obtain rfl := eq_of_start_eq read found found' same
    cases topLevel_of_mem_outerClasses outer
  · rintro ⟨c, outer, marked, empty, first⟩
    have found := Statement.mem_classes_iff.mpr (.inl outer)
    have refused : c.Refused (sourceOf path marker text) .emptyHint :=
      .emptyHint marked (topLevel_of_mem_outerClasses outer) empty
    cases failed : declarations explain path marker text with
    | ok ds => exact absurd refused (not_refused_of_eq_ok read failed found)
    | error fault =>
        obtain ⟨d, found', refused', first'⟩ := (declarations_eq_error_iff read).mp failed
        obtain ⟨marked', ⟨inner, -⟩ | ⟨-, -, rfl⟩⟩ := refused'.cases_of_mem found'
        · exact absurd (first' c found _ refused) (Nat.not_le_of_lt (first d marked' inner))
        · rfl

/-- A module found by evaluation, with what it declares. The text is given by its characters, which
need not be found again in its bytes. -/
theorem exists_module_of_evaluated (explain : String → Complaint) (path : Option String)
    (marker text : String) (check : List Statement → Bool)
    (result : Except SourceError (List Declaration)) {chars : List Char}
    (spelled : text = String.ofList chars)
    (evaluated : ((moduleOf? chars).map fun module =>
      check module && decide (((Statement.classes module).mapM
        (FoundClass.declaration? ⟨chars, path, marker⟩)).map (List.filterMap id) = result)) =
          some true) :
    ∃ module, moduleOf? text.toList = some module ∧ check module = true ∧
      declarations explain path marker text = result := by
  obtain ⟨module, read, holds⟩ := Option.map_eq_some_iff.mp evaluated
  rw [Bool.and_eq_true, decide_eq_true_eq] at holds
  have read' : moduleOf? text.toList = some module := by
    rw [spelled, String.toList_ofList, read]
  refine ⟨module, read', holds.1, ?_⟩
  rw [declarations_eq read', sourceOf, spelled, String.toList_ofList]
  exact holds.2

/-- A module with empty brackets of `Annotated` in front of a marked class inside a function. -/
def emptyHintText : String :=
  "@fromsuper(from_type='Bar')\nclass Foo:\n    x: Annotated[()]\ndef f():\n    @fromsuper\n    class Baz: pass\n"

set_option maxRecDepth 2000 in
theorem causes_of_emptyHintText :
    ∃ module, moduleOf? emptyHintText.toList = some module ∧
      declarations (fun _ => .plain) none "fromsuper" emptyHintText = .error .emptyHint ∧
      ∃ c ∈ outerClasses module, c.isMarked "fromsuper" = true ∧
        c.body.any Statement.hasEmptyHint = true ∧
        ∀ d : FoundClass, d.isMarked "fromsuper" = true → d.IsInner module → c.start < d.start := by
  obtain ⟨module, read, -, failed⟩ := exists_module_of_evaluated (fun _ => .plain) none "fromsuper"
    emptyHintText (fun _ => true) (.error .emptyHint) rfl (by decide +kernel)
  exact ⟨module, read, failed, (causes_of_declarations read).2.mp failed⟩

/-- **Empty brackets of `Annotated` keep a module from being read**, although it is one and its only
marked class stands directly in it. -/
theorem declarations_emptyHint :
    (moduleOf? "@fromsuper(from_type='Bar')\nclass Foo:\n    x: Annotated[()]\n".toList).any
        (fun module => (Statement.classes module).all FoundClass.topLevel) = true ∧
      declarations (fun _ => .plain) none "fromsuper"
          "@fromsuper(from_type='Bar')\nclass Foo:\n    x: Annotated[()]\n" = .error .emptyHint := by
  decide +kernel

/-- **Exactly the marked classes directly in a module make declarations**, if no brackets of
`Annotated` in its classes are empty.  When a marked class stands inside a statement, the first of
these in the order of the text is the cause of a failure.  Otherwise every marked class directly in
the module makes one declaration, in the order of the text: its fields are those that the statements
of its own body declare, and only these have directives. -/
theorem declares_of_hinted (read : moduleOf? text.toList = some module)
    (hinted : ∀ c ∈ outerClasses module, c.body.any Statement.hasEmptyHint = false) :
    ((∃ c : FoundClass, c.isMarked marker = true ∧ c.IsInner module) →
      ∃ c : FoundClass, c.isMarked marker = true ∧ c.IsInner module ∧
        (∀ d : FoundClass, d.isMarked marker = true → d.IsInner module → c.start ≤ d.start) ∧
        declarations explain path marker text =
          .error (.innerClass c.name marker ((sourceOf path marker text).locate c.start))) ∧
    ((∀ c : FoundClass, c.IsInner module → c.isMarked marker = false) →
      ∃ ds, declarations explain path marker text = .ok ds ∧
        List.Forall₂ (FoundClass.Declares (sourceOf path marker text))
          ((outerClasses module).filter (FoundClass.isMarked marker)) ds ∧
        (outerClasses module).Pairwise fun c d => c.start < d.start) := by
  constructor
  · rintro ⟨c, marked, inner⟩
    obtain ⟨found, refused⟩ := refused_of_isInner path text marked inner
    cases failed : declarations explain path marker text with
    | ok ds => exact absurd refused (not_refused_of_eq_ok read failed found)
    | error fault =>
        obtain ⟨f, found', refused', first⟩ := (declarations_eq_error_iff read).mp failed
        obtain ⟨marked', ⟨inner', -, rfl⟩ | ⟨outer, empty, -⟩⟩ := refused'.cases_of_mem found'
        · refine ⟨f, marked', inner', fun d marked'' inner'' => ?_, rfl⟩
          obtain ⟨found'', refused''⟩ :=
            refused_of_isInner path text marked'' inner''
          exact first { d with topLevel := false } found'' _ refused''
        · rw [hinted f outer] at empty
          cases empty
  · intro outside
    have picked : (Statement.classes module).filter (FoundClass.isMarked marker) =
        (outerClasses module).filter (FoundClass.isMarked marker) := by
      rw [Statement.outerClasses_eq_filter, List.filter_filter]
      refine List.filter_congr fun c found => ?_
      rcases Statement.mem_classes_iff.mp found with outer | ⟨-, inner⟩
      · rw [topLevel_of_mem_outerClasses outer, Bool.and_true]
      · rw [outside c inner, Bool.false_and]
    cases result : declarations explain path marker text with
    | error fault =>
        obtain ⟨c, found, refused, -⟩ := (declarations_eq_error_iff read).mp result
        obtain ⟨marked, ⟨inner, -⟩ | ⟨outer, empty, -⟩⟩ := refused.cases_of_mem found
        · rw [outside c inner] at marked
          cases marked
        · rw [hinted c outer] at empty
          cases empty
    | ok ds =>
        rw [declarations_eq read] at result
        obtain ⟨results, done, rfl⟩ := map_eq_ok_iff.mp result
        refine ⟨_, rfl, ?_, ?_⟩
        · rw [← picked]
          rw [← flatMap_toList]
          refine forall₂_filter_of_mapM done (fun c _ unmarked r made => ?_)
            fun c _ marked r made => ?_
          · rw [FoundClass.declaration?_of_not_isMarked unmarked, Except.ok.injEq] at made
            rw [← made, Option.toList_none]
          rcases FoundClass.declaration?_of_isMarked (sourceOf path marker text) marked with
            ⟨fault, failed, -⟩ | ⟨d, made', declares, -⟩
          · rw [failed] at made
            cases made
          · rw [made', Except.ok.injEq] at made
            exact ⟨d, by rw [← made, Option.toList_some], declares⟩
        · rw [Statement.outerClasses_eq_filter]
          exact (pairwise_start_classes read).filter _

/-- A module with classes in the branches of statements and in another class. -/
def branchedText : String :=
  "if a:\n    class Baz: x: int\nelse:\n    class Baz: x: Annotated[()]\n\n@markers.fromsuper(from_type='Bar')\nclass Foo(Generic[T]):\n    x: Annotated[T, fromsuper(unpack=True)] = None\n    k: ClassVar[int] = 0\n    class Inner:\n        y: int\n    def f(self):\n        z: int = 0\n"

/-- The declaration made by the marked class of `branchedText`. -/
def branchedDeclaration : Declaration where
  schema := { name := "Foo", params := ["T"]
              fields := [{ name := "x", type := "T", location := some ⟨none, 8, 5⟩ }]
              location := some ⟨none, 7, 1⟩ }
  directive := some "from_type='Bar'"
  fieldDirectives := [("x", "unpack=True")]

set_option maxRecDepth 4000 in
theorem declares_of_branchedText :
    ∃ module, moduleOf? branchedText.toList = some module ∧
      (∀ c ∈ outerClasses module, c.body.any Statement.hasEmptyHint = false) ∧
      (∀ c : FoundClass, c.IsInner module → c.isMarked "fromsuper" = false) ∧
      declarations (fun _ => .plain) none "fromsuper" branchedText = .ok [branchedDeclaration] ∧
      List.Forall₂ (FoundClass.Declares (sourceOf none "fromsuper" branchedText))
        ((outerClasses module).filter (FoundClass.isMarked "fromsuper")) [branchedDeclaration] := by
  obtain ⟨module, read, holds, made⟩ := exists_module_of_evaluated (fun _ => .plain) none "fromsuper"
    branchedText (fun module =>
      (outerClasses module).all (fun c => !c.body.any Statement.hasEmptyHint) &&
        (Statement.classes module).all fun c => c.topLevel || !c.isMarked "fromsuper")
    (.ok [branchedDeclaration]) rfl (by decide +kernel)
  rw [Bool.and_eq_true, List.all_eq_true, List.all_eq_true] at holds
  have hinted : ∀ c ∈ outerClasses module, c.body.any Statement.hasEmptyHint = false :=
    fun c outer => by simpa using holds.1 c outer
  have outside : ∀ c : FoundClass, c.IsInner module → c.isMarked "fromsuper" = false :=
    fun c inner => by
      simpa [FoundClass.isMarked] using holds.2 { c with topLevel := false } (Statement.mem_classes_iff.mpr (.inr ⟨rfl, inner⟩))
  obtain ⟨ds, same, declares, -⟩ := (declares_of_hinted read hinted).2 outside
  obtain rfl := Except.ok.inj (made.symm.trans same)
  exact ⟨module, read, hinted, outside, made, declares⟩

end Modules

end Narrowing.ClassSource
