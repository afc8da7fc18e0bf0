import Narrowing.ClassSource.Declarations
import Narrowing.Proofs.ClassSource.Argument
import Narrowing.Proofs.ClassSource.Statement
import Narrowing.Proofs.Directive.Options
import Narrowing.Proofs.Generation
import Narrowing.Proofs.KeyedList

/-!
# Positional arguments of markers

A marker takes its options as keyword arguments.  Nothing in the reader of modules checks
that: positional arguments are relayed with the others, and it is left to the grammar of
options to refuse them.  This module follows them there.

A directive text joins the arguments of all calls that mark one declaration
(`directiveOf_filterMap_marker?`), and of a text that is read each argument is an option
of its own (`Directive.exists_item_of_intercalate`).  For a positional argument that
leaves one possibility, a key that stands alone.  The schema and its fields know one key
that can stand alone, so the grammar does *not* refuse every positional argument.

## Main statements

* `FoundClass.rejected_of_positional` — a positional argument is refused, whatever its
  expression and whatever stands beside it, unless it is the bare name `unpack`
* `FoundClass.generate_positional_unpack` — the bare name `unpack` takes effect
-/

namespace Narrowing.ClassSource

open Reading Text
open Directive (Relayed Standalone)

namespace Expr

/-! ## The arguments of a marker -/

/-- A keyword argument as it is relayed. -/
def keywordText (source : Source) (k : Option String × Expr) : String :=
  match k.1 with
  | none => s!"**{k.2.text source.text}"
  | some key => s!"{key}={k.2.text source.text}"

/-- The positional arguments of a marker. -/
def positional (source : Source) : Expr → List Expr
  | call _ function args _ => if function.dottedTail = some source.marker then args else []
  | _ => []

/-- All arguments of a marker as they are relayed. -/
def argumentTexts (source : Source) : Expr → List String
  | call _ function args keywords =>
    if function.dottedTail = some source.marker then
      args.map (fun a => a.text source.text) ++ keywords.map (keywordText source)
    else []
  | _ => []

theorem optionText_eq (source : Source) (args : List Expr)
    (keywords : List (Option String × Expr)) :
    optionText source args keywords = ", ".intercalate
      (args.map (fun a => a.text source.text) ++ keywords.map (keywordText source)) := by
  unfold optionText
  refine congrArg (fun texts => ", ".intercalate (_ ++ texts)) (List.map_congr_left ?_)
  rintro ⟨_ | key, value⟩ - <;> rfl

theorem text_mem_argumentTexts {source : Source} {e a : Expr} (member : a ∈ e.positional source) :
    a.text source.text ∈ e.argumentTexts source := by
  cases e with
  | call span function args keywords =>
      rw [positional] at member
      split at member
      · next marks =>
          rw [argumentTexts, if_pos marks]
          exact List.mem_append_left _ (List.mem_map_of_mem (f := fun a => a.text source.text) member)
      · cases member
  | _ => cases member

/-- The option text of a marker joins its arguments; what is no call relays none. -/
theorem marker?_cases (source : Source) (e : Expr) :
    e.marker? source = some (some (", ".intercalate (e.argumentTexts source))) ∨
      e.argumentTexts source = [] ∧ (e.marker? source = none ∨ e.marker? source = some none) := by
  cases e with
  | call span function args keywords =>
      rw [marker?, argumentTexts]
      split
      · rw [optionText_eq]
        exact .inl rfl
      · exact .inr ⟨rfl, .inl rfl⟩
  | _ =>
      refine .inr ⟨rfl, ?_⟩
      rw [marker?.eq_def]
      dsimp only
      split
      · exact .inr rfl
      · exact .inl rfl

end Expr

/-! ## The directive of several markers -/

section Joining

variable {source : Source} {ts : List Token} (cut : Cut source.text.length source.text ts)

include cut

/-- The text of a written expression is relayed. -/
theorem Written.relayed_text {e : Expr} (written : Written ts e.span) :
    Relayed (e.text source.text).toList := by
  rw [Expr.text, Span.text, String.toList_ofList]
  exact written.relayed cut

theorem Legible.relayed_of_positional {e a : Expr} (legible : Legible ts e)
    (positional : a ∈ e.positional source) : Relayed (a.text source.text).toList := by
  cases legible with
  | call span function arguments =>
      rw [Expr.positional] at positional
      split at positional
      · exact (arguments.args a positional).relayed_text cut
      · cases positional
  | _ => cases positional

/-- **The arguments of a legible marker are read on their own.** -/
theorem Legible.standalone {e : Expr} (legible : Legible ts e) :
    ∀ p ∈ e.argumentTexts source, Standalone p.toList ∧ allBlank p.toList = false := by
  have alone {s : List Char} (expression : Relayed s) : Standalone s ∧ allBlank s = false := by
    have visible := expression.allBlank_append []
    rw [List.append_nil] at visible
    exact ⟨expression.standalone, visible⟩
  cases legible with
  | @call span function args keywords arguments =>
      rw [Expr.argumentTexts]
      split
      · rw [List.forall_mem_append, List.forall_mem_map, List.forall_mem_map]
        refine ⟨fun a member => alone ((arguments.args a member).relayed_text cut), ?_⟩
        rintro ⟨key, value⟩ member
        have valued := (arguments.values _ member).relayed_text cut
        cases key with
        | none =>
            have stars : (Expr.keywordText source (none, value)).toList =
                '*' :: '*' :: (value.text source.text).toList := by
              show ("**" ++ value.text source.text).toList = _
              rw [String.toList_append]
              rfl
            rw [stars]
            exact alone (.stuck (by decide) (by decide) (by decide) _)
        | some key =>
            obtain ⟨t, among, named, rfl⟩ := arguments.keys _ member key rfl
            have keyed := cut.relayed_normalized among named
            have equals : (Expr.keywordText source (some (normalized t.text), value)).toList =
                (normalized t.text).toList ++ '=' :: (value.text source.text).toList := by
              show (normalized t.text ++ "=" ++ value.text source.text).toList = _
              rw [String.toList_append, String.toList_append, List.append_assoc]
              rfl
            rw [equals]
            exact ⟨keyed.standalone_keyword valued, keyed.allBlank_append _⟩
      · simp
  | _ => simp [Expr.argumentTexts]

/-- The texts of markers that are joined are those with arguments. -/
theorem optionTexts_filterMap_marker? {es : List Expr} (legible : ∀ e ∈ es, Legible ts e) :
    optionTexts (es.filterMap (Expr.marker? source)) =
      ((es.map (Expr.argumentTexts source)).filter fun texts => !texts.isEmpty).map
        (", ".intercalate) := by
  induction es with
  | nil => rfl
  | cons e es ih =>
      rw [List.forall_mem_cons] at legible
      have others := ih legible.2
      rw [optionTexts] at others ⊢
      rw [List.map_cons]
      rcases e.marker?_cases source with relayed | ⟨nothing, relayed | relayed⟩
      · have own : id (some (", ".intercalate (e.argumentTexts source))) = some _ := rfl
        have visible := fun p member => (legible.1.standalone cut p member).2
        rw [List.filterMap_cons_some relayed, List.filterMap_cons_some own, List.filter_cons,
          Directive.allBlank_intercalate visible, others, List.filter_cons]
        split <;> rfl
      · rw [List.filterMap_cons_none relayed, others, nothing, List.filter_cons_of_neg (by simp)]
      · rw [List.filterMap_cons_some relayed, List.filterMap_cons_none rfl, others, nothing,
          List.filter_cons_of_neg (by simp)]

/-- **The directive text of legible markers joins all their arguments**, in the order in which they
are written. -/
theorem directiveOf_filterMap_marker? {es : List Expr} (legible : ∀ e ∈ es, Legible ts e)
    {text : String} (marked : directiveOf (es.filterMap (Expr.marker? source)) = some text) :
    text = ", ".intercalate (es.flatMap (Expr.argumentTexts source)) := by
  have joined : text = ", ".intercalate (optionTexts (es.filterMap (Expr.marker? source))) := by
    unfold directiveOf at marked
    split at marked
    · cases marked
    · cases marked
      rfl
  rw [joined, optionTexts_filterMap_marker? cut legible, Directive.intercalate_map_intercalate,
    List.flatten_filter_not_isEmpty, List.flatMap_def]
  intro texts member
  simpa using (List.mem_filter.mp member).2

/-- **A positional argument is a flag** of the options that a directive is read as. -/
theorem flag_mem_of_positional {es : List Expr} (legible : ∀ e ∈ es, Legible ts e) {text : String}
    (marked : directiveOf (es.filterMap (Expr.marker? source)) = some text) {e a : Expr}
    (member : e ∈ es) (positional : a ∈ e.positional source) :
    allBlank text.toList = false ∧ ∀ items, Directive.Item.ofText text = .ok items →
      ⟨a.text source.text, .flag⟩ ∈ items := by
  have standalone : ∀ p ∈ es.flatMap (Expr.argumentTexts source),
      Standalone p.toList ∧ allBlank p.toList = false := by
    intro p among
    obtain ⟨e, marker, own⟩ := List.mem_flatMap.mp among
    exact (legible e marker).standalone cut p own
  have among : a.text source.text ∈ es.flatMap (Expr.argumentTexts source) :=
    List.mem_flatMap.mpr ⟨e, member, Expr.text_mem_argumentTexts positional⟩
  obtain rfl := directiveOf_filterMap_marker? cut legible marked
  refine ⟨?_, fun items read => ?_⟩
  · rw [Directive.allBlank_intercalate fun p among => (standalone p among).2,
      List.isEmpty_eq_false_iff]
    exact List.ne_nil_of_mem among
  · rw [Directive.Item.ofText_eq_readFrom, Directive.Item.readFrom_eq_ok_iff] at read
    obtain ⟨i, found, written⟩ := Directive.exists_item_of_intercalate
      (fun p among => (standalone p among).1) read _ among
    have relayed := (legible e member).relayed_of_positional cut positional
    rwa [relayed.eq_of_written written, String.ofList_toList] at found

end Joining

/-! ## Declarations -/

/-- What stands behind the type in the annotation of a field. -/
def Statement.annotations : Statement → List Expr
  | .annotated _ (.name _ _) hint =>
    if hint.isClassVariable then []
    else ((hint.subscriptOf? "Annotated").map fun index => index.elements.tail).getD []
  | _ => []

/-- **The positional arguments of the markers of a class**: of its decorators, and of the annotations
of its fields. -/
def FoundClass.positional (source : Source) (c : FoundClass) : List Expr :=
  (c.decorators ++ c.body.flatMap Statement.annotations).flatMap (Expr.positional source)

variable {source : Source} {ts : List Token}

theorem Legible.elements {index : Expr} (legible : Legible ts index) :
    ∀ e ∈ index.elements, Legible ts e := by
  fun_cases Expr.elements index with
  | case1 span es =>
      cases legible with
      | tuple _ inner => exact inner
  | case2 => simpa using legible

theorem Statement.Legible.annotations {s : Statement} (legible : s.Legible ts) :
    ∀ e ∈ s.annotations, ClassSource.Legible ts e := by
  fun_cases Statement.annotations s with
  | case1 | case3 => simp
  | case2 start span name hint _ =>
      cases legible with
      | annotated _ _ hinted =>
          intro e member
          cases hint with
          | subscript span value index =>
              rw [Expr.subscriptOf?] at member
              split at member
              · cases hinted with
                | subscript _ _ inner => exact inner.elements e (List.mem_of_mem_tail member)
              · cases member
          | _ => cases member

/-- The field whose annotation holds a marker has the directive of all markers in it. -/
theorem Statement.exists_field {s : Statement} {found : Option (Field × Option String)}
    (declared : s.field? source = .ok found) {e : Expr} (member : e ∈ s.annotations) :
    ∃ field, found = some (field, directiveOf (s.annotations.filterMap (Expr.marker? source))) := by
  fun_cases Statement.annotations s with
  | case1 | case3 => simp_all [Statement.annotations]
  | case2 start span name hint instanceField =>
      rw [Statement.annotations, if_neg instanceField] at member
      rw [Statement.field?, if_neg instanceField, Expr.fieldType] at declared
      cases bracketed : hint.subscriptOf? "Annotated" with
      | none =>
          rw [bracketed] at member
          cases member
      | some index =>
          rw [bracketed] at member declared
          dsimp only [Option.map_some, Option.getD_some] at member declared ⊢
          cases elements : index.elements with
          | nil =>
              rw [elements] at member
              cases member
          | cons type rest =>
              rw [elements] at declared
              cases declared
              exact ⟨_, rfl⟩

/-- A marker with arguments gives the declaration a directive. -/
theorem exists_directiveOf {es : List Expr} {e a : Expr} (member : e ∈ es)
    (positional : a ∈ e.positional source) :
    ∃ text, directiveOf (es.filterMap (Expr.marker? source)) = some text := by
  have marks : es.filterMap (Expr.marker? source) ≠ [] := by
    have relayed := Expr.text_mem_argumentTexts positional
    rcases e.marker?_cases source with marks | ⟨nothing, -⟩
    · exact List.ne_nil_of_mem (List.mem_filterMap.mpr ⟨e, member, marks⟩)
    · rw [nothing] at relayed
      cases relayed
  exact Option.ne_none_iff_exists'.mp fun none => marks ((directiveOf_eq_none_iff _).mp none)

/-- The parts of a declaration made by a class. -/
theorem FoundClass.exists_of_declaration? {c : FoundClass} {d : Declaration}
    (declared : c.declaration? source = .ok (some d)) :
    ∃ fields, c.body.mapM (Statement.field? source) = .ok fields ∧
      d.directive = c.directive source ∧
      d.schema.fields = (fields.filterMap id).map Prod.fst ∧
      d.fieldDirectives = .ofPairs ((fields.filterMap id).filterMap fun (field, text) =>
        text.map (field.name, ·)) := by
  unfold declaration? at declared
  split at declared
  · cases declared
  next text marked =>
  split at declared
  · obtain ⟨_, made, same⟩ := map_eq_ok_iff.mp declared
    cases same
    obtain ⟨fields, read, made⟩ := bind_eq_ok_iff.mp made
    rw [pure_eq_ok_iff] at made
    subst made
    exact ⟨fields, read, marked.symm, rfl, rfl⟩
  · cases declared

/-- The fields with directives are among the fields. -/
theorem map_fst_directives_sublist (fields : List (Field × Option String)) :
    ((fields.filterMap fun (field, text) => text.map (field.name, ·)).map Prod.fst).Sublist
      (fields.map fun p => p.1.name) :=
  KeyedList.map_fst_given_sublist fields

/-- A declaration and a positional argument of its class, found by evaluation on the characters of
the text. -/
theorem exists_positional_of_any {d : Declaration} {argument text : String} {chars : List Char}
    (spelled : text = String.ofList chars) (same : source.text = text.toList)
    (evaluated : ((moduleOf? chars).map fun module => (Statement.classes module).any fun c =>
      decide (c.declaration? { source with text := chars } = .ok (some d)) &&
        (c.positional { source with text := chars }).any fun a => a.text chars == argument) =
          some true) :
    ∃ module c a, moduleOf? source.text = some module ∧ c ∈ Statement.classes module ∧
      c.declaration? source = .ok (some d) ∧ a ∈ c.positional source ∧
      a.text source.text = argument := by
  obtain rfl : source.text = chars := by rw [same, spelled, String.toList_ofList]
  obtain ⟨module, read, holds⟩ := Option.map_eq_some_iff.mp evaluated
  obtain ⟨c, found, holds⟩ := List.any_eq_true.mp holds
  rw [Bool.and_eq_true, decide_eq_true_eq, List.any_eq_true] at holds
  obtain ⟨declared, a, positional, text⟩ := holds
  exact ⟨module, c, a, read, found, declared, positional, beq_iff_eq.mp text⟩

namespace FoundClass

variable {c : FoundClass} {d : Declaration}

/-- A positional argument of a decorator is read as a flag, if the schema's options are read. -/
theorem eq_unpack_of_decorator (cut : Cut source.text.length source.text ts) (legible : c.Legible ts)
    (declared : c.declaration? source = .ok (some d)) {e a : Expr} (member : e ∈ c.decorators)
    (positional : a ∈ e.positional source) {options : Directive.SchemaOptions}
    (read : Directive.SchemaOptions.ofText d.directive = .ok options) :
    a.text source.text = "unpack" := by
  obtain ⟨-, -, same, -⟩ := exists_of_declaration? declared
  obtain ⟨text, marked⟩ := exists_directiveOf member positional
  obtain ⟨visible, flag⟩ := flag_mem_of_positional cut legible.decorators marked member positional
  rw [same, directive, marked] at read
  obtain ⟨items, parsed, alone⟩ := Directive.SchemaOptions.eq_unpack_of_flag visible read
  exact alone _ (flag items parsed) rfl

/-- A positional argument in an annotation is read as a flag, if the options of all fields are read
and no two fields have one name. -/
theorem eq_unpack_of_annotation (cut : Cut source.text.length source.text ts) (legible : c.Legible ts)
    (declared : c.declaration? source = .ok (some d)) {s : Statement} (within : s ∈ c.body) {e a : Expr}
    (member : e ∈ s.annotations) (positional : a ∈ e.positional source)
    (distinct : d.schema.fieldNames.Nodup)
    (read : ∀ field ∈ d.schema.fields, ∃ options,
      Directive.FieldOptions.ofText (d.fieldDirectives.get? field.name) = .ok options) :
    a.text source.text = "unpack" := by
  obtain ⟨fields, fieldsRead, -, schema, directives⟩ := exists_of_declaration? declared
  obtain ⟨found, among, fieldRead⟩ := exists_of_mapM fieldsRead s within
  obtain ⟨field, rfl⟩ := Statement.exists_field fieldRead member
  obtain ⟨text, marked⟩ := exists_directiveOf member positional
  obtain ⟨visible, flag⟩ :=
    flag_mem_of_positional cut (legible.body s within).annotations marked member positional
  rw [marked] at among
  have declaredField : (field, some text) ∈ fields.filterMap id :=
    List.mem_filterMap.mpr ⟨_, among, rfl⟩
  have own : d.fieldDirectives.get? field.name = some text := by
    have names : d.schema.fieldNames = (fields.filterMap id).map fun p => p.1.name := by
      rw [Schema.fieldNames, schema, List.map_map]
      rfl
    rw [names] at distinct
    have written : (field.name, text) ∈ (fields.filterMap id).filterMap fun (field, text) =>
        text.map (field.name, ·) := List.mem_filterMap.mpr ⟨_, declaredField, rfl⟩
    -- No two fields share a name, so no later directive is written over this one.
    rw [directives]
    exact KeyedList.get?_ofPairs_of_mem (distinct.sublist (map_fst_directives_sublist _)) written
  obtain ⟨options, fieldOptions⟩ := read field (by
    rw [schema]
    exact List.mem_map_of_mem (f := Prod.fst) declaredField)
  rw [own] at fieldOptions
  obtain ⟨items, parsed, alone⟩ := Directive.FieldOptions.eq_unpack_of_flag visible fieldOptions
  exact alone _ (flag items parsed) rfl

/-- **A positional argument is refused**, whatever its expression, unless it is the bare name `unpack`. -/
theorem rejected_of_positional {module : List Statement} (read : moduleOf? source.text = some module)
    (found : c ∈ Statement.classes module) (declared : c.declaration? source = .ok (some d))
    {a : Expr} (positional : a ∈ c.positional source) (other : a.text source.text ≠ "unpack") :
    ∃ diagnostic, d.generate = .error (.rejected diagnostic) := by
  obtain ⟨ts, tokens, legible⟩ := exists_legible_of_moduleOf? read
  have cut := cut_of_tokensOf? tokens
  cases generated : d.generate with
  | error failure =>
      obtain ⟨diagnostic, rfl⟩ := Declaration.rejected_of_generate generated
      exact ⟨diagnostic, rfl⟩
  | ok conversion =>
      obtain ⟨written, reference, options, accepted, -⟩ := Declaration.generate_eq_ok_iff.mp generated
      obtain ⟨e, member, positional⟩ := List.mem_flatMap.mp positional
      refine absurd ?_ other
      rcases List.mem_append.mp member with member | member
      · exact eq_unpack_of_decorator cut (legible c found) declared member positional
          accepted.directive
      · obtain ⟨s, within, member⟩ := List.mem_flatMap.mp member
        exact eq_unpack_of_annotation cut (legible c found) declared within member positional
          accepted.nodup_targets fun field inside => ⟨_, accepted.fields field inside⟩

/-- A module whose second marker has a starred positional argument beside a keyword. -/
def starred : Source where
  text := "@fromsuper(from_type='Bar')\nclass Foo:\n    x: Annotated[int, fromsuper(*unpack, rename_from='y')]\n".toList
  marker := "fromsuper"

/-- The declaration made by the class of `starred`. -/
def starredDeclaration : Declaration where
  schema := { name := "Foo", fields := [{ name := "x", type := "int", location := some ⟨none, 3, 5⟩ }]
              location := some ⟨none, 2, 1⟩ }
  directive := some "from_type='Bar'"
  fieldDirectives := [("x", "*unpack, rename_from='y'")]

theorem rejected_of_positional_starred :
    ∃ module c a, moduleOf? starred.text = some module ∧ c ∈ Statement.classes module ∧
      c.declaration? starred = .ok (some starredDeclaration) ∧ a ∈ c.positional starred ∧
      a.text starred.text ≠ "unpack" ∧
      ∃ diagnostic, starredDeclaration.generate = .error (.rejected diagnostic) := by
  obtain ⟨module, c, a, read, found, declared, positional, text⟩ :=
    @exists_positional_of_any starred starredDeclaration "*unpack" _ _ rfl rfl (by decide +kernel)
  have other : a.text starred.text ≠ "unpack" := by
    rw [text]
    decide
  exact ⟨module, c, a, read, found, declared, positional, other,
    rejected_of_positional read found declared positional other⟩

/-- A module whose class is marked with the bare name `unpack` beside a keyword. -/
def bare : Source where
  text := "@fromsuper(unpack, from_type='Bar')\nclass Foo:\n    x: int\n".toList
  marker := "fromsuper"

/-- The declaration made by the class of `bare`. -/
def bareDeclaration : Declaration where
  schema := { name := "Foo", fields := [{ name := "x", type := "int", location := some ⟨none, 3, 5⟩ }]
              location := some ⟨none, 2, 1⟩ }
  directive := some "unpack, from_type='Bar'"
  fieldDirectives := []

/-- **The bare name `unpack` takes effect** although it is a positional argument: the conversion
unpacks the field. -/
theorem generate_positional_unpack :
    (∃ module c a, moduleOf? bare.text = some module ∧ c ∈ Statement.classes module ∧
      c.declaration? bare = .ok (some bareDeclaration) ∧ a ∈ c.positional bare ∧
      a.text bare.text = "unpack") ∧
    bareDeclaration.generate = .ok
      ⟨bareDeclaration.schema, ⟨"Bar", []⟩, [⟨"x", "x", true, "int", some ⟨none, 3, 5⟩⟩]⟩ :=
  ⟨exists_positional_of_any rfl rfl (by decide +kernel), by decide +kernel⟩

end FoundClass

end Narrowing.ClassSource
