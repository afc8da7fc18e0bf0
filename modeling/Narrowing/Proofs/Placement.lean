import Narrowing.Proofs.Generation

/-!
# Where a diagnostic stands

A diagnostic names a schema, perhaps one field of it, and a place.  The stages of a request
choose these three each on their own, so this module collects what they choose:
`Declaration.Places` lists the fields and places that a diagnostic of a declaration can have, one
constructor for each way of choosing them, and every stage is shown to keep to the list.

* A problem with the schema stands at the schema and names no field.
* A directive of an undeclared field stands at the schema and names the first such field.
* A directive text that cannot be read stands at the first declared field that has one.
* A shared source field stands at its later reader.

### The exception

The last two ways name a declared field, and a declared field may have no place of its own.  A
shared source field is then reported at the place of the schema.  A directive text that cannot be
read is not: its diagnostic has the place of the field, and none at all where the field has none.
`place_of_rejected` says that this is the only way in which a diagnostic on a schema with a place
is left without one; `halfPlaced_misread` is a declaration that comes to it.

## Main statements

* `Declaration.places_of_generate` — the field and the place of every diagnostic
* `Declaration.place_of_rejected` — the same, for a schema that has a place
-/

namespace Narrowing

open Directive (FieldOptions SchemaOptions)

/-- The directive text of a field cannot be read. -/
def Field.isMisread (directives : KeyedList String) (field : Field) : Bool :=
  (FieldOptions.ofText (directives.get? field.name)).toOption.isNone

theorem Field.isMisread_of_error {directives : KeyedList String} {field : Field}
    {fault : Directive.Fault}
    (unread : FieldOptions.ofText (directives.get? field.name) = .error fault) :
    field.isMisread directives = true := by
  rw [isMisread, unread]
  rfl

theorem Field.not_isMisread_of_ok {directives : KeyedList String} {field : Field}
    {options : FieldOptions}
    (read : FieldOptions.ofText (directives.get? field.name) = .ok options) :
    ¬ field.isMisread directives = true := by
  rw [isMisread, read]
  exact nofun

namespace Declaration

/-- The first declared field whose directive text cannot be read. -/
def misread? (d : Declaration) : Option Field :=
  d.schema.fields.find? (Field.isMisread d.fieldDirectives)

/-- The first field that has a directive without being declared. -/
def stray? (d : Declaration) : Option String :=
  d.fieldDirectives.keys.find? fun name => name ∉ d.schema.fieldNames

theorem strayDirective?_eq (d : Declaration) : Request.strayDirective? d = d.stray? := by
  rw [Request.strayDirective?, stray?]
  congr 1
  funext name
  rw [Bool.eq_iff_iff, Option.isNone_iff_eq_none, Schema.field?_eq_none_iff, decide_eq_true_iff]

/-- **The fields and places that a diagnostic of a declaration can have.** -/
inductive Places (d : Declaration) : Option String → Option Location → Prop
  /-- The directive of the schema, or the source that it names. -/
  | schema : Places d none d.schema.location
  /-- A directive that belongs to no declared field. -/
  | stray {name : String} (first : d.stray? = some name) : Places d (some name) d.schema.location
  /-- The directive text of a declared field. -/
  | misread {field : Field} (first : d.misread? = some field) :
      Places d (some field.name) field.location
  /-- A source field that an earlier field reads already. -/
  | shared {field : Field} (declared : field ∈ d.schema.fields) (read : d.misread? = none) :
      Places d (some field.name) (field.location.or d.schema.location)

variable {d : Declaration}

/-! ## The stages -/

/-- A problem with the directives of the fields is one with the first text that cannot be
read. -/
theorem exists_of_fieldOptions_eq_error {schema : String} {directives : KeyedList String}
    {fields : List Field} {diagnostic : Diagnostic} : ∀ {known : KeyedList FieldOptions},
      Request.fieldOptions schema directives known fields = .error diagnostic →
        ∃ field fault, fields.find? (Field.isMisread directives) = some field ∧
          diagnostic =
            Directive.Fault.diagnose fault ⟨schema, some field.name, field.location⟩ := by
  induction fields with
  | nil =>
      intro known failed
      cases failed
  | cons field rest ih =>
      intro known failed
      rw [Request.fieldOptions] at failed
      cases text : FieldOptions.ofText (directives.get? field.name) with
      | error fault =>
          rw [text, Except.error.injEq] at failed
          exact ⟨field, fault, List.find?_cons_of_pos (Field.isMisread_of_error text), failed.symm⟩
      | ok options =>
          rw [text] at failed
          obtain ⟨other, fault, first, reported⟩ := ih failed
          refine ⟨other, fault, ?_, reported⟩
          rw [List.find?_cons_of_neg (Field.not_isMisread_of_ok text), first]

/-- Once the directives of the fields are read, there is none that cannot be. -/
theorem misread?_eq_none {schema : String} {found : KeyedList FieldOptions}
    (read : Request.fieldOptions schema d.fieldDirectives [] d.schema.fields = .ok found) :
    d.misread? = none := by
  rw [misread?, List.find?_eq_none]
  intro field declared
  exact Field.not_isMisread_of_ok (Request.ofText_of_fieldOptions read declared)

/-- Problems with the directive texts. -/
theorem places_of_ofDeclaration {diagnostic : Diagnostic}
    (failed : Request.ofDeclaration d = .error diagnostic) :
    diagnostic.schema = d.schema.name ∧ d.Places diagnostic.field diagnostic.location := by
  rw [Request.ofDeclaration, strayDirective?_eq] at failed
  cases directive : SchemaOptions.ofText d.directive with
  | error fault =>
      rw [directive, Except.error.injEq] at failed
      subst failed
      exact ⟨rfl, .schema⟩
  | ok written =>
      rw [directive] at failed
      cases stray : d.stray? with
      | some name =>
          rw [stray, Except.error.injEq] at failed
          subst failed
          exact ⟨rfl, .stray stray⟩
      | none =>
          rw [stray] at failed
          obtain ⟨field, fault, first, rfl⟩ :=
            exists_of_fieldOptions_eq_error (map_eq_error_iff.mp failed)
          exact ⟨rfl, .misread first⟩

/-- Problems with the source: they name no field. -/
theorem place_of_resolve {r : Request} {target : Schema} {diagnostic : Diagnostic}
    (failed : r.resolve target = .error diagnostic) (schema : r.schema = target.name)
    (location : r.location = target.location) :
    diagnostic.schema = target.name ∧ diagnostic.field = none ∧
      diagnostic.location = target.location := by
  rw [Request.resolve] at failed
  cases source : r.readSource with
  | error found =>
      rw [source, Except.error.injEq] at failed
      subst failed
      obtain ⟨fault, -, rfl⟩ := mapError_eq_error_iff.mp source
      exact ⟨schema, rfl, location⟩
  | ok reference =>
      rw [source] at failed
      dsimp only at failed
      cases params : reference.checkParams target.params with
      | error fault =>
          rw [params, Except.error.injEq] at failed
          subst failed
          exact ⟨rfl, rfl, rfl⟩
      | ok fits =>
          rw [params] at failed
          cases failed

/-- A source field is claimed a second time by one of the fields. -/
theorem mem_of_mappingsFrom_eq_error {r : Request} {fields : List Field} {fault : SharedSource} :
    ∀ {claimed : KeyedList String}, r.mappingsFrom claimed fields = .error fault →
      fault.field ∈ fields := by
  induction fields with
  | nil =>
      intro claimed failed
      cases failed
  | cons field rest ih =>
      intro claimed failed
      rw [Request.mappingsFrom] at failed
      split at failed
      · rw [Except.error.injEq] at failed
        subst failed
        exact List.mem_cons_self
      · exact List.mem_cons_of_mem field (ih (map_eq_error_iff.mp failed))

/-- Problems with the mappings: they stand at a declared field, or else at the schema. -/
theorem exists_of_mappings_eq_error {r : Request} {target : Schema} {diagnostic : Diagnostic}
    (failed : r.mappings target = .error diagnostic) :
    diagnostic.schema = target.name ∧
      ∃ field ∈ target.fields, diagnostic.field = some field.name ∧
        diagnostic.location = field.location.or target.location := by
  obtain ⟨fault, shared, rfl⟩ := mapError_eq_error_iff.mp failed
  exact ⟨rfl, fault.field, mem_of_mappingsFrom_eq_error shared, rfl, rfl⟩

/-! ## All of them -/

/-- **Every diagnostic names its schema, and its field and place are on the list.** -/
theorem places_of_generate {diagnostic : Diagnostic}
    (rejected : d.generate = .error (.rejected diagnostic)) :
    diagnostic.schema = d.schema.name ∧ d.Places diagnostic.field diagnostic.location := by
  rw [generate] at rejected
  cases asked : Request.ofDeclaration d with
  | error found =>
      rw [asked, Except.error.injEq, Failure.rejected.injEq] at rejected
      subst rejected
      exact places_of_ofDeclaration asked
  | ok request =>
      rw [asked] at rejected
      dsimp only at rejected
      obtain ⟨written, options, -, -, read, rfl⟩ := Request.ofDeclaration_eq_ok_iff.mp asked
      cases resolution : Request.resolve _ d.schema with
      | error found =>
          rw [resolution, Except.error.injEq, Failure.rejected.injEq] at rejected
          subst rejected
          obtain ⟨schema, field, location⟩ := place_of_resolve resolution rfl rfl
          rw [field, location]
          exact ⟨schema, .schema⟩
      | ok resolved =>
          rw [resolution] at rejected
          obtain ⟨source, -, -, rfl⟩ := Request.resolve_eq_ok_iff.mp resolution
          simp only [Conversion.ofRequest] at rejected
          split at rejected
          · next found shared =>
              rw [Except.error.injEq, Failure.rejected.injEq] at rejected
              subst rejected
              obtain ⟨schema, field, declared, named, location⟩ :=
                exists_of_mappings_eq_error shared
              rw [named, location]
              exact ⟨schema, .shared declared (misread?_eq_none read)⟩
          · cases rejected

/-- A declared field is told apart from a stray name. -/
theorem notMem_fieldNames_of_stray? {name : String} (first : d.stray? = some name) :
    name ∉ d.schema.fieldNames := by
  have found := List.find?_some first
  rwa [decide_eq_true_iff] at found

/-- **Where the diagnostics on a schema with a place stand.**  Whenever no conversion is generated,
the diagnostic names the schema.  It names no field and stands at the schema; or it names the first
field that has a directive without being declared, and stands at the schema; or it names a declared
field.  It then stands at the place of that field, or at the schema where the field has no place,
unless the directive text of the field is what cannot be read: such a diagnostic has the place of
the field, if any.  This is the one way in which a diagnostic is left without a place. -/
theorem place_of_rejected {place : Location} (located : d.schema.location = some place)
    {failure : Failure} (failed : d.generate = .error failure) :
    ∃ diagnostic, failure = .rejected diagnostic ∧
      diagnostic.schema = d.schema.name ∧
      (diagnostic.field = none ∧ diagnostic.location = some place ∨
        (∃ name, d.fieldDirectives.keys.find? (fun name => name ∉ d.schema.fieldNames) = some name ∧
          diagnostic.field = some name ∧ diagnostic.location = some place) ∨
        ∃ field ∈ d.schema.fields, diagnostic.field = some field.name ∧
          (d.misread? = none ∧ diagnostic.location = some (field.location.getD place) ∨
            d.misread? = some field ∧ diagnostic.location = field.location)) ∧
      (diagnostic.location = none ↔
        ∃ field, d.misread? = some field ∧ diagnostic.field = some field.name ∧
          field.location = none) := by
  obtain ⟨diagnostic, rfl⟩ := rejected_of_generate failed
  obtain ⟨schema, places⟩ := places_of_generate failed
  refine ⟨diagnostic, rfl, schema, ?_⟩
  generalize diagnostic.field = named at places ⊢
  generalize diagnostic.location = location at places ⊢
  cases places with
  | schema =>
      rw [located]
      exact ⟨.inl ⟨rfl, rfl⟩, nofun, nofun⟩
  | stray first =>
      rw [located]
      refine ⟨.inr (.inl ⟨_, first, rfl, rfl⟩), nofun, ?_⟩
      rintro ⟨field, misread, same, -⟩
      rw [Option.some.injEq] at same
      subst same
      exact absurd (List.mem_map_of_mem (List.mem_of_find?_eq_some misread))
        (notMem_fieldNames_of_stray? first)
  | @misread field first =>
      refine ⟨.inr (.inr ⟨field, List.mem_of_find?_eq_some first, rfl, .inr ⟨first, rfl⟩⟩), ?_, ?_⟩
      · intro unplaced
        exact ⟨field, first, rfl, unplaced⟩
      · rintro ⟨other, misread, -, unplaced⟩
        rw [first, Option.some.injEq] at misread
        rwa [misread]
  | @shared field declared read =>
      have placed : field.location.or d.schema.location = some (field.location.getD place) := by
        rw [located]
        cases field.location <;> rfl
      rw [placed]
      refine ⟨.inr (.inr ⟨field, declared, rfl, .inl ⟨read, rfl⟩⟩), nofun, ?_⟩
      rintro ⟨other, misread, -⟩
      rw [read] at misread
      cases misread

/-- A schema with a place and two fields, of which only the first has one; the second field has
the given directive. -/
def halfPlaced (directive : String) : Declaration where
  schema :=
    { name := "Foo"
      fields :=
        [{ name := "a", type := "u8"
           location := some { path := "models.rs", line := 2, column := 5 } },
          { name := "b", type := "u8" }]
      location := some { path := "models.rs", line := 1 } }
  directive := some "from_type = 'Bar'"
  fieldDirectives := [("b", directive)]

/-- A field without a place that reads the source field of another one: its diagnostic has a place,
since every directive text can be read. -/
theorem halfPlaced_shared :
    (halfPlaced "rename_from = 'a'").schema.location = some { path := "models.rs", line := 1 } ∧
      ∃ diagnostic,
        (halfPlaced "rename_from = 'a'").generate = .error (.rejected diagnostic) ∧
        diagnostic.schema = "Foo" ∧ diagnostic.field = some "b" ∧ diagnostic.location ≠ none := by
  have rejected : (halfPlaced "rename_from = 'a'").generate =
      .error (.rejected
        { kind := .conflictingFieldDirective
          message := "source field 'a' is already read by field 'a'"
          schema := "Foo", field := some "b", key := some "rename_from"
          location := some { path := "models.rs", line := 1 } }) := by decide +kernel
  have read : (halfPlaced "rename_from = 'a'").misread? = none := by decide +kernel
  obtain ⟨diagnostic, same, schema, -, unplaced⟩ := place_of_rejected rfl rejected
  rw [Failure.rejected.injEq] at same
  subst same
  refine ⟨rfl, _, rejected, schema, rfl, fun missing => ?_⟩
  obtain ⟨field, misread, -⟩ := unplaced.mp missing
  rw [read] at misread
  cases misread

/-- **A diagnostic without a place** on a schema that has one: the directive text of a field cannot
be read, and the field has no place. -/
theorem halfPlaced_misread :
    (halfPlaced "nope").schema.location = some { path := "models.rs", line := 1 } ∧
      "b" ∈ (halfPlaced "nope").schema.fieldNames ∧
      (halfPlaced "nope").generate =
        .error (.rejected
          { kind := .malformedDirective
            message := "unknown option 'nope'; expected one of: rename_from, unpack"
            schema := "Foo", field := some "b", key := some "nope", location := none }) := by
  decide +kernel

end Declaration

end Narrowing
