import Narrowing.Mapping
import Narrowing.Proofs.Results

/-!
# Stages of a request

A declaration becomes a conversion in three stages: its directive texts make a
request, the request is resolved against the target, and its fields are mapped.
For every stage this module says exactly when it succeeds and with what, so that
later results are assembled without opening a stage again.

The options of the fields are kept by *name*.  Fields of one name therefore
share one directive text and one set of options, and `Faithful` is the invariant
that carries this through the list of fields: whatever is known of a name is what
its own directive text says.

## Main statements

* `FieldOptions.sourceFor_of_ofText` — options that were read name their source
  field by an identifier, so it is never the empty text
* `Request.ofDeclaration_eq_ok_iff` — when the directive texts make a request
* `Request.resolve_eq_ok_iff` — when its source is read and fits the target
* `Request.mappings_eq_ok_iff` — when its fields are mapped
-/

namespace Narrowing

/-! ## The options of a field -/

namespace Directive.FieldOptions

/-- The source field that written options name is an identifier. -/
theorem isIdentifier_of_source? {options : Options} {name : String}
    (h : source? options = .ok (some name)) : Text.isIdentifier name.toList = true := by
  unfold source? at h
  split at h
  · cases h
  · split at h
    · cases h
    · dsimp only at h
      split at h
      · next identifier =>
          cases h
          exact identifier
      · cases h

/-- The same for options that were read from a directive text. -/
theorem isIdentifier_of_ofText {text : Option String} {options : FieldOptions} {name : String}
    (h : ofText text = .ok options) (named : options.source = some name) :
    Text.isIdentifier name.toList = true := by
  unfold ofText at h
  split at h
  · cases h
    cases named
  · split at h
    · cases h
    · next written _ =>
        unfold ofOptions at h
        cases found : source? written with
        | error fault => simp [found] at h
        | ok source =>
            rw [found] at h
            cases flag : written.bool? "unpack" with
            | error fault => simp [flag, Except.map] at h
            | ok unpack =>
                simp only [flag, Except.map, Except.ok.injEq] at h
                subst h
                subst named
                exact isIdentifier_of_source? found

/-- An empty source field counts as absent, but no directive text gives one: the source field
is the one written, or the field's own name. -/
theorem sourceFor_of_ofText {text : Option String} {options : FieldOptions}
    (h : ofText text = .ok options) (name : String) :
    options.sourceFor name = options.source.getD name := by
  cases named : options.source with
  | none => simp [sourceFor, named]
  | some source =>
      have identifier := isIdentifier_of_ofText h named
      have nonempty : source ≠ "" := by
        rintro rfl
        simp [Text.isIdentifier] at identifier
      simp [sourceFor, named, nonempty]

end Directive.FieldOptions

/-! ## Stray directives -/

/-- A schema has a field of that name exactly when the name is declared. -/
theorem Schema.field?_eq_none_iff {schema : Schema} {name : String} :
    schema.field? name = none ↔ name ∉ schema.fieldNames := by
  simp [Schema.field?, Schema.fieldNames]

namespace Request

open Directive (FieldOptions SchemaOptions)

/-- No directive is stray exactly when every directive belongs to a declared field. -/
theorem strayDirective?_eq_none_iff {d : Declaration} :
    strayDirective? d = none ↔
      ∀ name ∈ d.fieldDirectives.keys, name ∈ d.schema.fieldNames := by
  rw [strayDirective?, List.find?_eq_none]
  refine forall₂_congr fun name _ => ?_
  rw [Option.isNone_iff_eq_none, Schema.field?_eq_none_iff, Classical.not_not]

/-! ## The options of all fields -/

/-- Whatever is known of a name is what its directive text says. -/
def Faithful (directives : KeyedList String) (known : KeyedList FieldOptions) : Prop :=
  ∀ name options, known.get? name = some options →
    FieldOptions.ofText (directives.get? name) = .ok options

theorem faithful_nil (directives : KeyedList String) : Faithful directives [] := by
  intro name options h
  simp at h

/-- Recording what the directive text of a name says keeps the record faithful. -/
theorem Faithful.put {directives : KeyedList String} {known : KeyedList FieldOptions}
    (faithful : Faithful directives known) {name : String} {options : FieldOptions}
    (read : FieldOptions.ofText (directives.get? name) = .ok options) :
    Faithful directives (known.put name options) := by
  intro other found h
  rw [KeyedList.get?_put] at h
  by_cases same : name = other
  · subst same
    rw [if_pos rfl, Option.some.injEq] at h
    rw [← h]
    exact read
  · rw [if_neg same] at h
    exact faithful other found h

/-- One unrolling of `fieldOptions`. -/
theorem fieldOptions_cons_eq_ok_iff {schema : String} {directives : KeyedList String}
    {known found : KeyedList FieldOptions} {field : Field} {rest : List Field} :
    fieldOptions schema directives known (field :: rest) = .ok found ↔
      ∃ options, FieldOptions.ofText (directives.get? field.name) = .ok options ∧
        fieldOptions schema directives (known.put field.name options) rest = .ok found := by
  rw [fieldOptions]
  cases FieldOptions.ofText (directives.get? field.name) with
  | error fault => simp
  | ok options => simp

/-- Reading the directives of the fields keeps the record faithful. -/
theorem faithful_fieldOptions {schema : String} {directives : KeyedList String}
    {fields : List Field} : ∀ {known found : KeyedList FieldOptions},
      Faithful directives known → fieldOptions schema directives known fields = .ok found →
        Faithful directives found := by
  induction fields with
  | nil =>
      intro known found faithful h
      cases h
      exact faithful
  | cons field rest ih =>
      intro known found faithful h
      obtain ⟨options, read, h⟩ := fieldOptions_cons_eq_ok_iff.mp h
      exact ih (faithful.put read) h

/-- The names on record afterwards are those known before and those of the fields. -/
theorem isSome_get?_fieldOptions {schema : String} {directives : KeyedList String}
    {fields : List Field} (name : String) : ∀ {known found : KeyedList FieldOptions},
      fieldOptions schema directives known fields = .ok found →
        ((found.get? name).isSome ↔
          (known.get? name).isSome ∨ name ∈ fields.map Field.name) := by
  induction fields with
  | nil =>
      intro known found h
      cases h
      simp
  | cons field rest ih =>
      intro known found h
      obtain ⟨options, -, h⟩ := fieldOptions_cons_eq_ok_iff.mp h
      rw [ih h, KeyedList.get?_put]
      by_cases same : field.name = name
      · simp [same]
      · simp [same, Ne.symm same]

/-- The directives of the fields are read exactly when each of them can be read. -/
theorem exists_fieldOptions_iff (schema : String) {directives : KeyedList String}
    {fields : List Field} : ∀ (known : KeyedList FieldOptions),
      (∃ found, fieldOptions schema directives known fields = .ok found) ↔
        ∀ field ∈ fields, ∃ options,
          FieldOptions.ofText (directives.get? field.name) = .ok options := by
  induction fields with
  | nil =>
      intro known
      simp [fieldOptions]
  | cons field rest ih =>
      intro known
      simp only [fieldOptions_cons_eq_ok_iff, List.forall_mem_cons]
      constructor
      · rintro ⟨found, options, read, h⟩
        exact ⟨⟨options, read⟩, (ih _).mp ⟨found, h⟩⟩
      · rintro ⟨⟨options, read⟩, others⟩
        obtain ⟨found, h⟩ := (ih _).mpr others
        exact ⟨found, options, read, h⟩

/-- Every declared field has the options that its own directive text says. -/
theorem ofText_of_fieldOptions {schema : String} {directives : KeyedList String}
    {fields : List Field} {found : KeyedList FieldOptions}
    (h : fieldOptions schema directives [] fields = .ok found) {field : Field}
    (member : field ∈ fields) :
    FieldOptions.ofText (directives.get? field.name) =
      .ok ((found.get? field.name).getD {}) := by
  have recorded : (found.get? field.name).isSome :=
    (isSome_get?_fieldOptions field.name h).mpr (Or.inr (List.mem_map_of_mem member))
  obtain ⟨options, known⟩ := Option.isSome_iff_exists.mp recorded
  rw [known, Option.getD_some]
  exact faithful_fieldOptions (faithful_nil directives) h _ _ known

/-! ## The stages -/

/-- **When the directive texts make a request**: the directive of the schema can be read, no
field directive is stray, and the directive of every declared field can be read. -/
theorem ofDeclaration_eq_ok_iff {d : Declaration} {r : Request} :
    ofDeclaration d = .ok r ↔
      ∃ written options,
        SchemaOptions.ofText d.directive = .ok written ∧
        (∀ name ∈ d.fieldDirectives.keys, name ∈ d.schema.fieldNames) ∧
        fieldOptions d.schema.name d.fieldDirectives [] d.schema.fields = .ok options ∧
        r = { schema := d.schema.name, source := written.source, unpack := written.unpack
              options, location := d.schema.location } := by
  rw [ofDeclaration, ← strayDirective?_eq_none_iff]
  cases SchemaOptions.ofText d.directive with
  | error fault => simp
  | ok written =>
      cases strayDirective? d with
      | some field => simp
      | none =>
          cases fieldOptions d.schema.name d.fieldDirectives [] d.schema.fields with
          | error diagnostic => simp [Except.map]
          | ok options => simp [Except.map, eq_comm]

theorem readSource_eq_ok_iff {r : Request} {reference : Reference} :
    r.readSource = .ok reference ↔ Reference.ofText r.source = .ok reference := by
  rw [readSource, mapError_eq_ok_iff]

/-- **When a request is resolved**: its source text spells a reference whose free arguments are
the declared parameters of the target. -/
theorem resolve_eq_ok_iff {r resolved : Request} {target : Schema} :
    r.resolve target = .ok resolved ↔
      ∃ reference, Reference.ofText r.source = .ok reference ∧
        reference.checkParams target.params = .ok () ∧
        resolved = { r with reference := some reference } := by
  rw [resolve]
  cases source : r.readSource with
  | error diagnostic => simp [← readSource_eq_ok_iff, source]
  | ok reference =>
      simp only [← readSource_eq_ok_iff, source, Except.ok.injEq, exists_eq_left']
      cases reference.checkParams target.params with
      | error fault => simp
      | ok fits => simp [eq_comm]

/-- One unrolling of `mappingsFrom`. -/
theorem mappingsFrom_cons_eq_ok_iff {r : Request} {claimed : KeyedList String} {field : Field}
    {rest : List Field} {ms : List Mapping} :
    r.mappingsFrom claimed (field :: rest) = .ok ms ↔
      claimed.get? (r.mapping field).source = none ∧
        ∃ others, ms = r.mapping field :: others ∧
          r.mappingsFrom (claimed.put (r.mapping field).source field.name) rest =
            .ok others := by
  rw [mappingsFrom]
  cases claimed.get? (r.mapping field).source with
  | some reader => simp
  | none =>
      cases r.mappingsFrom (claimed.put (r.mapping field).source field.name) rest with
      | error fault => simp [Except.map]
      | ok others => simp [Except.map, eq_comm]

/-- Fields are mapped exactly when no source field is claimed before or read twice. -/
theorem mappingsFrom_eq_ok_iff {r : Request} {fields : List Field} :
    ∀ {claimed : KeyedList String} {ms : List Mapping},
      r.mappingsFrom claimed fields = .ok ms ↔
        ms = fields.map r.mapping ∧
          ((fields.map r.mapping).map Mapping.source).Nodup ∧
          ∀ m ∈ fields.map r.mapping, claimed.get? m.source = none := by
  induction fields with
  | nil =>
      intro claimed ms
      simp [mappingsFrom, eq_comm]
  | cons field rest ih =>
      intro claimed ms
      rw [mappingsFrom_cons_eq_ok_iff]
      simp only [ih, List.map_cons, List.nodup_cons, List.forall_mem_cons, KeyedList.get?_put]
      constructor
      · rintro ⟨free, others, rfl, rfl, distinct, unclaimed⟩
        have fresh : ∀ m ∈ rest.map r.mapping,
            (r.mapping field).source ≠ m.source ∧ claimed.get? m.source = none := by
          intro m member
          have h := unclaimed m member
          split at h
          · cases h
          · next different => exact ⟨different, h⟩
        refine ⟨rfl, ⟨?_, distinct⟩, free, fun m member => (fresh m member).2⟩
        intro repeated
        obtain ⟨m, member, same⟩ := List.mem_map.mp repeated
        exact (fresh m member).1 same.symm
      · rintro ⟨rfl, ⟨fresh, distinct⟩, free, unclaimed⟩
        refine ⟨free, _, rfl, rfl, distinct, ?_⟩
        intro m member
        have different : (r.mapping field).source ≠ m.source := by
          intro same
          rw [same] at fresh
          exact fresh (List.mem_map_of_mem member)
        rw [if_neg different]
        exact unclaimed m member

/-- **When the fields of a request are mapped**: no two of them read one source field. The
mappings are then those of the declared fields, in declaration order. -/
theorem mappings_eq_ok_iff {r : Request} {target : Schema} {ms : List Mapping} :
    r.mappings target = .ok ms ↔
      ms = target.fields.map r.mapping ∧
        ((target.fields.map r.mapping).map Mapping.source).Nodup := by
  rw [mappings, mapError_eq_ok_iff, mappingsFrom_eq_ok_iff]
  simp only [KeyedList.get?_nil, implies_true, and_true]

end Request

end Narrowing
