import Mathlib.Data.List.Nodup
import Narrowing.Conversion
import Narrowing.Proofs.Request

/-!
# Generation, exactly

`Declaration.generate` runs four stages one after another and ends at the first
problem.  This module composes them: a conversion is generated *exactly* when six
conditions hold of the declaration, and the conversion is then determined by what
its texts say.

`Declaration.Accepted` states the six conditions without any of the stages, over
what the texts were read as: the options of the schema, the source reference, and
the options of every declared field by its name.

### Where distinctness of target fields comes from

No stage compares the names of the declared fields.  Two fields of one name share
one directive text, hence one source field, and that is what the last condition
forbids.  So the *target* fields of a conversion are distinct because its *source*
fields are (`Accepted.nodup_targets`).

## Main statements

* `Declaration.generate_eq_ok_iff` — the conversion of a declaration, exactly
* `Declaration.rejected_of_generate` — every failure is a reported diagnostic
* `Declaration.generate_iff_accepted` — both, with the parts of the conversion
-/

namespace Narrowing

open Directive (FieldOptions SchemaOptions)

/-- Every kind is listed. -/
theorem Diagnostic.Kind.mem_all (kind : Diagnostic.Kind) : kind ∈ Diagnostic.Kind.all := by
  cases kind <;> decide

/-- A conversion is fallible exactly when some field is unpacked. -/
theorem Conversion.kind_eq_fallible_iff {c : Conversion} :
    c.kind = .fallible ↔ ∃ m ∈ c.fields, m.unpack = true := by
  rw [← List.any_eq_true, ← Conversion.isFallible, Conversion.kind]
  cases c.isFallible <;> simp

/-- The mapping that written options ask for: the source field is the one the field is renamed
from, else the one of its own name; the field's own choice of unpacking overrules the one made
for the schema. -/
def Field.mappingFor (field : Field) (written : SchemaOptions) (options : FieldOptions) :
    Mapping where
  target := field.name
  source := options.source.getD field.name
  unpack := options.unpack.getD written.unpack
  type := field.type
  location := field.location

namespace Declaration

/-- The mappings of the declared fields, in declaration order, given the options that belong to
each name. -/
def mappings (d : Declaration) (written : SchemaOptions) (options : String → FieldOptions) :
    List Mapping :=
  d.schema.fields.map fun field => field.mappingFor written (options field.name)

/-- **The six conditions under which a declaration has a conversion.**  Its texts can be read,
as `written`, `source` and, for the declared names, `options`; the readings fit the schema; and
no source field is read twice. -/
structure Accepted (d : Declaration) (written : SchemaOptions) (source : Reference)
    (options : String → FieldOptions) : Prop where
  /-- The directive of the schema can be read. -/
  directive : SchemaOptions.ofText d.directive = .ok written
  /-- Every field directive belongs to a declared field. -/
  declared : ∀ name ∈ d.fieldDirectives.keys, name ∈ d.schema.fieldNames
  /-- The directive of every declared field can be read. -/
  fields : ∀ field ∈ d.schema.fields,
    FieldOptions.ofText (d.fieldDirectives.get? field.name) = .ok (options field.name)
  /-- The source text spells a reference. -/
  reference : Reference.ofText written.source = .ok source
  /-- The free arguments of the reference fit the declared parameters. -/
  params : source.checkParams d.schema.params = .ok ()
  /-- The fields read pairwise distinct source fields. -/
  distinct : ((d.mappings written options).map Mapping.source).Nodup

variable {d : Declaration} {written : SchemaOptions} {source : Reference}
  {options : String → FieldOptions}

theorem map_target_mappings (d : Declaration) (written : SchemaOptions)
    (options : String → FieldOptions) :
    (d.mappings written options).map Mapping.target = d.schema.fieldNames := by
  simp [mappings, Schema.fieldNames, Field.mappingFor]

/-- **The target fields of an accepted declaration are distinct**: the source field depends on
the name alone, so a repeated name would read one source field twice. -/
theorem Accepted.nodup_targets (accepted : d.Accepted written source options) :
    d.schema.fieldNames.Nodup := by
  have byName : (d.mappings written options).map Mapping.source =
      d.schema.fieldNames.map fun name => (options name).source.getD name := by
    simp [mappings, Schema.fieldNames, Field.mappingFor]
  have h := accepted.distinct
  rw [byName] at h
  exact h.of_map _

/-- A request whose options are those that the directive texts say maps the fields as asked. -/
theorem map_mapping_eq_mappings {r : Request} (unpack : r.unpack = written.unpack)
    (read : Request.fieldOptions d.schema.name d.fieldDirectives [] d.schema.fields =
      .ok r.options)
    (parsed : ∀ field ∈ d.schema.fields,
      FieldOptions.ofText (d.fieldDirectives.get? field.name) = .ok (options field.name)) :
    d.schema.fields.map r.mapping = d.mappings written options := by
  refine List.map_congr_left fun field member => ?_
  have own := Request.ofText_of_fieldOptions read member
  have same : r.optionsFor field.name = options field.name := by
    rw [parsed field member, Except.ok.injEq] at own
    exact own.symm
  simp only [Request.mapping, Field.mappingFor, same, unpack]
  rw [FieldOptions.sourceFor_of_ofText (parsed field member), FieldOptions.unpackFor]

/-- When a resolved request becomes a conversion. -/
theorem ofRequest_eq_ok_iff {r : Request} {target : Schema} {c : Conversion} :
    Conversion.ofRequest r target = .ok c ↔
      ∃ fields source, r.mappings target = .ok fields ∧ r.reference = some source ∧
        c = ⟨target, source, fields⟩ := by
  rw [Conversion.ofRequest]
  cases r.mappings target with
  | error diagnostic => simp
  | ok fields =>
      cases r.reference with
      | none => simp
      | some source => simp [eq_comm]

/-- One unrolling of `generate`: its stages succeed one after another. -/
theorem generate_eq_ok_iff_stages {c : Conversion} :
    d.generate = .ok c ↔
      ∃ request resolved, Request.ofDeclaration d = .ok request ∧
        request.resolve d.schema = .ok resolved ∧
        Conversion.ofRequest resolved d.schema = .ok c := by
  rw [generate]
  cases Request.ofDeclaration d with
  | error diagnostic => simp
  | ok request =>
      cases resolution : request.resolve d.schema with
      | error diagnostic => simp [resolution]
      | ok resolved => simp [resolution]

/-- **The conversion of a declaration**: it exists exactly when the declaration is accepted, and
it consists of the schema, the reference that was read and the mappings asked for. -/
theorem generate_eq_ok_iff {c : Conversion} :
    d.generate = .ok c ↔
      ∃ written source options, d.Accepted written source options ∧
        c = ⟨d.schema, source, d.mappings written options⟩ := by
  rw [generate_eq_ok_iff_stages]
  constructor
  · rintro ⟨request, resolved, asked, resolution, built⟩
    obtain ⟨written, known, directive, declared, read, rfl⟩ :=
      Request.ofDeclaration_eq_ok_iff.mp asked
    obtain ⟨source, reference, params, resolvedAs⟩ := Request.resolve_eq_ok_iff.mp resolution
    obtain ⟨fields, source', mapped, found, rfl⟩ := ofRequest_eq_ok_iff.mp built
    obtain ⟨rfl, distinct⟩ := Request.mappings_eq_ok_iff.mp mapped
    obtain rfl : source = source' := by simpa [resolvedAs] using found
    have parsed := fun field (member : field ∈ d.schema.fields) =>
      Request.ofText_of_fieldOptions read member
    have same : d.schema.fields.map resolved.mapping =
        d.mappings written fun name => (known.get? name).getD {} :=
      map_mapping_eq_mappings (by rw [resolvedAs]) (by rw [resolvedAs]; exact read) parsed
    rw [same] at distinct ⊢
    exact ⟨written, source, _, ⟨directive, declared, parsed, reference, params, distinct⟩, rfl⟩
  · rintro ⟨written, source, options, accepted, rfl⟩
    obtain ⟨known, read⟩ := (Request.exists_fieldOptions_iff d.schema.name []).mpr
      fun field member => ⟨_, accepted.fields field member⟩
    have asked := Request.ofDeclaration_eq_ok_iff.mpr
      ⟨written, known, accepted.directive, accepted.declared, read, rfl⟩
    refine ⟨_, _, asked,
      Request.resolve_eq_ok_iff.mpr ⟨source, accepted.reference, accepted.params, rfl⟩,
      ofRequest_eq_ok_iff.mpr
        ⟨_, source, Request.mappings_eq_ok_iff.mpr ⟨?_, ?_⟩, rfl, rfl⟩⟩
    · exact (map_mapping_eq_mappings rfl read accepted.fields).symm
    · rw [map_mapping_eq_mappings rfl read accepted.fields]
      exact accepted.distinct

/-- **Every failure is a reported diagnostic**: the request that reaches the last stage has its
source reference, so the stage never finds it missing. -/
theorem rejected_of_generate {failure : Failure} (h : d.generate = .error failure) :
    ∃ diagnostic, failure = .rejected diagnostic := by
  rw [generate] at h
  cases asked : Request.ofDeclaration d with
  | error diagnostic =>
      rw [asked, Except.error.injEq] at h
      exact ⟨diagnostic, h.symm⟩
  | ok request =>
      rw [asked] at h
      dsimp only at h
      cases resolution : request.resolve d.schema with
      | error diagnostic =>
          rw [resolution, Except.error.injEq] at h
          exact ⟨diagnostic, h.symm⟩
      | ok resolved =>
          rw [resolution] at h
          obtain ⟨source, -, -, rfl⟩ := Request.resolve_eq_ok_iff.mp resolution
          simp only [Conversion.ofRequest] at h
          split at h
          · next diagnostic _ => exact ⟨diagnostic, (Except.error.inj h).symm⟩
          · cases h

/-- **Generation decides acceptance, and the conversion says what the declaration asked for.**
A conversion is generated exactly when the declaration is accepted; otherwise a diagnostic of
one of the five kinds is reported, never a missing source reference.  A generated conversion
has one mapping a declared field, in declaration order, with the type and the place of the
field; its checks are the unpacked fields and it is fallible when there are any; and neither
its target fields nor its source fields repeat. -/
theorem generate_iff_accepted (d : Declaration) :
    ((∃ c, d.generate = .ok c) ↔
      ∃ written source options, d.Accepted written source options) ∧
    (∀ failure, d.generate = .error failure →
      ∃ diagnostic, failure = .rejected diagnostic ∧
        diagnostic.kind ∈ Diagnostic.Kind.all) ∧
    ∀ c, d.generate = .ok c →
      ∃ written source options, d.Accepted written source options ∧
        c.target = d.schema ∧ c.source = source ∧
        c.fields = d.schema.fields.map (fun field =>
          { target := field.name
            source := (options field.name).source.getD field.name
            unpack := (options field.name).unpack.getD written.unpack
            type := field.type, location := field.location }) ∧
        c.unpackChecks = c.fields.filter Mapping.unpack ∧
        (c.kind = .fallible ↔ ∃ m ∈ c.fields, m.unpack = true) ∧
        (c.fields.map Mapping.target).Nodup ∧ (c.fields.map Mapping.source).Nodup := by
  refine ⟨?_, ?_, ?_⟩
  · constructor
    · rintro ⟨c, h⟩
      obtain ⟨written, source, options, accepted, -⟩ := generate_eq_ok_iff.mp h
      exact ⟨written, source, options, accepted⟩
    · rintro ⟨written, source, options, accepted⟩
      exact ⟨_, generate_eq_ok_iff.mpr ⟨written, source, options, accepted, rfl⟩⟩
  · intro failure h
    obtain ⟨diagnostic, rejected⟩ := rejected_of_generate h
    exact ⟨diagnostic, rejected, diagnostic.kind.mem_all⟩
  · intro c h
    obtain ⟨written, source, options, accepted, rfl⟩ := generate_eq_ok_iff.mp h
    refine ⟨written, source, options, accepted, rfl, rfl, rfl, rfl,
      Conversion.kind_eq_fallible_iff, ?_, accepted.distinct⟩
    rw [map_target_mappings]
    exact accepted.nodup_targets

/-- Two fields, each of which is renamed from the name of the other; one of them overrules the
unpacking asked for by the schema. -/
def swapped : Declaration where
  schema := { name := "Foo", params := ["T"]
              fields := [{ name := "a", type := "T" }, { name := "b", type := "int" }] }
  directive := some "from_type = 'lib.Bar[#T, list[int]]', unpack"
  fieldDirectives := [("a", "rename_from = 'b'"), ("b", "rename_from = 'a', unpack = false")]

/-- The conversion of `swapped`. -/
def swappedConversion : Conversion where
  target := swapped.schema
  source := ⟨"lib.Bar", [.free "T", .bound "list[int]"]⟩
  fields := [⟨"a", "b", true, "T", none⟩, ⟨"b", "a", false, "int", none⟩]

theorem generate_swapped : swapped.generate = .ok swappedConversion := by decide +kernel

theorem swapped_accepted :
    (∃ c, swapped.generate = .ok c) ∧
      ∃ written source options, swapped.Accepted written source options ∧
        swappedConversion.source = source ∧ swappedConversion.kind = .fallible := by
  obtain ⟨written, source, options, accepted, -, spelled, -, -, kind, -⟩ :=
    (generate_iff_accepted swapped).2.2 swappedConversion generate_swapped
  exact ⟨⟨_, generate_swapped⟩, written, source, options, accepted, spelled,
    kind.mpr ⟨_, List.mem_cons_self, rfl⟩⟩

end Declaration

end Narrowing
