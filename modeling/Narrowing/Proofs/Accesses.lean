import Narrowing.Proofs.Agreement
import Narrowing.Proofs.Generation
import Narrowing.Proofs.Text

/-!
# The source fields that an impl takes

A field can be moved out of a source once.  This module lists the accesses in the body
of an impl and says when two of them take one field.

Every mapping is accessed exactly once, in a check or in an initialiser
(`accesses_ofConversion`), and the sources of a generated conversion are distinct.  But
they are compared as they are written, and a field has two spellings: its plain name and
the raw identifier of that name, which are one field (`plainName`).  The fields of the
target are told apart under both spellings, and a field that is renamed names its source
by a plain identifier.  So one case is left in which two accesses take one field: a raw
field that reads the source field of its own name, beside one that is renamed from the
plain spelling of that name (`Aliased`).

## Main statements

* `accesses_ofConversion` — the accesses of an impl, in the order of its text
* `nodup_plainName_source_iff` — when mappings take different fields
* `accesses_of_generate` — the accesses of a generated impl, and the report of a source
  field that two target fields name in one spelling
-/

namespace Narrowing.Code

/-! ## Raw identifiers -/

/-- A name whose plain name is `x` is spelled plainly or as a raw identifier. -/
theorem eq_or_eq_raw_of_plainName_eq {name x : String} (plain : plainName name = x) :
    name = x ∨ name = "r#" ++ x := by
  rw [plainName] at plain
  split at plain
  · next rest raw =>
      refine .inr ?_
      rw [← plain, ← String.toList_inj, raw]
      simp only [String.toList_append, String.toList_ofList]
      rfl
  · exact .inl plain

theorem plainName_raw (x : String) : plainName ("r#" ++ x) = x := by
  have raw : ("r#" ++ x).toList = 'r' :: '#' :: x.toList := by
    rw [String.toList_append]
    rfl
  simp only [plainName, raw, String.ofList_toList]

/-- An identifier is spelled plainly. -/
theorem plainName_of_isIdentifier {name : String} (identifier : Text.isIdentifier name.toList = true) :
    plainName name = name := by
  rw [plainName]
  split
  · next rest raw =>
      rw [raw] at identifier
      have marker := Text.isNameChar_of_isIdentifier identifier '#' (by simp)
      exact absurd marker (by decide)
  · rfl

/-! ## Accesses -/

namespace Impl

/-- The source field that an initialiser takes, if it takes one. -/
def Initialiser.sourceField? : Initialiser → Option String
  | .sourceField name => some name
  | .binding _ => none

/-- The source fields that the body of an impl accesses, in the order of its text: those of the
checks and those that initialisers take directly. -/
def accesses (i : Impl) : List String :=
  i.checks.map Check.source ++ i.fields.filterMap fun f => Initialiser.sourceField? f.2

/-- **Every mapping is accessed once**: the unpacked ones in the checks, the others in the
initialisers. -/
theorem accesses_ofConversion (c : Conversion) :
    (ofConversion c).accesses = (readOrder c.fields).map Mapping.source := by
  obtain ⟨checks, inits⟩ := ofConversion_eq_checks c
  have direct : ∀ ms : List Mapping,
      (ms.map initialiserOf).filterMap (fun f => Initialiser.sourceField? f.2) =
        (ms.filter fun m => !m.unpack).map Mapping.source := by
    intro ms
    induction ms with
    | nil => rfl
    | cons m ms ih =>
        cases unpack : m.unpack with
        | true =>
            rw [List.map_cons, initialiserOf_of_unpack unpack, List.filterMap_cons, ih,
              List.filter_cons_of_neg (by simp [unpack])]
            rfl
        | false =>
            rw [List.map_cons, initialiserOf_of_plain unpack, List.filterMap_cons, ih,
              List.filter_cons_of_pos (by simp [unpack])]
            rfl
  rw [accesses, checks, inits, direct, List.map_map, readOrder, List.map_append]
  rfl

end Impl

/-! ## One field in two spellings -/

/-- **The second mapping takes the field of the first in another spelling**: the first reads the
field of its own raw name, and the second is renamed from the plain spelling of that name. -/
def Aliased (raw renamed : Mapping) : Prop :=
  raw.source = raw.target ∧ raw.target = "r#" ++ renamed.source ∧ renamed.isRenamed = true

/-- A mapping reads the field of its own name, or one that is spelled plainly. -/
def OwnOrPlain (m : Mapping) : Prop :=
  m.source = m.target ∨ Text.isIdentifier m.source.toList = true

/-- A mapping that does not read the field of its own name names its source plainly. -/
theorem OwnOrPlain.plainName_source {m : Mapping} (plain : OwnOrPlain m)
    (renamed : m.source ≠ m.target) : plainName m.source = m.source :=
  plainName_of_isIdentifier (plain.resolve_left renamed)

/-- One half of `aliased_of_plainName_eq`: the first mapping reads the field of its own name, the
second does not. -/
theorem aliased_of_own {m n : Mapping} (own : m.source = m.target) (second : OwnOrPlain n)
    (renamed : n.source ≠ n.target) (spellings : m.source ≠ n.source)
    (same : plainName m.source = plainName n.source) : Aliased m n := by
  rw [second.plainName_source renamed] at same
  have raw := (eq_or_eq_raw_of_plainName_eq same).resolve_left spellings
  exact ⟨own, own ▸ raw, bne_iff_ne.mpr renamed⟩

/-- Two mappings that take one field in different spellings are aliased, one way or the other. -/
theorem aliased_of_plainName_eq {m n : Mapping} (first : OwnOrPlain m) (second : OwnOrPlain n)
    (targets : plainName m.target ≠ plainName n.target) (spellings : m.source ≠ n.source)
    (same : plainName m.source = plainName n.source) : Aliased m n ∨ Aliased n m := by
  by_cases own : m.source = m.target
  · by_cases own' : n.source = n.target
    · rw [own, own'] at same
      exact absurd same targets
    · exact .inl (aliased_of_own own second own' spellings same)
  · by_cases own' : n.source = n.target
    · exact .inr (aliased_of_own own' first own (Ne.symm spellings) same.symm)
    · rw [first.plainName_source own, second.plainName_source own'] at same
      exact absurd same spellings

/-- **When mappings take different fields**: mappings of different targets with different source
texts do, unless two of them are aliased. -/
theorem nodup_plainName_source_iff {ms : List Mapping}
    (targets : (ms.map fun m => plainName m.target).Nodup)
    (sources : (ms.map Mapping.source).Nodup) (plain : ∀ m ∈ ms, OwnOrPlain m) :
    (ms.map fun m => plainName m.source).Nodup ↔ ∀ m ∈ ms, ∀ n ∈ ms, ¬ Aliased m n := by
  rw [List.nodup_map_iff_inj_on sources.of_map]
  constructor
  · rintro distinct m member n member' ⟨own, raw, renamed⟩
    have other := bne_iff_ne.mp renamed
    have same : plainName m.source = plainName n.source := by
      rw [own, raw, plainName_raw, (plain n member').plainName_source other]
    obtain rfl := distinct m member n member' same
    exact other own
  · intro apart m member n member' same
    by_contra different
    have targetsDiffer : plainName m.target ≠ plainName n.target := fun equal =>
      different (List.inj_on_of_nodup_map targets member member' equal)
    have sourcesDiffer : m.source ≠ n.source := fun equal =>
      different (List.inj_on_of_nodup_map sources member member' equal)
    rcases aliased_of_plainName_eq (plain m member) (plain n member') targetsDiffer sourcesDiffer
      same with aliased | aliased
    · exact apart m member n member' aliased
    · exact apart n member' m member aliased

/-! ## Generated impls -/

open Directive (FieldOptions SchemaOptions)

/-- A field that is renamed names its source by an identifier. -/
theorem ownOrPlain_of_accepted {d : Declaration} {written : SchemaOptions} {source : Reference}
    {options : String → FieldOptions} (accepted : d.Accepted written source options) :
    ∀ m ∈ d.mappings written options, OwnOrPlain m := by
  intro m member
  obtain ⟨field, declared, rfl⟩ := List.mem_map.mp member
  cases named : (options field.name).source with
  | none => exact .inl (by simp [Field.mappingFor, named])
  | some name =>
      have identifier := FieldOptions.isIdentifier_of_ofText (accepted.fields field declared) named
      exact .inr (by simpa [Field.mappingFor, named] using identifier)

/-- A problem with the mappings is a source field that two target fields would read. -/
theorem kind_of_mappings_eq_error {r : Request} {target : Schema} {diagnostic : Diagnostic}
    (failed : r.mappings target = .error diagnostic) :
    diagnostic.kind = .conflictingFieldDirective := by
  rw [Request.mappings] at failed
  cases found : r.mappingsFrom [] target.fields with
  | ok ms =>
      rw [found] at failed
      cases failed
  | error fault =>
      rw [found] at failed
      cases failed
      rfl

/-- **A source field that two target fields name in one spelling is reported**, once everything
else about the declaration is in order. -/
theorem conflict_of_shared {d : Declaration} {written : SchemaOptions} {source : Reference}
    {options : String → FieldOptions} (directive : SchemaOptions.ofText d.directive = .ok written)
    (declared : ∀ name ∈ d.fieldDirectives.keys, name ∈ d.schema.fieldNames)
    (fields : ∀ field ∈ d.schema.fields,
      FieldOptions.ofText (d.fieldDirectives.get? field.name) = .ok (options field.name))
    (reference : Reference.ofText written.source = .ok source)
    (params : source.checkParams d.schema.params = .ok ())
    (shared : ¬ ((d.mappings written options).map Mapping.source).Nodup) :
    ∃ diagnostic, d.generate = .error (.rejected diagnostic) ∧
      diagnostic.kind = .conflictingFieldDirective := by
  obtain ⟨known, read⟩ := (Request.exists_fieldOptions_iff d.schema.name []).mpr
    fun field member => ⟨_, fields field member⟩
  let request : Request :=
    { schema := d.schema.name, source := written.source, unpack := written.unpack
      options := known, location := d.schema.location }
  have asked : Request.ofDeclaration d = .ok request :=
    Request.ofDeclaration_eq_ok_iff.mpr ⟨written, known, directive, declared, read, rfl⟩
  have resolved : request.resolve d.schema = .ok { request with reference := some source } :=
    Request.resolve_eq_ok_iff.mpr ⟨source, reference, params, rfl⟩
  simp only [Declaration.generate, asked, resolved, Conversion.ofRequest]
  cases mapped : Request.mappings { request with reference := some source } d.schema with
  | error diagnostic => exact ⟨diagnostic, rfl, kind_of_mappings_eq_error mapped⟩
  | ok ms =>
      obtain ⟨-, distinct⟩ := Request.mappings_eq_ok_iff.mp mapped
      rw [Declaration.map_mapping_eq_mappings rfl read fields] at distinct
      exact absurd distinct shared

/-- **What a generated impl takes from its source.**  Its accesses are the sources of the
mappings, each once and no two in one spelling; where the fields of the target are told apart
under both spellings of an identifier, two accesses take one field exactly when two mappings are
aliased.  Two target fields that name their source field in one spelling are reported. -/
theorem accesses_of_generate (d : Declaration) :
    (∀ c, d.generate = .ok c → (d.schema.fieldNames.map plainName).Nodup →
      (Impl.ofConversion c).accesses = (readOrder c.fields).map Mapping.source ∧
      (Impl.ofConversion c).accesses.Nodup ∧
      (((Impl.ofConversion c).accesses.map plainName).Nodup ↔
        ∀ m ∈ c.fields, ∀ n ∈ c.fields, ¬ Aliased m n)) ∧
    ∀ written source options, SchemaOptions.ofText d.directive = .ok written →
      (∀ name ∈ d.fieldDirectives.keys, name ∈ d.schema.fieldNames) →
      (∀ field ∈ d.schema.fields,
        FieldOptions.ofText (d.fieldDirectives.get? field.name) = .ok (options field.name)) →
      Reference.ofText written.source = .ok source →
      source.checkParams d.schema.params = .ok () →
      ¬ ((d.mappings written options).map Mapping.source).Nodup →
      ∃ diagnostic, d.generate = .error (.rejected diagnostic) ∧
        diagnostic.kind = .conflictingFieldDirective := by
  constructor
  · intro c generated names
    obtain ⟨written, source, options, accepted, rfl⟩ := Declaration.generate_eq_ok_iff.mp generated
    have order := readOrder_perm (d.mappings written options)
    have targets : ((d.mappings written options).map fun m => plainName m.target).Nodup := by
      rw [← Declaration.map_target_mappings d written options, List.map_map] at names
      exact names
    rw [Impl.accesses_ofConversion]
    refine ⟨rfl, (order.map _).nodup_iff.mpr accepted.distinct, ?_⟩
    rw [List.map_map, (order.map _).nodup_iff]
    exact nodup_plainName_source_iff targets accepted.distinct (ownOrPlain_of_accepted accepted)
  · intro written source options directive declared fields reference params shared
    exact conflict_of_shared directive declared fields reference params shared

/-- Three fields of a target: a raw one that is unpacked from a renamed source field, a raw one
that reads the field of its own name, and one with the given directive. -/
def rawFields (directive : String) : Declaration where
  schema :=
    { name := "Foo"
      fields :=
        [{ name := "r#type", type := "u8" }, { name := "r#a", type := "String" },
          { name := "b", type := "String" }] }
  directive := some "from_type = 'Bar'"
  fieldDirectives := [("r#type", "rename_from = 'kind', unpack"), ("b", directive)]

/-- The conversion of such a declaration whose last field reads the given source field. -/
def rawFieldsConversion (directive source : String) : Conversion :=
  ⟨(rawFields directive).schema, ⟨"Bar", []⟩,
    [⟨"r#type", "kind", true, "u8", none⟩, ⟨"r#a", "r#a", false, "String", none⟩,
      ⟨"b", source, false, "String", none⟩]⟩

/-- Every field takes a source field of its own, and a source field that is named twice in one
spelling is reported. -/
theorem accesses_of_rawFields :
    ((rawFields "rename_from = 'c'").schema.fieldNames.map plainName).Nodup ∧
      (Impl.ofConversion (rawFieldsConversion "rename_from = 'c'" "c")).accesses =
        ["kind", "r#a", "c"] ∧
      (∀ m ∈ (rawFieldsConversion "rename_from = 'c'" "c").fields,
        ∀ n ∈ (rawFieldsConversion "rename_from = 'c'" "c").fields, ¬ Aliased m n) ∧
      ∃ diagnostic, (rawFields "rename_from = 'kind'").generate = .error (.rejected diagnostic) ∧
        diagnostic.kind = .conflictingFieldDirective := by
  have names : ((rawFields "rename_from = 'c'").schema.fieldNames.map plainName).Nodup := by
    decide
  have generated : (rawFields "rename_from = 'c'").generate =
      .ok (rawFieldsConversion "rename_from = 'c'" "c") := by decide +kernel
  obtain ⟨accesses, -, apart⟩ :=
    (accesses_of_generate (rawFields "rename_from = 'c'")).1 _ generated names
  refine ⟨names, ?_, apart.mp ?_, ?_⟩
  · rw [accesses]
    rfl
  · rw [accesses]
    decide
  · refine (accesses_of_generate (rawFields "rename_from = 'kind'")).2 ⟨"Bar", false⟩ ⟨"Bar", []⟩
      (fun name => if name = "r#type" then ⟨some "kind", some true⟩
        else if name = "b" then ⟨some "kind", none⟩ else {}) ?_ ?_ ?_ ?_ ?_ ?_
    all_goals decide +kernel

/-- **An impl that takes one field twice**, once in each spelling: one target field reads the
field of its own raw name, and another one is renamed from the plain spelling of it. -/
theorem accesses_of_aliased :
    ((rawFields "rename_from = 'a'").schema.fieldNames.map plainName).Nodup ∧
      (rawFields "rename_from = 'a'").generate =
        .ok (rawFieldsConversion "rename_from = 'a'" "a") ∧
      (Impl.ofConversion (rawFieldsConversion "rename_from = 'a'" "a")).accesses =
        ["kind", "r#a", "a"] ∧
      plainName "r#a" = plainName "a" := by
  decide +kernel

end Narrowing.Code
