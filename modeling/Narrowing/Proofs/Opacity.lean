import Mathlib.Data.List.Forall2
import Narrowing.Code.Function
import Narrowing.Proofs.Placement

/-!
# Opaque texts are relayed

The type of a field, a lifetime, the declaration text of a parameter and the where clause are
texts in the host language.  They are carried from the schema into the conversion and nothing is
decided by them.  As a statement on two runs: declarations that are *alike*, which is to say equal
up to these texts, are generated alike.

* Either both are rejected, with one diagnostic, or both have a conversion.
* The conversion of the one, with the texts of the other in their places, is the conversion of the
  other (`Conversion.withTexts`).
* The emitted function shows none of the texts, so it is one function for both.

### What is compared

`Schema.Alike` leaves the lifetimes, the parameter declarations and the where clause free
altogether: their number may differ as well.  The names and places of the fields and the names of
the parameters are kept, and so is the order of both.

### How it is shown

Every stage is compared on two alike inputs.  The stages before the mappings give equal results.
The mappings carry the types, so there the result of the one side has to be retyped; and a shared
source field is found with the field at fault, types included, so the two sides agree only once it
is reported (`mappings_eq`).

## Main statements

* `Declaration.Alike.generate_eq` — one run determines the other
* `Declaration.generate_of_alike` — both verdicts, both conversions, one emitted function
-/

namespace Narrowing

open Directive (FieldOptions SchemaOptions)

/-! ## Alike up to opaque texts -/

/-- One name and one place; the types are any. -/
structure Field.Alike (f g : Field) : Prop where
  name : g.name = f.name
  location : g.location = f.location

/-- Alike fields under one name, with one list of parameter names, at one place; the lifetimes, the
parameter declarations and the where clause are any. -/
structure Schema.Alike (s t : Schema) : Prop where
  name : t.name = s.name
  params : t.params = s.params
  location : t.location = s.location
  fields : List.Forall₂ Field.Alike s.fields t.fields

/-- Alike schemas with the same directive texts. -/
structure Declaration.Alike (d e : Declaration) : Prop where
  schema : d.schema.Alike e.schema
  directive : e.directive = d.directive
  fieldDirectives : e.fieldDirectives = d.fieldDirectives

/-- The mapping with the type of a field. -/
def Mapping.withType (m : Mapping) (f : Field) : Mapping := { m with type := f.type }

/-- The conversion with the texts of a schema in the places of its own. -/
def Conversion.withTexts (c : Conversion) (t : Schema) : Conversion :=
  { c with target := t, fields := List.zipWith Mapping.withType c.fields t.fields }

theorem map_name_eq {fs gs : List Field} (alike : List.Forall₂ Field.Alike fs gs) :
    gs.map Field.name = fs.map Field.name := by
  induction alike with
  | nil => rfl
  | cons same _ ih => rw [List.map_cons, List.map_cons, same.name, ih]

/-! ## The stages on alike inputs -/

namespace Request

theorem fieldOptions_eq {schema : String} {directives : KeyedList String} {fs gs : List Field}
    (alike : List.Forall₂ Field.Alike fs gs) (known : KeyedList FieldOptions) :
    fieldOptions schema directives known gs = fieldOptions schema directives known fs := by
  induction alike generalizing known with
  | nil => rfl
  | cons same _ ih =>
      rw [fieldOptions, fieldOptions, same.name, same.location]
      simp only [ih]

theorem ofDeclaration_eq {d e : Declaration} (alike : d.Alike e) :
    ofDeclaration e = ofDeclaration d := by
  have stray : e.stray? = d.stray? := by
    rw [Declaration.stray?, Declaration.stray?, alike.fieldDirectives, Schema.fieldNames,
      Schema.fieldNames, map_name_eq alike.schema.fields]
  rw [ofDeclaration, ofDeclaration, Declaration.strayDirective?_eq, Declaration.strayDirective?_eq,
    stray, alike.directive, alike.fieldDirectives, fieldOptions_eq alike.schema.fields]
  simp only [strayDirective, alike.schema.name, alike.schema.location]

theorem resolve_eq {s t : Schema} (alike : s.Alike t) (r : Request) :
    r.resolve t = r.resolve s := by
  have worded (fault : ParameterFault) (source : Reference) :
      fault.message source t = fault.message source s := by
    cases fault with
    | undeclared name =>
        unfold ParameterFault.message
        dsimp only
        rw [alike.name, alike.params]
    | repeated name => rfl
    | missing names => rfl
  have reported (fault : ParameterFault) (source : Reference) :
      fault.diagnose source t = fault.diagnose source s := by
    rw [ParameterFault.diagnose, ParameterFault.diagnose, worded, alike.name, alike.location]
  rw [resolve, resolve, alike.params]
  simp only [reported]

theorem mapping_eq {f g : Field} (alike : f.Alike g) (r : Request) :
    r.mapping g = (r.mapping f).withType g := by
  simp only [mapping, Mapping.withType, alike.name, alike.location]

/-- The mappings of alike fields: a shared source field is the same one, and the mappings differ in
their types. -/
theorem mappingsFrom_eq {s t : Schema} (alike : s.Alike t) (r : Request) {fs gs : List Field}
    (fields : List.Forall₂ Field.Alike fs gs) (claimed : KeyedList String) :
    (r.mappingsFrom claimed gs).mapError (·.diagnose t) =
      ((r.mappingsFrom claimed fs).mapError (·.diagnose s)).map fun ms =>
        List.zipWith Mapping.withType ms gs := by
  induction fields generalizing claimed with
  | nil => rfl
  | @cons f g fs gs same _ ih =>
      have source : (r.mapping g).source = (r.mapping f).source := by
        rw [mapping_eq same, Mapping.withType]
      rw [mappingsFrom, mappingsFrom, source]
      cases claimed.get? (r.mapping f).source with
      | some reader =>
          show Except.error _ = Except.error _
          rw [Except.error.injEq]
          simp only [SharedSource.diagnose, alike.name, alike.location, same.name, same.location]
      | none =>
          show ((r.mappingsFrom (claimed.put (r.mapping f).source g.name) gs).map
              (r.mapping g :: ·)).mapError (·.diagnose t) =
            (((r.mappingsFrom (claimed.put (r.mapping f).source f.name) fs).map
              (r.mapping f :: ·)).mapError (·.diagnose s)).map _
          rw [same.name, mapError_map, mapError_map, ih, map_map, map_map, mapping_eq same]
          rfl

theorem mappings_eq {s t : Schema} (alike : s.Alike t) (r : Request) :
    r.mappings t = (r.mappings s).map fun ms => List.zipWith Mapping.withType ms t.fields :=
  mappingsFrom_eq alike r alike.fields []

end Request

theorem Conversion.ofRequest_eq {s t : Schema} (alike : s.Alike t) (r : Request) :
    ofRequest r t = (ofRequest r s).map (·.withTexts t) := by
  rw [ofRequest, ofRequest, Request.mappings_eq alike]
  cases r.mappings s with
  | error diagnostic => rfl
  | ok fields =>
      cases r.reference with
      | none => rfl
      | some source => rfl

/-- **One run determines the other**: the opaque texts of a declaration are put into the conversion
that its likes have. -/
theorem Declaration.Alike.generate_eq {d e : Declaration} (alike : d.Alike e) :
    e.generate = d.generate.map (·.withTexts e.schema) := by
  rw [generate, generate, Request.ofDeclaration_eq alike]
  cases Request.ofDeclaration d with
  | error diagnostic => rfl
  | ok request =>
      simp only [Request.resolve_eq alike.schema, Conversion.ofRequest_eq alike.schema]
      cases request.resolve d.schema with
      | error diagnostic => rfl
      | ok resolved => rfl

/-! ## The emitted function -/

/-- What does not look at the type of a mapping finds retyped mappings as they were. -/
theorem map_zipWith_withType {β : Type} {g : Mapping → β} (blind : ∀ m f, g (m.withType f) = g m)
    {ms : List Mapping} {fs : List Field} (length : ms.length = fs.length) :
    (List.zipWith Mapping.withType ms fs).map g = ms.map g := by
  induction ms generalizing fs with
  | nil => rfl
  | cons m ms ih =>
      cases fs with
      | nil => cases length
      | cons f fs =>
          rw [List.zipWith_cons_cons, List.map_cons, List.map_cons, blind,
            ih (Nat.succ_inj.mp length)]

namespace Code.Function

/-- The statements that a mapping contributes to the checks: those of an unpacked field only. -/
theorem flatMap_checkOf_filter (sourceType : String) (ms : List Mapping) :
    (ms.filter Mapping.unpack).flatMap (checkOf sourceType) =
      (ms.map fun m => if m.unpack then checkOf sourceType m else []).flatten := by
  induction ms with
  | nil => rfl
  | cons m ms ih =>
      cases unpack : m.unpack with
      | true => simp [unpack, ih]
      | false => simp [unpack, ih]

/-- **The emitted function shows no opaque text.** -/
theorem ofConversion_withTexts {c : Conversion} {t : Schema} (name : t.name = c.target.name)
    (params : t.params = c.target.params) (length : c.fields.length = t.fields.length) :
    ofConversion (c.withTexts t) = ofConversion c := by
  have fallible : (c.withTexts t).isFallible = c.isFallible := by
    have byFlags (ms : List Mapping) : ms.any Mapping.unpack = (ms.map Mapping.unpack).any id := by
      rw [List.any_map, Function.id_comp]
    rw [Conversion.isFallible, Conversion.isFallible, byFlags, byFlags, Conversion.withTexts,
      map_zipWith_withType (fun _ _ => rfl) length]
  have checks : (c.withTexts t).unpackChecks.flatMap (checkOf (c.source.spell .square)) =
      c.unpackChecks.flatMap (checkOf (c.source.spell .square)) := by
    rw [Conversion.unpackChecks, Conversion.unpackChecks, flatMap_checkOf_filter,
      flatMap_checkOf_filter, Conversion.withTexts, map_zipWith_withType (fun _ _ => rfl) length]
  have arguments : (c.withTexts t).fields.map argumentOf = c.fields.map argumentOf :=
    map_zipWith_withType (fun _ _ => rfl) length
  have called : functionName (c.withTexts t) = functionName c := by
    rw [functionName, functionName, fallible, Conversion.withTexts, name]
  have resultType : targetType (c.withTexts t) = targetType c := by
    rw [targetType, targetType, Conversion.withTexts, name, params]
  have built : (c.withTexts t).target.name = c.target.name := name
  unfold ofConversion
  rw [called, resultType, fallible, arguments, built]
  exact congrArg _ (congrArg (· ++ _) checks)

end Code.Function

/-! ## Two runs -/

namespace Declaration

/-- **Opaque texts are relayed, never interpreted.**  Of two declarations that are equal up to their
opaque texts either both have a conversion or both are rejected, and then with one diagnostic.  The
conversion of the second is that of the first with the texts of the second in their places, and one
and the same function is emitted for both. -/
theorem generate_of_alike {d e : Declaration} (alike : d.Alike e) :
    ((∃ c, d.generate = .ok c) ↔ ∃ c, e.generate = .ok c) ∧
    (∀ failure, d.generate = .error failure ↔ e.generate = .error failure) ∧
    ∀ c c', d.generate = .ok c → e.generate = .ok c' →
      c' = c.withTexts e.schema ∧
      (Code.Function.ofConversion c').text = (Code.Function.ofConversion c).text := by
  have determined := alike.generate_eq
  refine ⟨⟨?_, ?_⟩, ?_, ?_⟩
  · rintro ⟨c, generated⟩
    exact ⟨c.withTexts e.schema, by rw [determined, generated]; rfl⟩
  · rintro ⟨c', generated⟩
    rw [determined] at generated
    obtain ⟨c, generated, -⟩ := map_eq_ok_iff.mp generated
    exact ⟨c, generated⟩
  · intro failure
    rw [determined, map_eq_error_iff]
  · intro c c' first second
    rw [determined, first] at second
    have same : c' = c.withTexts e.schema := (Except.ok.inj second).symm
    obtain ⟨written, source, options, -, rfl⟩ := generate_eq_ok_iff.mp first
    refine ⟨same, ?_⟩
    have length : (d.mappings written options).length = e.schema.fields.length := by
      rw [mappings, List.length_map, alike.schema.fields.length_eq]
    rw [same, Code.Function.ofConversion_withTexts alike.schema.name alike.schema.params length]

/-- The declaration `swapped` with other types, and with a lifetime, the declaration of a bounded
parameter and a where clause added. -/
def swappedTexts : Declaration where
  schema := { swapped.schema with
    fields := [{ name := "a", type := "Vec<\"#T\">" }, { name := "b", type := "" }]
    lifetimes := ["'a"], paramDecls := [⟨"T", "T: Clone"⟩], whereClause := some "where T: 'a" }
  directive := swapped.directive
  fieldDirectives := swapped.fieldDirectives

/-- Texts that look like free arguments, or that are empty, are relayed as well. -/
theorem swappedTexts_alike :
    swapped.Alike swappedTexts ∧
      swappedTexts.generate = .ok (swappedConversion.withTexts swappedTexts.schema) ∧
      (Code.Function.ofConversion (swappedConversion.withTexts swappedTexts.schema)).text =
        (Code.Function.ofConversion swappedConversion).text := by
  have alike : swapped.Alike swappedTexts :=
    ⟨⟨rfl, rfl, rfl, .cons ⟨rfl, rfl⟩ (.cons ⟨rfl, rfl⟩ .nil)⟩, rfl, rfl⟩
  obtain ⟨accepted, -, relayed⟩ := generate_of_alike alike
  obtain ⟨c', generated⟩ := accepted.mp ⟨_, generate_swapped⟩
  obtain ⟨rfl, emitted⟩ := relayed _ c' generate_swapped generated
  exact ⟨alike, generated, emitted⟩

end Declaration

end Narrowing
