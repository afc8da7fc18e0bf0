import Narrowing.Mapping

/-!
# Conversions

A conversion builds a target from a source, field by field. It is infallible
when no field is unpacked. Otherwise it checks the unpacked fields in
declaration order and reports the first one that is empty; the other fields are
taken as they are.

## Main definitions

* `Conversion` — a conversion ready to be emitted
* `Conversion.kind`, `Conversion.unpackChecks` — its shape and the fields it checks
* `Failure` — why there is no conversion
* `Conversion.ofRequest` — the conversion that a resolved request asks for
* `Declaration.generate` — the conversion of a declaration
-/

namespace Narrowing

/-- A conversion ready to be emitted; the fields are in declaration order. -/
structure Conversion where
  target : Schema
  source : Reference
  fields : List Mapping
deriving DecidableEq, Repr, Inhabited

namespace Conversion

/-- The two shapes of a conversion. -/
inductive Kind where
  | infallible
  | fallible
deriving DecidableEq, Repr, Inhabited

/-- The name of a shape. -/
def Kind.name : Kind → String
  | infallible => "infallible"
  | fallible => "fallible"

/-- The entry point that a shape offers. -/
def Kind.entryPoint : Kind → String
  | infallible => "convert"
  | fallible => "try_convert"

/-- Some field is unpacked. -/
def isFallible (c : Conversion) : Bool := c.fields.any Mapping.unpack

/-- The shape of a conversion. -/
def kind (c : Conversion) : Kind := if c.isFallible then .fallible else .infallible

/-- The entry point of a conversion. -/
def entryPoint (c : Conversion) : String := c.kind.entryPoint

/-- The unpacked fields, in declaration order: the first empty one is reported. -/
def unpackChecks (c : Conversion) : List Mapping := c.fields.filter Mapping.unpack

/-- The fields that are taken as they are, in declaration order. -/
def plainFields (c : Conversion) : List Mapping := c.fields.filter fun m => !m.unpack

end Conversion

/-- Why there is no conversion. -/
inductive Failure where
  /-- A structural problem with the declaration. -/
  | rejected (diagnostic : Diagnostic)
  /-- The request reached the last stage without a source reference. -/
  | unresolved (schema : String)
deriving DecidableEq, Repr, Inhabited

namespace Failure

/-- The wording of a failure. -/
def message : Failure → String
  | rejected diagnostic => diagnostic.text
  | unresolved schema => s!"ConversionSpec for {schema} has no resolved source reference"

end Failure

/-- The conversion that a resolved request asks for. -/
def Conversion.ofRequest (r : Request) (target : Schema) : Except Failure Conversion :=
  match r.mappings target with
  | .error d => .error (.rejected d)
  | .ok fields =>
    match r.reference with
    | none => .error (.unresolved r.schema)
    | some source => .ok ⟨target, source, fields⟩

/-- The conversion of a declaration: its directives are read, its source is resolved, its
fields are mapped, and the first problem ends it. -/
def Declaration.generate (d : Declaration) : Except Failure Conversion :=
  match Request.ofDeclaration d with
  | .error diagnostic => .error (.rejected diagnostic)
  | .ok request =>
    match request.resolve d.schema with
    | .error diagnostic => .error (.rejected diagnostic)
    | .ok request => Conversion.ofRequest request d.schema

end Narrowing
