import Narrowing.Directive.Options
import Narrowing.Reference.Parameters
import Narrowing.Reference.Reader
import Narrowing.Schema

/-!
# Conversion requests

What the directives of one declaration ask for: a source, as text and later as a
reference that fits the target, and the options of every declared field.

## Main definitions

* `Request` — one conversion asked for
* `Request.ofDeclaration` — the request that the directive texts make
* `Request.resolve` — the request with its source read and checked
-/

namespace Narrowing

open Directive (FieldOptions SchemaOptions)

/-- One conversion asked for. The source is the written text until the request is resolved;
the options of the fields are kept by field name. -/
structure Request where
  schema : String
  source : String := ""
  unpack : Bool := false
  options : KeyedList FieldOptions := []
  reference : Option Reference := none
  location : Option Location := none
deriving Repr, Inhabited, DecidableEq

namespace Request

/-- The first directive that is attached to a field which the schema does not declare. -/
def strayDirective? (d : Declaration) : Option String :=
  d.fieldDirectives.keys.find? fun name => (d.schema.field? name).isNone

/-- The report of a directive attached to an undeclared field. -/
def strayDirective (schema : Schema) (field : String) : Diagnostic :=
  .about { schema := schema.name, field := some field, location := schema.location }
    .malformedDirective "directive attached to a field the schema does not declare" none

/-- The options of the fields in declaration order. Fields of one name share one directive
text and one place. -/
def fieldOptions (schema : String) (directives : KeyedList String) :
    KeyedList FieldOptions → List Field → Except Diagnostic (KeyedList FieldOptions)
  | known, [] => .ok known
  | known, field :: rest =>
    match FieldOptions.ofText (directives.get? field.name) with
    | .error fault => .error (fault.diagnose ⟨schema, some field.name, field.location⟩)
    | .ok options => fieldOptions schema directives (known.put field.name options) rest

/-- The request that the directive texts of a declaration make. -/
def ofDeclaration (d : Declaration) : Except Diagnostic Request :=
  match SchemaOptions.ofText d.directive with
  | .error fault => .error (fault.diagnose ⟨d.schema.name, none, d.schema.location⟩)
  | .ok written =>
    match strayDirective? d with
    | some field => .error (strayDirective d.schema field)
    | none =>
      (fieldOptions d.schema.name d.fieldDirectives [] d.schema.fields).map fun options =>
        { schema := d.schema.name, source := written.source, unpack := written.unpack, options
          location := d.schema.location }

/-- The reference that the source text of a request spells. -/
def readSource (r : Request) : Except Diagnostic Reference :=
  (Reference.ofText r.source).mapError fun fault =>
    fault.diagnose r.source ⟨r.schema, none, r.location⟩

/-- The request with its source read and checked against the target. -/
def resolve (r : Request) (target : Schema) : Except Diagnostic Request :=
  match r.readSource with
  | .error d => .error d
  | .ok reference =>
    match reference.checkParams target.params with
    | .error fault => .error (fault.diagnose reference target)
    | .ok () => .ok { r with reference := some reference }

/-- The options of a field; a field without any has the defaults. -/
def optionsFor (r : Request) (field : String) : FieldOptions :=
  (r.options.get? field).getD {}

end Request

end Narrowing
