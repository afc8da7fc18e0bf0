import Narrowing.KeyedList
import Narrowing.Location
import Narrowing.Reference.Basic

/-!
# Target schemas

The narrow record type that a conversion builds, as it was declared. Type
expressions, lifetimes, parameter declarations and the where clause are opaque
texts: they are carried into the emitted code and never looked into.

## Main definitions

* `Field` — a declared field
* `ParamDecl` — a generic parameter with its declaration text
* `Schema` — a target record type
* `Schema.declare` — a schema from tagged parameters, which must all be free
* `Declaration` — a schema with the directive texts attached to it
-/

namespace Narrowing

/-- A declared field of a target. -/
structure Field where
  name : String
  type : String
  location : Option Location := none
deriving DecidableEq, Repr, Inhabited

/-- A generic parameter as it was declared, its default left out. -/
structure ParamDecl where
  name : String
  text : String
deriving DecidableEq, Repr, Inhabited

/-- The parameter is a lifetime. -/
def ParamDecl.isLifetime (p : ParamDecl) : Bool := p.name.toList.head? = some '\''

/-- A target record type. The declaration texts of its generic parameters, lifetimes
included, are in written order; a declaration that carries none gets the bare names. -/
structure Schema where
  name : String
  params : List String := []
  lifetimes : List String := []
  fields : List Field := []
  location : Option Location := none
  paramDecls : List ParamDecl := []
  whereClause : Option String := none
deriving DecidableEq, Repr, Inhabited

/-- A declared parameter that is tagged as bound. -/
structure BoundParameter where
  schema : String
  value : String
deriving DecidableEq, Repr, Inhabited

/-- The wording of a bound parameter in a declaration. -/
def BoundParameter.message (fault : BoundParameter) : String :=
  s!"Record {fault.schema} declares a bound generic parameter '{fault.value}'; "
    ++ "declared parameters must be free"

namespace Schema

/-- The names of tagged parameters, or the first one that is bound. -/
def freeNames (schema : String) : List Argument → Except BoundParameter (List String)
  | [] => .ok []
  | .free name :: rest => (freeNames schema rest).map (name :: ·)
  | .bound value :: _ => .error ⟨schema, value⟩

/-- The schema with the given tagged parameters. -/
def declare (schema : Schema) (params : List Argument) : Except BoundParameter Schema :=
  (freeNames schema.name params).map fun names => { schema with params := names }

/-- Every generic parameter with its declaration text; bare names, lifetimes first, when no
texts were given. -/
def declaredGenerics (schema : Schema) : List ParamDecl :=
  if schema.paramDecls.isEmpty then
    (schema.lifetimes ++ schema.params).map fun name => ⟨name, name⟩
  else schema.paramDecls

/-- The names of the fields, in declaration order. -/
def fieldNames (schema : Schema) : List String := schema.fields.map Field.name

/-- The first field of that name. -/
def field? (schema : Schema) (name : String) : Option Field :=
  schema.fields.find? fun field => field.name == name

end Schema

/-- A target schema with the directive texts attached to it and to its fields. A schema that
is marked without options has no directive text. -/
structure Declaration where
  schema : Schema
  directive : Option String := none
  fieldDirectives : KeyedList String := []
deriving DecidableEq, Repr, Inhabited

end Narrowing
