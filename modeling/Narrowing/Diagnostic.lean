import Narrowing.Location

/-!
# Diagnostics

What is reported when no conversion can be generated for a schema: the kind of
the problem, the schema and, where it applies, the field and the option at
fault.

## Main definitions

* `Diagnostic.Kind` — the five kinds of problem
* `Diagnostic.Subject` — the declaration that a directive belongs to
* `Diagnostic` — one reported problem
* `Diagnostic.text` — its spelling
-/

namespace Narrowing

namespace Diagnostic

/-- The five kinds of problem. -/
inductive Kind where
  /-- Unreadable directive text, an unknown option, or a value of the wrong type. -/
  | malformedDirective
  /-- The required source option is absent. -/
  | missingFromType
  /-- A free argument names a parameter that the target does not declare. -/
  | unknownGenericParameter
  /-- A declared parameter is missing from the source or repeated in it. -/
  | arityMismatch
  /-- Contradictory field options. -/
  | conflictingFieldDirective
deriving DecidableEq, Repr, Inhabited

namespace Kind

/-- Every kind. -/
def all : List Kind :=
  [malformedDirective, missingFromType, unknownGenericParameter, arityMismatch,
    conflictingFieldDirective]

/-- The name of a kind in messages. -/
def name : Kind → String
  | malformedDirective => "MalformedDirective"
  | missingFromType => "MissingFromType"
  | unknownGenericParameter => "UnknownGenericParameter"
  | arityMismatch => "ArityMismatch"
  | conflictingFieldDirective => "ConflictingFieldDirective"

/-- The kind of that name. -/
def ofName? (s : String) : Option Kind := all.find? fun k => k.name == s

theorem ofName?_name (k : Kind) : ofName? k.name = some k := by
  cases k <;> decide

end Kind

/-- The declaration that a directive belongs to: a schema, or one field of it. -/
structure Subject where
  schema : String
  field : Option String := none
  location : Option Location := none
deriving DecidableEq, Repr, Inhabited

end Diagnostic

/-- One reported problem. -/
structure Diagnostic where
  kind : Diagnostic.Kind
  message : String
  schema : String
  field : Option String := none
  key : Option String := none
  location : Option Location := none
deriving DecidableEq, Repr, Inhabited

namespace Diagnostic

/-- A problem with the given declaration. -/
def about (subject : Subject) (kind : Kind) (message : String) (key : Option String) :
    Diagnostic :=
  { kind, message, schema := subject.schema, field := subject.field, key
    location := subject.location }

/-- The schema, field and option at fault, as in a report. -/
def subject (d : Diagnostic) : String :=
  let named :=
    match d.field with
    | none => d.schema
    | some field => s!"{d.schema}.{field}"
  match d.key with
  | none => named
  | some key => s!"{named} [{key}]"

/-- The spelling of a problem in a report. -/
def text (d : Diagnostic) : String :=
  let place :=
    match d.location with
    | none => ""
    | some l => s!"{l.text}: "
  s!"{place}{d.kind.name}: {d.subject}: {d.message}"

end Diagnostic

end Narrowing
