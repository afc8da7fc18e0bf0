import Narrowing.Code.MissingField
import Narrowing.Conversion
import Narrowing.Text.Quoted
import Narrowing.Text.SnakeCase

/-!
# Conversion functions

For Python a conversion is emitted as a function of one argument. A fallible one
first reads every unpacked field into a variable and raises at the first that is
`None`; then the target is built with one keyword argument a field. The
variables have a name of their own kind, so they never hide the argument.

## Main definitions

* `Function` — the emitted function: its signature and its statements
* `Function.ofConversion` — the function that carries out a conversion
* `Function.text` — its source text
* `Function.run` — what calling it on a source record does
-/

namespace Narrowing.Code

/-- Where a keyword argument takes its value: a field of the source, or a variable. -/
inductive Operand where
  | sourceField (name : String)
  | var (name : String)
deriving DecidableEq, Repr, Inhabited

/-- A statement of an emitted function. -/
inductive Statement where
  /-- Reads a field of the source into a variable. -/
  | read (x field : String)
  /-- Raises the report when the variable is `None`. -/
  | require (x : String) (missing : MissingField)
  /-- Returns the target with the given keyword arguments. -/
  | build (type : String) (args : List (String × Operand))
deriving DecidableEq, Repr, Inhabited

/-- An emitted function. -/
structure Function where
  name : String
  parameterType : String
  resultType : String
  fallible : Bool
  body : List Statement
deriving DecidableEq, Repr, Inhabited

/-- The name of the function that carries out a conversion. -/
def functionName (c : Conversion) : String :=
  let base := s!"{Text.snakeCase c.target.name}_from_{Text.snakeCase c.source.shortName}"
  if c.isFallible then s!"try_{base}" else base

/-- The target with its generic parameters in square brackets. -/
def targetType (c : Conversion) : String := Reference.spellWith .square c.target.name c.target.params

/-- The variable that holds the unpacked value of a field. -/
def variableFor (field : String) : String := s!"field_{field}"

namespace Function

/-- The statements that read and check one unpacked field. -/
def checkOf (sourceType : String) (m : Mapping) : List Statement :=
  [.read (variableFor m.target) m.source,
    .require (variableFor m.target) ⟨m.target, m.source, some sourceType⟩]

/-- The keyword argument of one field. -/
def argumentOf (m : Mapping) : String × Operand :=
  (m.target, if m.unpack then .var (variableFor m.target) else .sourceField m.source)

/-- The function that carries out a conversion. -/
def ofConversion (c : Conversion) : Function :=
  let sourceType := c.source.spell .square
  { name := functionName c
    parameterType := sourceType
    resultType := targetType c
    fallible := c.isFallible
    body := c.unpackChecks.flatMap (checkOf sourceType)
      ++ [.build c.target.name (c.fields.map argumentOf)] }

/-- The source text of an operand. -/
def operandText : Operand → String
  | .sourceField name => s!"value.{name}"
  | .var name => name

/-- The source lines of a statement, inside a function. -/
def statementLines : Statement → List String
  | .read x field => [s!"    {x} = value.{field}"]
  | .require x missing =>
    let args := ", ".intercalate
      [Text.quoted missing.field, Text.quoted missing.sourceField,
        Text.quoted (missing.source.getD "")]
    [s!"    if {x} is None:", s!"        raise MissingFieldError({args})"]
  | .build type [] => [s!"    return {type}()"]
  | .build type args =>
    s!"    return {type}("
      :: args.map (fun a => s!"        {a.1}={operandText a.2},")
      ++ ["    )"]

/-- The lines of the doc string. -/
def docLines (f : Function) : List String :=
  let summary := s!"Convert {f.parameterType} into {f.resultType}"
  if f.fallible then
    [s!"    \"\"\"{summary}, unpacking optional fields.",
      "",
      "    Raises:",
      "        MissingFieldError: for the first unpacked field that is None.",
      "    \"\"\""]
  else [s!"    \"\"\"{summary}.\"\"\""]

/-- The source lines of a function. -/
def lines (f : Function) : List String :=
  s!"def {f.name}(value: {f.parameterType}) -> {f.resultType}:"
    :: f.docLines ++ f.body.flatMap statementLines

/-- The source text of a function. -/
def text (f : Function) : String := "\n".intercalate f.lines ++ "\n"

/-- What a call can end with. -/
inductive Outcome (V : Type) where
  /-- The target was built from these fields. -/
  | built (type : String) (fields : List (String × V))
  /-- An unpacked source field was `None`. -/
  | missing (report : MissingField)
  /-- The source has no such field. -/
  | absent (field : String)
  /-- A variable was used before it was assigned. -/
  | unassigned (x : String)
  /-- The statements ended without a result. -/
  | noResult
deriving DecidableEq, Repr, Inhabited

/-- The fields that a call read from the source, in order, and what it ended with. -/
structure Trace (V : Type) where
  reads : List String
  outcome : Outcome V
deriving DecidableEq, Repr, Inhabited

namespace Trace

variable {V : Type}

/-- The trace with one more field read in front. -/
def reading (field : String) (t : Trace V) : Trace V := { t with reads := field :: t.reads }

end Trace

section Run

variable {V : Type} (isNone : V → Bool) (source : String → Option V)

/-- Evaluates the keyword arguments from left to right and hands their values on. -/
def runArguments (type : String) (locals : KeyedList V) (values : List (String × V)) :
    List (String × Operand) → Trace V
  | [] => ⟨[], .built type values.reverse⟩
  | (name, .sourceField field) :: rest =>
    match source field with
    | none => ⟨[field], .absent field⟩
    | some v => (runArguments type locals ((name, v) :: values) rest).reading field
  | (name, .var x) :: rest =>
    match locals.get? x with
    | none => ⟨[], .unassigned x⟩
    | some v => runArguments type locals ((name, v) :: values) rest

/-- Executes statements with the locals assigned so far. -/
def runStatements (locals : KeyedList V) : List Statement → Trace V
  | [] => ⟨[], .noResult⟩
  | .read x field :: rest =>
    match source field with
    | none => ⟨[field], .absent field⟩
    | some v => (runStatements (locals.put x v) rest).reading field
  | .require x missing :: rest =>
    match locals.get? x with
    | none => ⟨[], .unassigned x⟩
    | some v => if isNone v then ⟨[], .missing missing⟩ else runStatements locals rest
  | .build type args :: _ => runArguments source type locals [] args

/-- What calling the function on a source record does: `isNone` tells the value `None`, and
`source` gives the fields that the record has. -/
def run (f : Function) : Trace V := runStatements isNone source [] f.body

end Run

end Function

end Narrowing.Code
