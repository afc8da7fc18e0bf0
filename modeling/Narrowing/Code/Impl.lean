import Narrowing.Code.Lifetime

/-!
# Conversion impls

For Rust a conversion is emitted as an impl of a conversion trait for the target.
A fallible one checks every unpacked field with a `match` that returns early and
comes with an error struct of its own. The impl restates the generic
declarations and the where clause of the target as they were written and adds
the lifetimes that only the source names.

## Main definitions

* `Impl` — the emitted impl: its header, checks and field initialisers
* `Impl.ofConversion` — the impl that carries out a conversion
* `Impl.text` — its source text
* `Impl.run` — what its function does with a source value
* `errorText` — the source text of the error struct
-/

namespace Narrowing.Code

/-- The name of the error struct of a conversion: the letters and digits of the source follow
the name of the target. -/
def errorName (c : Conversion) : String :=
  let spelled := c.source.shortName ++ String.join (c.source.args.map Argument.value)
  s!"{c.target.name}From{String.ofList (spelled.toList.filter Char.isAlphanum)}MissingField"

/-- The name without the marker of a raw identifier. -/
def plainName (field : String) : String :=
  match field.toList with
  | 'r' :: '#' :: rest => String.ofList rest
  | _ => field

/-- The variable that holds the unpacked value of a field; the marker of a raw identifier
cannot stand inside a name. -/
def bindingFor (field : String) : String := s!"field_{plainName field}"

/-- Where a field initialiser takes its value. -/
inductive Initialiser where
  | sourceField (name : String)
  | binding (name : String)
deriving DecidableEq, Repr, Inhabited

/-- A check of one unpacked field: its value is bound, or the error is returned. -/
structure Check where
  binding : String
  source : String
  target : String
deriving DecidableEq, Repr, Inhabited

/-- The generics of an impl: the parameters that it declares, and the arguments that it applies
the target to. -/
structure ImplGenerics where
  declared : List String
  applied : List String
deriving DecidableEq, Repr, Inhabited

/-- An emitted impl. The error is the name of its error struct, if it is fallible. -/
structure Impl where
  generics : ImplGenerics
  source : String
  target : String
  whereClause : Option String
  error : Option String
  checks : List Check
  fields : List (String × Initialiser)
deriving DecidableEq, Repr, Inhabited

/-- The generics of the impl: the lifetimes of the target, those added for the source, and the
other parameters of the target. -/
def ImplGenerics.ofConversion (c : Conversion) : ImplGenerics :=
  let decls := c.target.declaredGenerics
  { declared := (decls.filter ParamDecl.isLifetime).map ParamDecl.text
      ++ extraLifetimes c
      ++ (decls.filter fun p => !ParamDecl.isLifetime p).map ParamDecl.text
    applied := decls.map ParamDecl.name }

namespace Impl

/-- The check of one unpacked field. -/
def checkOf (m : Mapping) : Check := ⟨bindingFor m.target, m.source, m.target⟩

/-- The initialiser of one field in a fallible impl. -/
def initialiserOf (m : Mapping) : String × Initialiser :=
  (m.target, if m.unpack then .binding (bindingFor m.target) else .sourceField m.source)

/-- The impl that carries out a conversion. -/
def ofConversion (c : Conversion) : Impl :=
  { generics := .ofConversion c
    source := c.source.spell .angle
    target := c.target.name
    whereClause := c.target.whereClause
    error := if c.isFallible then some (errorName c) else none
    checks := if c.isFallible then c.unpackChecks.map checkOf else []
    fields :=
      if c.isFallible then c.fields.map initialiserOf
      else c.fields.map fun m => (m.target, .sourceField m.source) }

/-- Parameters in angle brackets, or nothing when there are none. -/
def bracketed (params : List String) : String :=
  if params.isEmpty then ""
  else
    let joined := ", ".intercalate params
    s!"<{joined}>"

/-- The header line of the impl of the given trait. -/
def header (i : Impl) (conversionTrait : String) : String :=
  let clause :=
    match i.whereClause with
    | none => ""
    | some text => if text = "" then "" else s!" {text}"
  s!"impl{bracketed i.generics.declared} ::std::convert::{conversionTrait}<{i.source}> "
    ++ s!"for {i.target}{bracketed i.generics.applied}{clause} \x7b"

/-- The source text of an initialiser. -/
def initialiserText : Initialiser → String
  | .sourceField name => s!"value.{name}"
  | .binding name => name

/-- The line of one field initialiser. -/
def fieldLine (f : String × Initialiser) : String :=
  s!"            {f.1}: {initialiserText f.2},"

/-- The lines of one check. -/
def checkLines (error : String) (c : Check) : List String :=
  [s!"        let {c.binding} = match value.{c.source} \x7b",
    "            ::std::option::Option::Some(inner) => inner,",
    "            ::std::option::Option::None => \x7b",
    s!"                return ::std::result::Result::Err({error} \x7b field: \"{c.target}\" \x7d)",
    "            \x7d",
    "        \x7d;"]

/-- The source lines of an impl. -/
def lines (i : Impl) : List String :=
  match i.error with
  | none =>
    [i.header "From",
      s!"    fn from(value: {i.source}) -> Self \x7b",
      "        Self \x7b"]
      ++ i.fields.map fieldLine
      ++ ["        \x7d", "    \x7d", "\x7d"]
  | some error =>
    [i.header "TryFrom",
      s!"    type Error = {error};",
      "",
      s!"    fn try_from(value: {i.source}) -> ::std::result::Result<Self, Self::Error> \x7b"]
      ++ i.checks.flatMap (checkLines error)
      ++ ["        ::std::result::Result::Ok(Self \x7b"]
      ++ i.fields.map fieldLine
      ++ ["        \x7d)", "    \x7d", "\x7d"]

/-- The source text of an impl. -/
def text (i : Impl) : String := "\n".intercalate i.lines ++ "\n"

/-- What the function of an impl can end with. -/
inductive Outcome (V : Type) where
  /-- The target was built from these fields. -/
  | built (fields : List (String × V))
  /-- The error that names this field was returned. -/
  | missing (field : String)
  /-- The source has no such field. -/
  | absent (field : String)
  /-- A variable was used before it was bound. -/
  | unbound (x : String)
deriving DecidableEq, Repr, Inhabited

/-- The source fields that a run read, in order, and what it ended with. -/
structure Trace (V : Type) where
  reads : List String
  outcome : Outcome V
deriving DecidableEq, Repr, Inhabited

section Run

variable {V : Type} (unwrap : V → Option V) (source : String → Option V)

/-- The trace with one more field read in front. -/
def Trace.reading (field : String) (t : Trace V) : Trace V := { t with reads := field :: t.reads }

/-- Evaluates the field initialisers from left to right. -/
def runFields (bindings : KeyedList V) (values : List (String × V)) :
    List (String × Initialiser) → Trace V
  | [] => ⟨[], .built values.reverse⟩
  | (name, .sourceField field) :: rest =>
    match source field with
    | none => ⟨[field], .absent field⟩
    | some v => (runFields bindings ((name, v) :: values) rest).reading field
  | (name, .binding x) :: rest =>
    match bindings.get? x with
    | none => ⟨[], .unbound x⟩
    | some v => runFields bindings ((name, v) :: values) rest

/-- Carries out the checks in order, then builds the target. -/
def runChecks (bindings : KeyedList V) (fields : List (String × Initialiser)) :
    List Check → Trace V
  | [] => runFields source bindings [] fields
  | check :: rest =>
    match source check.source with
    | none => ⟨[check.source], .absent check.source⟩
    | some v =>
      match unwrap v with
      | none => ⟨[check.source], .missing check.target⟩
      | some inner =>
        (runChecks (bindings.put check.binding inner) fields rest).reading check.source

/-- What the function of the impl does with a source value: `unwrap` opens an optional value,
and `source` gives the fields that the value has. -/
def run (i : Impl) : Trace V := runChecks unwrap source [] i.fields i.checks

end Run

end Impl

/-- The spelling of a source inside a format string, where braces are doubled. -/
def formatEscaped (s : String) : String :=
  String.ofList (s.toList.flatMap fun c => if c = '\x7b' ∨ c = '\x7d' then [c, c] else [c])

/-- The source lines of the error struct of a conversion. -/
def errorLines (c : Conversion) : List String :=
  let error := errorName c
  let source := formatEscaped (c.source.spell .angle)
  [s!"/// The first unpacked field of `{c.target.name}` whose source value was `None`.",
    "#[allow(non_camel_case_types)]",
    "#[derive(Debug, Clone, Copy, PartialEq, Eq)]",
    s!"pub struct {error} \x7b",
    "    pub field: &'static str,",
    "\x7d",
    "",
    s!"impl ::std::fmt::Display for {error} \x7b",
    "    fn fmt(&self, f: &mut ::std::fmt::Formatter<'_>) -> ::std::fmt::Result \x7b",
    s!"        write!(f, \"field `\x7b\x7d` of the super struct {source} is missing\", self.field)",
    "    \x7d",
    "\x7d",
    "",
    s!"impl ::std::error::Error for {error} \x7b\x7d"]

/-- The source text of the error struct of a conversion. -/
def errorText (c : Conversion) : String := "\n".intercalate (errorLines c) ++ "\n"

end Narrowing.Code
