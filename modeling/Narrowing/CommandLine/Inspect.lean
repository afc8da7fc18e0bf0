import Narrowing.Build
import Narrowing.CommandLine.Command
import Narrowing.CommandLine.Output

/-!
# Showing schemas

For every marked schema of a file, what its conversion is and where each field
comes from; or why there is none. The schemas are gone through one by one, and
the run has failed when one of them has no conversion.

## Main definitions

* `conversionTexts` — what is shown of a conversion
* `showDeclaration`, `showDeclarations` — showing one schema and several
* `InspectOptions.run` — the showing command
-/

namespace Narrowing.CommandLine

/-- A text filled up with spaces to a width. -/
def padded (width : Nat) (s : String) : String := s.pushn ' ' (width - s.length)

/-- A row of the table of fields. -/
def row (target source unpack type : String) : String :=
  s!"  {padded 20 target} {padded 20 source} {padded 8 unpack} {type}"

/-- The row of a field. -/
def fieldRow (m : Mapping) : String :=
  row m.target m.source (if m.unpack then "yes" else "no") m.type

/-- Names behind a label, if there are any. -/
def labelled (label : String) (names : List String) : List String :=
  if names.isEmpty then [] else [label ++ ", ".intercalate names]

/-- What is shown of a conversion: its source, its entry point, its parameters and a table of its
fields. -/
def conversionTexts (c : Conversion) : List String :=
  [s!"  Source     : {c.source.text}", s!"  Conversion : {c.entryPoint} ({c.kind.name})"]
    ++ labelled "  Generic in : " c.source.freeParams
    ++ labelled "  Lifetimes  : " c.target.lifetimes
    ++ [row "Field" "Source Field" "Unpack" "Type", "  " ++ "".pushn '-' 70]
    ++ c.fields.map fieldRow

/-- The line above what is shown of a schema: its name and its place. -/
def headerText (s : Schema) : String :=
  let place := (s.location.map Location.text).getD "None"
  s!"{s.name} ({place})"

/-- The line that reports a diagnostic. -/
def rejectionText (d : Diagnostic) : String := s!"  ERROR: {d.text}"

/-- What showing schemas did: the lines printed, and whether one of them has no conversion. -/
structure Shown where
  lines : List Line
  failed : Bool
deriving DecidableEq, Repr, Inhabited

/-- Shows the schema of a declaration. -/
def showDeclaration (verbose : Bool) (d : Declaration) : Shown :=
  let head := [.out "", .out (headerText d.schema)]
    ++ if verbose then d.progress.map fun p => .err p.line else []
  match d.generate with
  | .ok c => ⟨head ++ (conversionTexts c).map .out, false⟩
  | .error (.rejected diagnostic) => ⟨head ++ [.err (rejectionText diagnostic)], true⟩
  | .error f@(.unresolved _) => ⟨head ++ [.err s!"  ERROR: {f.message}"], true⟩

/-- Shows the schemas of declarations one after another. -/
def showDeclarations (verbose : Bool) : List Declaration → Shown
  | [] => ⟨[], false⟩
  | d :: rest =>
    let first := showDeclaration verbose d
    let others := showDeclarations verbose rest
    ⟨first.lines ++ others.lines, first.failed || others.failed⟩

/-- The language of the file: the one that is given or else the one that its ending tells. -/
def InspectOptions.languageOf (o : InspectOptions) : Except UnknownSuffix Language :=
  match o.language with
  | some l => .ok l
  | none => Language.infer o.input

/-- The line that says that no schema is marked. -/
def InspectOptions.noneMarked (o : InspectOptions) : String :=
  s!"No schemas marked with '{o.marker}' in {o.input}."

/-- The showing command. -/
def InspectOptions.run (tools : Tools) (o : InspectOptions) (w : Workspace) : Outcome :=
  let refused (message : String) : Outcome := ⟨1, [.err s!"Error: {message}"], w⟩
  match o.languageOf with
  | .error f => refused f.message
  | .ok language =>
    match w.declarations tools language o.marker (.ofText o.input) with
    | .error (.source .emptyHint) => ⟨1, [.err SourceError.emptyHint.message], w⟩
    | .error f => refused f.message
    | .ok [] => ⟨0, [.out o.noneMarked], w⟩
    | .ok ds =>
      let shown := showDeclarations o.verbose ds
      ⟨if shown.failed then 1 else 0, shown.lines, w⟩

end Narrowing.CommandLine
