import Narrowing.Report
import Narrowing.Text.Quoted

/-!
# Progress of a generation

What a verbose run reports while declarations are generated: each stage of a
declaration that succeeds, and each declaration that is rejected.

## Main definitions

* `Progress` — one reported step
* `Declaration.progress` — the steps of one declaration
* `Progress.ofBatch` — the steps of a batch
-/

namespace Narrowing

/-- One reported step. -/
inductive Progress where
  /-- The directives of the schema were read. -/
  | directivesRead (request : Request)
  /-- The source of the schema was resolved. -/
  | sourceResolved (schema : String) (source : Reference)
  /-- The conversion was built. -/
  | conversionBuilt (conversion : Conversion)
  /-- The declaration was rejected. -/
  | rejected (diagnostic : Diagnostic)
  /-- The declarations of a file were read. -/
  | declarationsRead (file : String) (count : Nat)
deriving Repr, Inhabited, DecidableEq

namespace Progress

/-- The level under which a step is reported. -/
def level : Progress → String
  | rejected _ => "WARNING"
  | _ => "DEBUG"

/-- The part of the program that a step is reported for. -/
def origin : Progress → String
  | sourceResolved _ _ => "fromsuper.engine.reference"
  | declarationsRead _ _ => "fromsuper.build"
  | _ => "fromsuper.engine.pipeline"

/-- The spelling of a truth value. -/
def truth (b : Bool) : String := if b then "True" else "False"

/-- The wording of a step. -/
def message : Progress → String
  | directivesRead r => s!"{r.schema}: from_type={Text.quoted r.source} unpack={truth r.unpack}"
  | sourceResolved schema source =>
    let free := if source.freeParams.isEmpty then "none" else ", ".intercalate source.freeParams
    s!"{schema}: source {source.text} (free: {free})"
  | conversionBuilt c =>
    s!"{c.target.name}: {c.kind.name} conversion from {c.source.text} "
      ++ s!"({c.fields.length} field(s), {c.unpackChecks.length} unpacked)"
  | rejected d => d.text
  | declarationsRead file count => s!"{file}: {count} marked declaration(s)"

/-- The line that reports a step. -/
def line (p : Progress) : String := s!"{p.level} {p.origin}: {p.message}"

end Progress

/-- The steps of one declaration, up to the first problem. -/
def Declaration.progress (d : Declaration) : List Progress :=
  match Request.ofDeclaration d with
  | .error _ => []
  | .ok request =>
    .directivesRead request ::
      match request.resolve d.schema with
      | .error _ => []
      | .ok resolved =>
        (resolved.reference.toList.map (.sourceResolved d.schema.name ·)) ++
          match Conversion.ofRequest resolved d.schema with
          | .error _ => []
          | .ok c => [.conversionBuilt c]

/-- The steps of a batch: a rejected declaration is reported after its last step. -/
def Progress.ofBatch (ds : List Declaration) : List Progress :=
  ds.flatMap fun d => d.progress ++ (Report.ofDeclaration d).diagnostics.map .rejected

end Narrowing
