import Narrowing.Config.Target
import Narrowing.Progress
import Narrowing.Workspace

/-!
# Building a target

The declarations of the input file are generated independently of each other,
and those that succeed are written to the output file; or the output file is
compared with what would be written.

## Main definitions

* `ReadFault` — why declarations cannot be read
* `Workspace.declarations` — the declarations of a file
* `Build` — a target with its declarations
* `Build.text`, `Build.report` — what is generated
* `Build.mismatch?` — how the output file differs from it
-/

namespace Narrowing

/-- Why the declarations of a file cannot be read. -/
inductive ReadFault where
  | text (fault : TextFault)
  | source (error : SourceError)
deriving DecidableEq, Repr, Inhabited

namespace ReadFault

/-- The wording of a fault. -/
def message : ReadFault → String
  | text fault => fault.message
  | source error => error.message

/-- The fault is none that reading declarations is expected to have. -/
def isUnexpected : ReadFault → Bool
  | text (.undecodable _) | source .emptyHint => true
  | _ => false

end ReadFault

/-- The declarations of a file. The line breaks of a Rust file stay as they are written. A file whose
bytes spell no text is refused as a whole. -/
def Workspace.declarations (tools : Tools) (w : Workspace) (language : Language) (marker : String)
    (p : Path) : Except ReadFault (List Declaration) := do
  let text ←
    (match language with
    | .python => w.readLines p
    | .rust => w.readText p).mapError .text
  (language.declarations tools (some p.text) marker text).mapError .source

/-- A target with the declarations of its input. -/
structure Build where
  target : Target
  declarations : List Declaration
deriving DecidableEq, Repr, Inhabited

/-- The build of a target. -/
def Target.build (tools : Tools) (t : Target) (w : Workspace) (marker : String) :
    Except ReadFault Build :=
  (w.declarations tools t.language marker t.input).map fun declarations => ⟨t, declarations⟩

/-- How an output file differs from what is generated. -/
inductive Mismatch where
  | absent (output : Path)
  | different (output : Path)
deriving DecidableEq, Repr, Inhabited

/-- The wording of a difference. -/
def Mismatch.message : Mismatch → String
  | absent output => s!"{output.text} does not exist"
  | different output => s!"Generated code differs from {output.text}"

namespace Build

/-- The report on the declarations. -/
def report (b : Build) : Report := .ofDeclarations b.declarations

/-- The generated text. -/
def text (b : Build) : String :=
  b.target.language.fileText ⟨b.target.imports, some b.target.input.name⟩ b.report.conversions

/-- What a verbose run reports about a build. -/
def progress (b : Build) : List Progress :=
  .declarationsRead b.target.input.text b.declarations.length :: Progress.ofBatch b.declarations

/-- How the output file differs from the generated text, if it does. -/
def mismatch? (b : Build) (w : Workspace) : Except TextFault (Option Mismatch) :=
  let output := b.target.output
  if w.isPresent output then do
    let text ← w.readLines output
    return if text = b.text then none else some (.different output)
  else .ok (some (.absent output))

/-- Writes the generated text to the output file. -/
def write (b : Build) (w : Workspace) : Except FileFault Workspace :=
  w.writeWithParents b.target.output b.text

end Build

end Narrowing
