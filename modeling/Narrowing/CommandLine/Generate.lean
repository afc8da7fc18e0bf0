import Narrowing.Build
import Narrowing.CommandLine.Command
import Narrowing.CommandLine.Output
import Narrowing.Config.Basic

/-!
# Generating files

Every target is built by itself: a problem with one of them is reported and the
next one is built. A schema with a problem is left out of the output file, which
is written all the same. A file that cannot be written, compared or read as
configuration ends the run at once, and so does an input that is read neither as
declarations nor with a fault that is expected of it.

## Main definitions

* `configuredRoot` — the directory that holds the configuration file
* `GenerateOptions.plan` — the targets of a run and the marker
* `runTarget`, `runTargets` — building one target and all of them
* `GenerateOptions.run` — the generating command
-/

namespace Narrowing.CommandLine

/-! ## Targets -/

/-- The directories from the given one up to the root. -/
def ancestors (directory : List String) : List (List String) :=
  (List.range (directory.length + 1)).reverse.map directory.take

/-- The nearest directory from the working directory upwards that holds the configuration file,
or else the working directory. -/
def configuredRoot (w : Workspace) : Path :=
  let holder := (ancestors w.directory).find? fun d => (w.find? (d ++ [Config.fileName])).isSome
  ⟨.root, holder.getD w.directory⟩

/-- Why there is no plan. -/
inductive PlanFault where
  | config (fault : Config.Fault)
  | noOutput
  | unknownSuffix (fault : UnknownSuffix)
deriving DecidableEq, Repr, Inhabited

namespace PlanFault

/-- The wording of a fault. -/
def message : PlanFault → String
  | config fault => fault.message
  | noOutput => "OUTPUT is required when INPUT is given"
  | unknownSuffix fault => fault.message

/-- The fault is none that planning is expected to have. -/
def isUnexpected : PlanFault → Bool
  | config fault => fault.isUnexpected
  | _ => false

/-- The line of a fault. -/
def line (f : PlanFault) : Line :=
  .err (if f.isUnexpected then f.message else s!"Error: {f.message}")

end PlanFault

/-- A text that is given and not empty. -/
def nonempty (s : Option String) : Option String := s.filter (· ≠ "")

/-- The target given by an input and an output, which leave the configured ones aside. -/
def GenerateOptions.target (o : GenerateOptions) (input : String) : Except PlanFault Target :=
  match nonempty o.output with
  | none => .error .noOutput
  | some output => do
    let language ←
      match o.language with
      | some l => .ok l
      | none => (Language.infer input).mapError .unknownSuffix
    return ⟨.ofText input, .ofText output, language, o.imports⟩

/-- The targets of a run and the marker. The configuration has to be usable even if its targets
are left aside. -/
def GenerateOptions.plan (tools : Tools) (o : GenerateOptions) (w : Workspace) :
    Except PlanFault (List Target × String) := do
  let root :=
    match nonempty o.projectRoot with
    | some root => .ofText root
    | none => configuredRoot w
  let config ← (Config.load tools.yaml w root o.config).mapError .config
  let marker := (nonempty o.marker).getD config.marker
  match nonempty o.input with
  | none => return (config.targets, marker)
  | some input => return ([← o.target input], marker)

/-! ## One target -/

/-- What building a target did: the lines printed, whether something failed, and the workspace;
an ended run builds no further target. -/
structure Step where
  lines : List Line
  failed : Bool
  workspace : Workspace
  ended : Bool := false
deriving DecidableEq, Repr, Inhabited

/-- The lines of a verbose run. -/
def progressLines (verbose : Bool) (progress : List Progress) : List Line :=
  if verbose then progress.map fun p => .err p.line else []

/-- The line of an input that cannot be read. -/
def faultLine (f : ReadFault) : Line :=
  .err (if f.isUnexpected then f.message else s!"  ERROR: {f.message}")

/-- The lines about the schemas of a build. -/
def buildLines (verbose : Bool) (b : Build) : List Line :=
  progressLines verbose b.progress
    ++ [.out s!"  Found {b.declarations.length} target schema(s)"]
    ++ b.report.conversions.map (fun c =>
      .out s!"  {c.target.name}: {c.entryPoint} from {c.source.text}")
    ++ b.report.diagnostics.map fun d => .err s!"  ERROR: {d.text}"

/-- Compares the output file of a build. -/
def checkBuild (lines : List Line) (b : Build) (w : Workspace) : Step :=
  match b.mismatch? w with
  | .error f => ⟨lines ++ [.err f.message], true, w, true⟩
  | .ok none =>
    ⟨lines ++ [.out "  OK: generated file matches committed version"], !b.report.ok, w, false⟩
  | .ok (some m) =>
    ⟨lines ++ [.err s!"  ERROR: {m.message}", .err "  Run: fromsuper generate"], true, w, false⟩

/-- Writes the output file of a build. -/
def writeBuild (lines : List Line) (b : Build) (w : Workspace) : Step :=
  match b.write w with
  | .error f => ⟨lines ++ [.err f.message], true, w, true⟩
  | .ok w => ⟨lines ++ [.out s!"  Wrote {b.target.output.text}"], !b.report.ok, w, false⟩

/-- The lines that announce a target. -/
def announcement (count index : Nat) (t : Target) : List Line :=
  [.out "", .out s!"[{index}/{count}] {t.input.text} -> {t.output.text} ({t.language.name})"]

/-- Builds the target of the given number. -/
def runTarget (tools : Tools) (o : GenerateOptions) (marker : String) (count index : Nat)
    (w : Workspace) (t : Target) : Step :=
  let head := announcement count index t
  match t.build tools w marker with
  | .error f => ⟨head ++ [faultLine f], true, w, f.isUnexpected⟩
  | .ok b =>
    let lines := head ++ buildLines o.verbose b
    if o.checkOnly then checkBuild lines b w else writeBuild lines b w

/-- Builds targets one after another, the first one being number `index`. -/
def runTargets (tools : Tools) (o : GenerateOptions) (marker : String) (count index : Nat)
    (w : Workspace) : List Target → Step
  | [] => ⟨[], false, w, false⟩
  | t :: rest =>
    let first := runTarget tools o marker count index w t
    if first.ended then first
    else
      let others := runTargets tools o marker count (index + 1) first.workspace rest
      { others with lines := first.lines ++ others.lines, failed := first.failed || others.failed }

/-! ## The command -/

/-- The rule between the parts of the output. -/
def rule : Line := .out ("".pushn '=' 60)

/-- The generating command. -/
def GenerateOptions.run (tools : Tools) (o : GenerateOptions) (w : Workspace) : Outcome :=
  match o.plan tools w with
  | .error f => ⟨1, [f.line], w⟩
  | .ok ([], _) =>
    ⟨1, [.out (s!"No targets configured. Add some to {Config.fileName} "
      ++ "or pass INPUT OUTPUT.")], w⟩
  | .ok (targets, marker) =>
    let step := runTargets tools o marker targets.length 1 w targets
    let head := [rule, .out "FromSuper Conversion Generator", rule]
    let foot :=
      [.out "", rule, .out (if step.failed then "Generation failed" else "Generation complete"),
        rule]
    let lines := head ++ step.lines ++ if step.ended then [] else foot
    ⟨if step.failed then 1 else 0, lines, step.workspace⟩

end Narrowing.CommandLine
