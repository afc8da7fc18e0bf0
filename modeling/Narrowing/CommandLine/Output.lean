import Narrowing.Workspace

/-!
# What a run does

A run prints lines to two streams, ends with a code, and leaves a workspace.

## Main definitions

* `Line` — a line printed to one of the streams
* `Outcome` — what a run does
* `Outcome.printed`, `Outcome.reported` — the texts of the two streams
-/

namespace Narrowing.CommandLine

/-- A line for the output or for the stream of errors. -/
inductive Line where
  | out (text : String)
  | err (text : String)
deriving DecidableEq, Repr, Inhabited

/-- What a run does: the lines it prints in order, its code, and the workspace it leaves. -/
structure Outcome where
  code : Nat
  lines : List Line
  workspace : Workspace
deriving DecidableEq, Repr, Inhabited

/-- The text of lines, each with its line break. -/
def textOf (lines : List String) : String := String.join (lines.map (· ++ "\n"))

namespace Outcome

/-- The text of the output. -/
def printed (o : Outcome) : String :=
  textOf (o.lines.filterMap fun
    | .out text => some text
    | .err _ => none)

/-- The text of the stream of errors. -/
def reported (o : Outcome) : String :=
  textOf (o.lines.filterMap fun
    | .err text => some text
    | .out _ => none)

end Outcome

end Narrowing.CommandLine
