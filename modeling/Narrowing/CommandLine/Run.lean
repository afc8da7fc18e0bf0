import Narrowing.CommandLine.Generate
import Narrowing.CommandLine.Inspect

/-!
# The program

## Main definitions

* `run` — what a command line does to a workspace
-/

namespace Narrowing.CommandLine

/-- What a command does to a workspace. -/
def Command.run (tools : Tools) (w : Workspace) : Command → Outcome
  | help => ⟨0, [.out s!"usage: {programName} [-h] generate|inspect ..."], w⟩
  | generate options => options.run tools w
  | inspect options => options.run tools w

/-- What a command line does to a workspace. One that gives no command is refused. -/
def run (tools : Tools) (w : Workspace) (args : List String) : Outcome :=
  match Command.ofArguments args with
  | .error e => ⟨2, [.err e.line], w⟩
  | .ok command => command.run tools w

end Narrowing.CommandLine
