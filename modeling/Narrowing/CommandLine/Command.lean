import Narrowing.CommandLine.Arguments
import Narrowing.Language

/-!
# Commands

The program has two commands: one generates files, the other shows how the
marked schemas of a file are resolved.

## Main definitions

* `GenerateOptions`, `InspectOptions` — what the two commands are told
* `Command` — a command with its options
* `Command.ofArguments` — the command that a command line gives
-/

namespace Narrowing.CommandLine

/-- What the generating command is told. -/
structure GenerateOptions where
  input : Option String := none
  output : Option String := none
  config : Option String := none
  projectRoot : Option String := none
  language : Option Language := none
  marker : Option String := none
  imports : List String := []
  checkOnly : Bool := false
  verbose : Bool := false
deriving DecidableEq, Repr, Inhabited

/-- What the showing command is told. -/
structure InspectOptions where
  input : String
  language : Option Language := none
  marker : String := "fromsuper"
  verbose : Bool := false
deriving DecidableEq, Repr, Inhabited

/-- A command with its options. -/
inductive Command where
  | help
  | generate (options : GenerateOptions)
  | inspect (options : InspectOptions)
deriving DecidableEq, Repr, Inhabited

/-- A command line that gives no command: the program or command that refuses it, and why. -/
structure UsageError where
  program : String
  fault : UsageFault
deriving DecidableEq, Repr, Inhabited

/-- The line that reports a refused command line. -/
def UsageError.line (e : UsageError) : String := s!"{e.program}: error: {e.fault.message}"

/-! ## Grammars -/

/-- The name of the program. -/
def programName : String := "fromsuper"

/-- The switch that asks for help. -/
def helpSwitch : Switch := { names := ["-h", "--help"] }

/-- The switches of both commands. -/
def commonSwitches : List Switch := [helpSwitch, { names := ["--verbose", "-v"] }]

/-- The switch that names a language. -/
def languageSwitch : Switch :=
  { names := ["--language"], takesValue := true, choices := Language.all.map Language.name }

/-- A switch with a free value. -/
def valueSwitch (name : String) : Switch := { names := [name], takesValue := true }

/-- What the program accepts: a command and what belongs to it. -/
def programGrammar : Grammar :=
  { program := programName
    switches := [helpSwitch]
    operands := [{ name := "command", arity := .rest, choices := ["generate", "inspect"] }] }

/-- What the generating command accepts. -/
def generateGrammar : Grammar :=
  { program := programName ++ " generate"
    switches := commonSwitches ++ [valueSwitch "--config", valueSwitch "--project-root",
      languageSwitch, valueSwitch "--marker", valueSwitch "--import",
      { names := ["--check-only"] }]
    operands := [⟨"input", .atMostOne, []⟩, ⟨"output", .atMostOne, []⟩] }

/-- What the showing command accepts. -/
def inspectGrammar : Grammar :=
  { program := programName ++ " inspect"
    switches := commonSwitches ++ [languageSwitch, valueSwitch "--marker"]
    operands := [{ name := "input" }] }

/-- Sorts words by a grammar. -/
def sortBy (g : Grammar) (args : List String) : Except UsageError Sorted :=
  (g.sort args).mapError (⟨g.program, ·⟩)

/-! ## Commands -/

/-- The language that was given. -/
def languageGiven (s : Sorted) : Option Language := (s.value? "--language").bind Language.ofName?

/-- The options of the generating command. -/
def GenerateOptions.ofSorted (s : Sorted) : GenerateOptions :=
  { input := s.value? "input"
    output := s.value? "output"
    config := s.value? "--config"
    projectRoot := s.value? "--project-root"
    language := languageGiven s
    marker := s.value? "--marker"
    imports := s.values "--import"
    checkOnly := s.has "--check-only"
    verbose := s.has "--verbose" }

/-- The options of the showing command. -/
def InspectOptions.ofSorted (s : Sorted) : InspectOptions :=
  { input := (s.value? "input").getD ""
    language := languageGiven s
    marker := (s.value? "--marker").getD "fromsuper"
    verbose := s.has "--verbose" }

/-- The command that a command line gives. Words that neither the program nor the command knows
are refused by the program. -/
def Command.ofArguments (args : List String) : Except UsageError Command := do
  let s ← sortBy programGrammar args
  if s.has helpSwitch.key then return .help
  else
    match s.values "command" with
    | [] => .error ⟨programName, .missing ["command"]⟩
    | name :: rest =>
      let generates := name == "generate"
      let inner ← sortBy (if generates then generateGrammar else inspectGrammar) rest
      let extras := s.extras ++ inner.extras
      if inner.has helpSwitch.key then return .help
      else if extras ≠ [] then .error ⟨programName, .unrecognized extras⟩
      else if generates then return .generate (.ofSorted inner)
      else return .inspect (.ofSorted inner)

end Narrowing.CommandLine
