import Narrowing.Config.Target
import Narrowing.Workspace
import Narrowing.Yaml.Reader

/-!
# Configurations

A project is configured by a file at its root that names the marker and lists
targets. Every key is optional, and a project without the file is configured by a
default text. Texts are read by the YAML reader that is given.

## Main definitions

* `Config` — a marker and targets
* `Config.Fault` — why a configuration cannot be used
* `Config.ofValue`, `Config.ofText` — the configuration that a document or a text describes
* `Config.load` — the configuration of a project
-/

namespace Narrowing

/-- The configuration of a project, and the file it was read from. -/
structure Config where
  marker : String := "fromsuper"
  targets : List Target := []
  path : Option Path := none
deriving DecidableEq, Repr, Inhabited

namespace Config

/-- The name of the configuration file at the root of a project. -/
def fileName : String := "fromsuper.yaml"

/-- Why a configuration cannot be used. -/
inductive Fault where
  | absent (path : Path)
  | unreadable (fault : TextFault)
  /-- The text is no document. -/
  | document (fault : Yaml.Fault)
  | noMapping (path : Option Path)
  | targetsNoList
  | target (index : Nat) (fault : Target.Fault)
deriving DecidableEq, Repr, Inhabited

/-- The wording of a fault. -/
def Fault.message : Fault → String
  | absent path => s!"Config file {path.text} does not exist"
  | unreadable fault => fault.message
  | document fault => fault.text
  | noMapping path =>
    (path.map Path.text).getD "None" ++ " must contain a mapping at the top level"
  | targetsNoList => "'targets' must be a list"
  | target index fault => fault.message index

/-- The fault is none that loading a configuration is expected to have. -/
def Fault.isUnexpected : Fault → Bool
  | unreadable (.file _) | document _ => true
  | _ => false

/-- The targets that the entries of a list describe, the first one being number `index`. -/
def targetsFrom (root : Path) (index : Nat) : List Value → Except Fault (List Target)
  | [] => .ok []
  | v :: rest => do
    let t ← (Target.ofValue root v).mapError (.target index)
    return t :: (← targetsFrom root (index + 1) rest)

/-- The marker that a document names. -/
def markerOf (entries : List (Value × Value)) : String :=
  match Value.valueAt? "marker" entries with
  | some v => v.shown
  | none => "fromsuper"

/-- The list under the key `targets`; nothing at all lists no targets. -/
def targetValues (entries : List (Value × Value)) : Except Fault (List Value) :=
  match (Value.valueAt? "targets" entries).getD .null with
  | .null => .ok []
  | .list values => .ok values
  | _ => .error .targetsNoList

/-- The configuration that a document describes. An empty document describes the default one. -/
def ofValue (root : Path) (path : Option Path) (document : Value) : Except Fault Config :=
  if document.isEmpty then .ok { path }
  else
    match document with
    | .mapping entries => do
      let targets ← targetsFrom root 0 (← targetValues entries)
      return { marker := markerOf entries, targets, path }
    | _ => .error (.noMapping path)

/-- The text that configures a project without a configuration file. -/
def defaultText : String := "\nmarker: fromsuper\ntargets: []\n"

/-- The configuration that a text describes. -/
def ofText (yaml : Yaml.Reader) (root : Path) (path : Option Path) (text : String) :
    Except Fault Config := do
  let document ← (yaml text).mapError .document
  ofValue root path document

/-- The configuration of the project with the given root: that in the given file, or else that
in the file at the root if there is one. -/
def load (yaml : Yaml.Reader) (w : Workspace) (root : Path) (file : Option String) :
    Except Fault Config :=
  let given := file.filter (· ≠ "")
  let path :=
    match given with
    | some file => .ofText file
    | none => root.under (.ofText fileName)
  if w.isPresent path then do
    let text ← (w.readLines path).mapError .unreadable
    ofText yaml root path text
  else if given.isSome then .error (.absent path)
  else ofText yaml root none defaultText

end Config

end Narrowing
