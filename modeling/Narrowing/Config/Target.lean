import Narrowing.Language
import Narrowing.Value

/-!
# Targets of a configuration

A target names a declaration file and the file generated from it. Relative paths
are seen from the root of the project, and the language is told by the ending of
the declaration file unless it is given.

## Main definitions

* `Target` — an input, an output, a language and lines to import
* `Target.Fault` — why an entry is no target
* `Target.ofValue` — the target that an entry describes
-/

namespace Narrowing

/-- A declaration file and the file that is generated from it. -/
structure Target where
  input : Path
  output : Path
  language : Language
  imports : List String := []
deriving DecidableEq, Repr, Inhabited

namespace Target

/-- Why an entry of the configuration is no target. -/
inductive Fault where
  | noMapping (typeName : String)
  | missing (key : String)
  | unknownSuffix (fault : UnknownSuffix)
  | unknownLanguage (name : String)
  | importsNoList
deriving DecidableEq, Repr, Inhabited

/-- The wording of a fault in the entry of the given number. -/
def Fault.message (index : Int) : Fault → String
  | noMapping typeName => s!"targets[{index}] must be a mapping, got {typeName}"
  | missing key => s!"targets[{index}] is missing '{key}'"
  | unknownSuffix fault => s!"targets[{index}]: {fault.message}"
  | unknownLanguage name =>
    s!"targets[{index}] has unknown language '{name}'; expected one of: "
      ++ ", ".intercalate (Language.all.map Language.name)
  | importsNoList => s!"targets[{index}].imports must be a list of lines"

/-- The path under a key of an entry, which must not be empty. -/
def pathUnder (root : Path) (entries : List (Value × Value)) (key : String) : Option Path :=
  match Value.valueAt? key entries with
  | none => none
  | some v => if v.isEmpty then none else some (root.under (.ofText v.shown))

/-- The language of an entry: the one it names or else the one its input tells. -/
def languageOf (entries : List (Value × Value)) (input : Path) : Except Fault Language :=
  match (Value.valueAt? "language" entries).getD .null with
  | .null => (Language.infer input.text).mapError .unknownSuffix
  | v =>
    match v with
    | .text name =>
      match Language.ofName? name with
      | some l => .ok l
      | none => .error (.unknownLanguage name)
    | _ => .error (.unknownLanguage v.shown)

/-- The lines that an entry asks to import. -/
def importsOf (entries : List (Value × Value)) : Except Fault (List String) :=
  match (Value.valueAt? "imports" entries).getD (.list []) with
  | .list lines => .ok (lines.map Value.shown)
  | _ => .error .importsNoList

/-- The target that an entry describes, its paths seen from a root. -/
def ofValue (root : Path) (v : Value) : Except Fault Target :=
  match v with
  | .mapping entries => do
    let under (key : String) : Except Fault Path :=
      match pathUnder root entries key with
      | some p => .ok p
      | none => .error (.missing key)
    let input ← under "input"
    let output ← under "output"
    let language ← languageOf entries input
    let imports ← importsOf entries
    return { input, output, language, imports }
  | v => .error (.noMapping v.typeName)

end Target

end Narrowing
