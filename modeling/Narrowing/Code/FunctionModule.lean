import Narrowing.Code.Function

/-!
# Modules of conversion functions

For Python the conversions of one file are emitted as a module: a header, the
imports, the type variables that the signatures use, the export list and the
functions.

## Main definitions

* `FunctionModule.typeVariables` — the type variables of the module
* `FunctionModule.exports` — the exported function names
* `FunctionModule.text` — its source text
-/

namespace Narrowing.Code

/-- The settings of an emitted file: the import lines it starts with, and the name of the file
that its declarations come from. -/
structure FileSettings where
  imports : List String := []
  label : Option String := none
deriving DecidableEq, Repr, Inhabited

namespace FileSettings

/-- The header line that names the file of the declarations, if there is a name. -/
def labelLines (s : FileSettings) (comment : String) : List String :=
  match s.label with
  | none => []
  | some label => if label = "" then [] else [s!"{comment} Source: {label}"]

end FileSettings

namespace FunctionModule

/-- The names that are not among those already seen, each at its first place. -/
def distinct (seen : List String) : List String → List String
  | [] => []
  | name :: rest =>
    if name ∈ seen then distinct seen rest else name :: distinct (name :: seen) rest

/-- The type variables of the module: the generic parameters of its targets, in order of first
declaration. -/
def typeVariables (cs : List Conversion) : List String :=
  distinct [] (cs.flatMap fun c => c.target.params)

/-- The exported function names, in order. -/
def exports (cs : List Conversion) : List String := cs.map functionName

/-- Every line followed by a line break. -/
def unlines (lines : List String) : String := String.join (lines.map fun line => line ++ "\n")

/-- The header of the module. -/
def header (s : FileSettings) : String :=
  unlines (["# AUTO-GENERATED by fromsuper", "# DO NOT EDIT MANUALLY"]
    ++ s.labelLines "#"
    ++ ["\"\"\"Conversions generated from fromsuper directives.\"\"\"", "",
      "from __future__ import annotations"])

/-- Some conversion has generic parameters, so type variables are needed. -/
def needsTypeVariables (cs : List Conversion) : Bool := cs.any fun c => !c.target.params.isEmpty

/-- Some conversion is fallible, so the missing field error is needed. -/
def needsMissingField (cs : List Conversion) : Bool := cs.any Conversion.isFallible

/-- The groups of import lines; a blank line stands between two groups. -/
def importGroups (s : FileSettings) (cs : List Conversion) : List (List String) :=
  (if needsTypeVariables cs then [["from typing import TypeVar"]] else [])
    ++ (if needsMissingField cs then [["from fromsuper.runtime import MissingFieldError"]] else [])
    ++ (if s.imports.isEmpty then [] else [s.imports])

/-- The import section of the module. -/
def importSection (s : FileSettings) (cs : List Conversion) : String :=
  match importGroups s cs with
  | [] => ""
  | groups => "\n" ++ unlines ([""].intercalate groups)

/-- The declarations of the type variables. -/
def typeVariableSection (cs : List Conversion) : List String :=
  match typeVariables cs with
  | [] => []
  | names => [unlines (names.map fun name => s!"{name} = TypeVar(\"{name}\")")]

/-- The export list of the module. -/
def exportSection (cs : List Conversion) : String :=
  unlines (["__all__ = ["] ++ (exports cs).map (fun name => s!"    \"{name}\",") ++ ["]"])

/-- The source text of the module. -/
def text (s : FileSettings) (cs : List Conversion) : String :=
  "\n\n".intercalate
    ([header s ++ importSection s cs] ++ typeVariableSection cs ++ [exportSection cs]
      ++ cs.map fun c => (Function.ofConversion c).text)

end FunctionModule

end Narrowing.Code
