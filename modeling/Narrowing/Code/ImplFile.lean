import Narrowing.Code.FunctionModule
import Narrowing.Code.Impl

/-!
# Files of conversion impls

For Rust the conversions of one file are emitted as a file that is meant to be
included: a header, the import lines, and for every conversion its impl, behind
its error struct if it is fallible.

## Main definitions

* `ImplFile.text` — the source text of the file
-/

namespace Narrowing.Code.ImplFile

/-- The header of the file. -/
def header (s : FileSettings) : String :=
  let imports := if s.imports.isEmpty then "" else "\n" ++ "\n".intercalate s.imports ++ "\n"
  FunctionModule.unlines (["// AUTO-GENERATED by fromsuper", "// DO NOT EDIT MANUALLY"]
    ++ s.labelLines "//") ++ imports

/-- The sections of one conversion. -/
def sections (c : Conversion) : List String :=
  (if c.isFallible then [errorText c] else []) ++ [(Impl.ofConversion c).text]

/-- The source text of the file. -/
def text (s : FileSettings) (cs : List Conversion) : String :=
  "\n".intercalate (header s :: cs.flatMap sections)

end Narrowing.Code.ImplFile
