import Narrowing.ClassSource.Declarations
import Narrowing.Code.ImplFile
import Narrowing.Path
import Narrowing.StructSource.Declarations
import Narrowing.Tools

/-!
# Host languages

The two languages in which records are declared and conversions are emitted.

## Main definitions

* `Language` — Python or Rust
* `Language.ofPath?` — the language that the ending of a path tells
* `Language.declarations` — the declarations of a source file
* `Language.fileText` — the emitted file of a list of conversions
-/

namespace Narrowing

/-- A language in which records are declared and conversions are emitted. -/
inductive Language where
  | python
  | rust
deriving DecidableEq, Repr, Inhabited

namespace Language

/-- Every language. -/
def all : List Language := [python, rust]

/-- The name of a language. -/
def name : Language → String
  | python => "python"
  | rust => "rust"

/-- The language of that name. -/
def ofName? (s : String) : Option Language := all.find? fun l => l.name == s

/-- The endings of source files with the languages they tell, in alphabetical order. -/
def suffixes : List (String × Language) := [(".py", python), (".pyi", python), (".rs", rust)]

/-- The language that the ending of a path tells. -/
def ofPath? (p : Path) : Option Language := suffixes.lookup p.suffix

/-- The declarations of a source file whose schemas and fields the given name marks. -/
def declarations (tools : Tools) (language : Language) (path : Option String)
    (marker text : String) : Except SourceError (List Declaration) :=
  match language with
  | python => ClassSource.declarations tools.explain path marker text
  | rust => StructSource.declarations tools.rust path marker text

/-- The emitted file of a list of conversions. -/
def fileText (language : Language) (s : Code.FileSettings) (cs : List Conversion) : String :=
  match language with
  | python => Code.FunctionModule.text s cs
  | rust => Code.ImplFile.text s cs

end Language

/-- A path whose ending tells no language, as it was given. -/
structure UnknownSuffix where
  path : String
deriving DecidableEq, Repr, Inhabited

/-- The wording of an unknown ending. -/
def UnknownSuffix.message (f : UnknownSuffix) : String :=
  s!"Cannot infer language of {f.path}; expected one of: "
    ++ ", ".intercalate (Language.suffixes.map Prod.fst)

/-- A language that is not known by its name. -/
structure UnknownLanguage where
  name : String
deriving DecidableEq, Repr, Inhabited

/-- The wording of an unknown language. -/
def UnknownLanguage.message (f : UnknownLanguage) : String :=
  s!"Unknown language '{f.name}'; expected python or rust"

namespace Language

/-- The language that the ending of a path tells. -/
def infer (path : String) : Except UnknownSuffix Language :=
  match ofPath? (.ofText path) with
  | some l => .ok l
  | none => .error ⟨path⟩

/-- The language of that name. -/
def named (name : String) : Except UnknownLanguage Language :=
  match ofName? name with
  | some l => .ok l
  | none => .error ⟨name⟩

end Language

end Narrowing
