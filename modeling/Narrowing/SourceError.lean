import Narrowing.Location

/-!
# Unreadable sources

Why a source file cannot be read as declarations. Such a problem concerns the
whole file: no declaration of it is used.

## Main definitions

* `SourceError` — the causes
* `SourceError.message` — their wording
* `Complaint` — what a compiler says of a text that it refuses
-/

namespace Narrowing

/-- What a compiler says of a text that it refuses: the line, if it has one, and the reason. -/
structure Complaint where
  line : Option Nat
  reason : String
deriving DecidableEq, Repr, Inhabited

/-- A complaint that says no more than that the text is refused. -/
def Complaint.plain : Complaint := ⟨none, "invalid syntax"⟩

/-- A cause that keeps a source file from being read as declarations. -/
inductive SourceError where
  /-- The text of a module is refused. -/
  | malformedModule (path : Option String) (complaint : Complaint)
  /-- The text of a file of structs is not written in the language. -/
  | malformedFile (location : Location)
  /-- A class inside another statement is marked. -/
  | innerClass (name marker : String) (location : Location)
  /-- An annotated field type has no type in its brackets. -/
  | emptyHint
  /-- A struct inside a module block is marked. -/
  | innerStruct (name marker : String) (location : Location)
  /-- A struct without named fields is marked. -/
  | unnamedFields (name marker : String) (location : Location)
deriving DecidableEq, Repr, Inhabited

namespace SourceError

/-- The wording of a cause. -/
def message : SourceError → String
  | malformedModule path complaint =>
    let line := (complaint.line.map toString).getD "None"
    s!"{Location.pathText path}:{line}: {complaint.reason}"
  | malformedFile location => s!"{location.text}: Rust syntax error"
  | innerClass name marker location =>
    s!"{location.text}: class {name} is marked with @{marker} but is not defined at module level"
  | emptyHint => "list index out of range"
  | innerStruct name marker location =>
    s!"{location.text}: struct {name} is marked with #[{marker}] inside a module; "
      ++ "only top-level structs are supported"
  | unnamedFields name marker location =>
    s!"{location.text}: struct {name} is marked with #[{marker}] but has no named fields"

end SourceError

end Narrowing
