import Narrowing.Conversion

/-!
# Reports on many declarations

Declarations are generated independently of each other: each one gives either a
conversion or a diagnostic.

## Main definitions

* `Report` — the conversions and the diagnostics of a batch, each in order
* `Report.ofDeclarations` — the report on a list of declarations
* `Report.append` — one running report out of two
-/

namespace Narrowing

/-- The outcome of a batch: conversions for the declarations that succeeded and diagnostics
for the others, each in declaration order. -/
structure Report where
  conversions : List Conversion := []
  diagnostics : List Diagnostic := []
deriving DecidableEq, Repr, Inhabited

namespace Report

/-- Every declaration succeeded. -/
def ok (r : Report) : Bool := r.diagnostics.isEmpty

/-- One report followed by another. -/
def append (first second : Report) : Report :=
  ⟨first.conversions ++ second.conversions, first.diagnostics ++ second.diagnostics⟩

/-- The report on one declaration. A declaration's request is always resolved before its last
stage, so the third case does not arise. -/
def ofDeclaration (d : Declaration) : Report :=
  match d.generate with
  | .ok c => { conversions := [c] }
  | .error (.rejected diagnostic) => { diagnostics := [diagnostic] }
  | .error (.unresolved _) => {}

/-- The report on a list of declarations. -/
def ofDeclarations (ds : List Declaration) : Report :=
  ds.foldr (fun d rest => (ofDeclaration d).append rest) {}

end Report

end Narrowing
