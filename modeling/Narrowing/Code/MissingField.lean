/-!
# Missing fields

What an emitted conversion reports when an unpacked source field is empty: an
ordinary, recoverable failure that names the target field and where it was read.

## Main definitions

* `MissingField` — the report
* `MissingField.of` — the report with its defaults filled in
* `MissingField.message` — its wording
-/

namespace Narrowing.Code

/-- An unpacked source field that was empty. -/
structure MissingField where
  field : String
  sourceField : String
  source : Option String := none
deriving DecidableEq, Repr, Inhabited

namespace MissingField

/-- The report on a field: it was read from the field of its own name unless another one is
given; an empty name counts as none. -/
def of (field : String) (sourceField source : Option String) : MissingField :=
  let readFrom :=
    match sourceField with
    | none => field
    | some s => if s = "" then field else s
  ⟨field, readFrom, source⟩

/-- The wording of the report. -/
def message (m : MissingField) : String :=
  let origin :=
    match m.source with
    | none => ""
    | some s => if s = "" then "" else s!" of {s}"
  let renamed := if m.sourceField = m.field then "" else s!" (read from '{m.sourceField}')"
  s!"Field '{m.field}'{renamed} is missing: source field{origin} is None"

end MissingField

end Narrowing.Code
