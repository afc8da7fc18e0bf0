import Narrowing.Text.Blank

/-!
# Markers on a declaration

A struct, a class or a field takes part when a marker is attached to it. The
options may be spread over several markers.

## Main definitions

* `directiveOf` — the directive text of all markers attached to one declaration
-/

namespace Narrowing

/-- The directive text of the markers attached to one declaration, each given by its option
text; a bare marker has none. Nothing is said by no markers at all, while bare ones say the
empty text. -/
def directiveOf (markers : List (Option String)) : Option String :=
  if markers.isEmpty then none
  else
    let texts := (markers.filterMap id).filter fun text => !Text.allBlank text.toList
    some (", ".intercalate texts)

/-- A declaration has a directive text exactly when a marker is attached to it. -/
theorem directiveOf_eq_none_iff (markers : List (Option String)) :
    directiveOf markers = none ↔ markers = [] := by
  unfold directiveOf
  split <;> simp_all

end Narrowing
