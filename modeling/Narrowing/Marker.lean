import Narrowing.Value

/-!
# Markers at run time

What a marker does when the module that holds it runs: nothing. It keeps its
options for display, and applied to a class it gives that class back.

## Main definitions

* `Marker` — a marker with its options
* `Marker.text` — its display
* `Marker.apply` — what it does to a class
-/

namespace Narrowing

/-- A marker with its options, in written order. -/
structure Marker where
  options : KeyedList Value := []
deriving Repr, Inhabited

namespace Marker

/-- The display of a marker. -/
def text (m : Marker) : String :=
  let options := m.options.map fun (key, value) => s!"{key}={value.written}"
  "fromsuper(" ++ ", ".intercalate options ++ ")"

/-- A marker gives the class that it is applied to. -/
def apply {α : Type} (_ : Marker) (subject : α) : α := subject

/-- Marking something: a class that is given is given back, else a marker is made of the
options. -/
def mark {α : Type} (subject : Option α) (options : KeyedList Value) : Marker ⊕ α :=
  match subject with
  | some subject => .inr subject
  | none => .inl ⟨options⟩

end Marker

end Narrowing
