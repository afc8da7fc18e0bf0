/-!
# Locations

Where a declaration was written: a file, a line and a column, both counted from
one.

## Main definitions

* `Location` — a place in a source file
* `Location.text` — its spelling in messages
-/

namespace Narrowing

/-- A place in a source file; lines and columns are counted from one. -/
structure Location where
  path : Option String := none
  line : Int
  column : Int := 1
deriving DecidableEq, Repr, Inhabited

namespace Location

/-- The file of a place in messages: a source without a path is called the input. -/
def pathText (path : Option String) : String :=
  match path with
  | none => "<input>"
  | some p => if p = "" then "<input>" else p

/-- The spelling of a place in messages. -/
def text (l : Location) : String := s!"{pathText l.path}:{l.line}:{l.column}"

end Location

end Narrowing
