/-!
# Paths

A path is kept as its parts: empty parts and the part `.` say nothing and are
dropped, while `..` is kept, since what it leads to depends on the file tree.

## Main definitions

* `Path` — a path in normal form
* `Path.ofText`, `Path.text` — reading and spelling
* `Path.under` — a path seen from a directory
* `Path.name`, `Path.suffix` — the last part and its ending
-/

namespace Narrowing

/-- Where a path starts. Exactly two slashes at its front are kept apart from one. -/
inductive Path.Anchor where
  | here
  | root
  | doubleRoot
deriving DecidableEq, Repr, Inhabited

/-- A path in normal form. -/
structure Path where
  anchor : Path.Anchor := .here
  parts : List String := []
deriving DecidableEq, Repr, Inhabited

namespace Path

/-- The spelling of a start. -/
def Anchor.text : Anchor → String
  | here => ""
  | root => "/"
  | doubleRoot => "//"

/-- The start of a text. -/
def anchorOf (s : List Char) : Anchor :=
  match s with
  | '/' :: '/' :: '/' :: _ => .root
  | '/' :: '/' :: _ => .doubleRoot
  | '/' :: _ => .root
  | _ => .here

/-- The pieces of a text between slashes. -/
def pieces : List Char → List (List Char)
  | [] => [[]]
  | c :: r =>
    if c = '/' then [] :: pieces r
    else
      match pieces r with
      | [] => [[c]]
      | p :: ps => (c :: p) :: ps

/-- The path that a text spells. -/
def ofText (s : String) : Path :=
  ⟨anchorOf s.toList,
    ((pieces s.toList).filter fun p => p ≠ [] ∧ p ≠ ['.']).map String.ofList⟩

/-- The spelling of a path. -/
def text (p : Path) : String :=
  if p.anchor = .here ∧ p.parts = [] then "." else p.anchor.text ++ "/".intercalate p.parts

/-- The path starts at the root. -/
def isAbsolute (p : Path) : Bool := p.anchor != .here

/-- A path seen from a directory: one that starts at the root stays what it is. -/
def under (directory p : Path) : Path :=
  if p.isAbsolute then p else { directory with parts := directory.parts ++ p.parts }

/-- The directory that holds what a path leads to. -/
def parent (p : Path) : Path := { p with parts := p.parts.dropLast }

/-- The last part of a path. -/
def name (p : Path) : String := p.parts.getLastD ""

/-- The ending of the last part from its last point on. A point at its front or its end makes
no ending. -/
def suffix (p : Path) : String :=
  let name := p.name.toList
  let ending := (name.reverse.takeWhile (· != '.')).reverse
  if ending.isEmpty ∨ name.length ≤ ending.length + 1 then ""
  else String.ofList ('.' :: ending)

@[simp] theorem under_of_isAbsolute {directory p : Path} (h : p.isAbsolute = true) :
    under directory p = p := by simp [under, h]

end Path

end Narrowing
