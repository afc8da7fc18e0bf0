/-!
# Source references

The record type that a conversion reads from: a possibly qualified name and its
generic arguments. A free argument names a parameter that stays generic in the
emitted code; a bound argument is a type expression that is copied as it is
written and never looked into.

## Main definitions

* `Argument` — one generic argument
* `Reference` — a name and its arguments
* `Reference.spell`, `Reference.spellMarked` — its spellings in a pair of brackets
* `Reference.shortName` — the last segment of its name
-/

namespace Narrowing

/-- One generic argument of a source. -/
inductive Argument where
  | free (name : String)
  | bound (text : String)
deriving DecidableEq, Repr, Inhabited

namespace Argument

/-- The text of an argument, free or bound. -/
def value : Argument → String
  | free name => name
  | bound text => text

/-- The argument stays generic. -/
def isFree : Argument → Bool
  | free _ => true
  | bound _ => false

/-- The name of a free argument. -/
def freeName? : Argument → Option String
  | free name => some name
  | bound _ => none

/-- The argument as it is written in a directive: a free one behind its marker. -/
def marked : Argument → String
  | free name => s!"#{name}"
  | bound text => text

end Argument

/-- The two bracket pairs that may enclose an argument list. -/
inductive Brackets where
  | angle
  | square
deriving DecidableEq, Repr, Inhabited

namespace Brackets

/-- The opening bracket. -/
def opener : Brackets → Char
  | angle => '<'
  | square => '['

/-- The closing bracket. -/
def closer : Brackets → Char
  | angle => '>'
  | square => ']'

end Brackets

/-- A source record type: its name and its generic arguments. -/
structure Reference where
  name : String
  args : List Argument := []
deriving DecidableEq, Repr, Inhabited

namespace Reference

/-- The names of the free arguments, in argument order. -/
def freeParams (r : Reference) : List String := r.args.filterMap Argument.freeName?

/-- A name followed by argument texts in brackets, or the name alone. -/
def spellWith (brackets : Brackets) (name : String) (args : List String) : String :=
  if args.isEmpty then name
  else
    let joined := ", ".intercalate args
    name ++ String.singleton brackets.opener ++ joined ++ String.singleton brackets.closer

/-- The spelling of a reference as a type. -/
def spell (r : Reference) (brackets : Brackets) : String :=
  spellWith brackets r.name (r.args.map Argument.value)

/-- The spelling of a reference in a directive, with its free arguments marked. -/
def spellMarked (r : Reference) (brackets : Brackets) : String :=
  spellWith brackets r.name (r.args.map Argument.marked)

/-- The spelling of a reference in messages. -/
def text (r : Reference) : String := r.spell .angle

/-- The segments of a qualified name, which a dot or a double colon separates. -/
def nameSegments : List Char → List (List Char)
  | [] => [[]]
  | ':' :: ':' :: r => [] :: nameSegments r
  | '.' :: r => [] :: nameSegments r
  | c :: r =>
    match nameSegments r with
    | [] => [[c]]
    | s :: ss => (c :: s) :: ss

/-- The last segment of the name. -/
def shortName (r : Reference) : String :=
  String.ofList ((nameSegments r.name.toList).getLastD [])

end Reference

end Narrowing
