import Narrowing.Conversion

/-!
# Lifetimes of a source

A bound argument of a source may name lifetimes. Those that the target does not
declare have to be declared by the emitted impl, the static one aside.

## Main definitions

* `lifetimesIn` — the lifetimes that a text names, in order
* `extraLifetimes` — the lifetimes that an impl adds for its source
-/

namespace Narrowing.Code

open Text

/-- The lifetimes that a text names: a quote and an identifier that no further quote closes
into a character literal. -/
def lifetimesIn : List Char → List (List Char)
  | [] => []
  | c :: r =>
    if c = '\'' ∧ r.head?.any isNameStart ∧ (r.dropWhile isNameChar).head? ≠ some '\'' then
      (c :: r.takeWhile isNameChar) :: lifetimesIn r
    else lifetimesIn r

/-- The lifetimes named in the bound arguments of a source, in order. -/
def boundLifetimes (source : Reference) : List String :=
  source.args.flatMap fun
    | .free _ => []
    | .bound text => (lifetimesIn text.toList).map String.ofList

/-- The names that are neither static nor among those already known, each at its first
place. -/
def undeclared (known : List String) : List String → List String
  | [] => []
  | name :: rest =>
    if name = "'static" ∨ name ∈ known then undeclared known rest
    else name :: undeclared (name :: known) rest

/-- The lifetimes that the source of a conversion names and its target does not declare. -/
def extraLifetimes (c : Conversion) : List String :=
  undeclared c.target.lifetimes (boundLifetimes c.source)

end Narrowing.Code
