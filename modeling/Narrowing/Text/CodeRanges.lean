/-!
# Classes of characters given by ranges

A Unicode property is a table of closed ranges of code points, in increasing
order, and a mapping of single code points one of runs of them. The tables
themselves live in modules of their own.

## Main definitions

* `CodeRanges` — a table of closed ranges
* `CodeRanges.contains` — membership of a character
* `CodeRun` — a run of code points that are mapped to others
-/

namespace Narrowing.Text

/-- A table of closed ranges of code points. -/
abbrev CodeRanges := List (Nat × Nat)

namespace CodeRanges

/-- The character lies in one of the ranges. -/
def contains (table : CodeRanges) (c : Char) : Bool :=
  table.any fun range => range.1 ≤ c.toNat && c.toNat ≤ range.2

end CodeRanges

/-- A run of code points, every `step`-th from `first` to `last`, whose images lie `shift` code
points further on. -/
structure CodeRun where
  first : Nat
  last : Nat
  step : Nat
  shift : Int

/-- The image of a code point that the run covers. -/
def CodeRun.image? (run : CodeRun) (n : Nat) : Option Nat :=
  if run.first ≤ n ∧ n ≤ run.last ∧ (n - run.first) % run.step = 0 then
    some ((n : Int) + run.shift).toNat
  else none

end Narrowing.Text
