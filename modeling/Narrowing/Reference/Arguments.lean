/-!
# Argument lists

An argument list is cut at the commas that stand outside all brackets. Three
kinds of bracket nest freely; the `>` of an arrow `->` is not a bracket.

## Main definitions

* `closerOf?` — the bracket that closes an opening one
* `splitArguments` — the pieces between the outer commas, if the brackets balance
-/

namespace Narrowing.Reference

/-- The bracket that closes an opening one. -/
def closerOf? : Char → Option Char
  | '<' => some '>'
  | '[' => some ']'
  | '(' => some ')'
  | _ => none

/-- A closing bracket. -/
def isCloser (c : Char) : Bool := c == '>' || c == ']' || c == ')'

/-- The pieces with a character added in front of the first. -/
def consFirst (c : Char) : List (List Char) → List (List Char)
  | [] => [[c]]
  | piece :: pieces => (c :: piece) :: pieces

/-- The pieces of the rest of an argument list: `previous` is the character before it, and
`pending` are the closing brackets that are still awaited, the next one first. -/
def splitFrom (pending : List Char) (previous : Option Char) :
    List Char → Option (List (List Char))
  | [] => if pending.isEmpty then some [[]] else none
  | c :: r =>
    match closerOf? c with
    | some closer => (splitFrom (closer :: pending) (some c) r).map (consFirst c)
    | none =>
      if isCloser c ∧ ¬ (c = '>' ∧ previous = some '-') then
        match pending with
        | [] => none
        | awaited :: pending =>
          if awaited = c then (splitFrom pending (some c) r).map (consFirst c) else none
      else if c = ',' ∧ pending = [] then (splitFrom pending (some c) r).map ([] :: ·)
      else (splitFrom pending (some c) r).map (consFirst c)

/-- The pieces between the outer commas of an argument list, or nothing when its brackets do
not balance. -/
def splitArguments (inner : List Char) : Option (List (List Char)) := splitFrom [] none inner

end Narrowing.Reference
