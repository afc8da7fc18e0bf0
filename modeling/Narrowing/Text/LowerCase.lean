import Narrowing.Text.CaseTable

/-!
# Lower case

The lower-case form of a text. Each character is mapped by itself, except the
capital sigma, whose form depends on whether it ends a word, and the dotted
capital I, which becomes two code points.

## Main definitions

* `lowerChar` — the lower-case form of one character, out of context
* `endsWord` — the context in which a capital sigma takes its final form
* `lower` — the lower-case form of a text
-/

namespace Narrowing.Text

/-- The lower-case form of one character, out of context. -/
def lowerChar (c : Char) : Char :=
  if c.toNat < 0x80 then c.toLower
  else
    match lowerCaseRuns.findSome? (·.image? c.toNat) with
    | some n => Char.ofNat n
    | none => c

/-- The nearest character that is not passed over has letter case. -/
def nextIsCased (s : List Char) : Bool :=
  match s.dropWhile caseIgnorableRanges.contains with
  | [] => false
  | c :: _ => casedRanges.contains c

/-- The position ends a word: a cased character stands before it and none after it, those
passed over aside. The text before is given in reverse. -/
def endsWord (before after : List Char) : Bool := nextIsCased before && !nextIsCased after

/-- The lower-case form of a text whose earlier characters, in reverse, are `before`. -/
def lowerFrom (before : List Char) : List Char → List Char
  | [] => []
  | c :: r =>
    (if c = 'Σ' then [if endsWord before r then 'ς' else 'σ']
     else if c = 'İ' then ['i', '\u0307']
     else [lowerChar c]) ++ lowerFrom (c :: before) r

/-- The lower-case form of a text. -/
def lower (s : List Char) : List Char := lowerFrom [] s

end Narrowing.Text
