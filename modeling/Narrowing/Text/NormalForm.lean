import Narrowing.Text.NormalFormTable

/-!
# Normal forms of words

The compatibility form of a word, in which words that only look different are one. Every
character is replaced by its parts, marks that follow a character are put in the order of
their classes, and then what can be composed is composed. Hangul syllables are taken apart
and composed by their code points. ASCII texts are in normal form.

## Main definitions

* `decompose` — the parts of a character
* `orderMarks` — the marks behind each character in order
* `compose` — what can be composed is composed
* `normalForm`, `normalized` — the normal form of a word
-/

namespace Narrowing.Text

/-- The parts of a Hangul syllable. -/
def syllableParts (n : Nat) : List Nat :=
  let index := n - 0xAC00
  let tail := index % 28
  [0x1100 + index / 588, 0x1161 + index % 588 / 28] ++ if tail = 0 then [] else [0x11A7 + tail]

/-- The parts of a character of a word. -/
def decompose (c : Char) : List Char :=
  let n := c.toNat
  if n < 0x80 then [c]
  else if 0xAC00 ≤ n ∧ n < 0xD7A4 then (syllableParts n).map Char.ofNat
  else
    match compatibilityRuns.findSome? (·.image? n) with
    | some m => [Char.ofNat m]
    | none =>
      match compatibilityParts.lookup n with
      | some parts => parts.map Char.ofNat
      | none => [c]

/-- The combining class of a character; only marks have one that is not zero. -/
def combiningClass (c : Char) : Nat :=
  match combiningClasses.find? fun r => r.1 ≤ c.toNat && c.toNat ≤ r.2.1 with
  | some r => r.2.2
  | none => 0

/-- Puts a character in front of others, but behind the marks of lower classes there. -/
def insertMark (c : Char) : List Char → List Char
  | [] => [c]
  | d :: r =>
    if combiningClass d ≠ 0 ∧ combiningClass d < combiningClass c then d :: insertMark c r
    else c :: d :: r

/-- The text with the marks behind each character in the order of their classes. -/
def orderMarks : List Char → List Char
  | [] => []
  | c :: r => insertMark c (orderMarks r)

/-- The character that two others compose to. -/
def composed? (a b : Char) : Option Char :=
  let m := a.toNat
  let n := b.toNat
  if 0x1100 ≤ m ∧ m < 0x1113 ∧ 0x1161 ≤ n ∧ n < 0x1176 then
    some (Char.ofNat (0xAC00 + ((m - 0x1100) * 21 + (n - 0x1161)) * 28))
  else if 0xAC00 ≤ m ∧ m < 0xD7A4 ∧ (m - 0xAC00) % 28 = 0 ∧ 0x11A7 < n ∧ n < 0x11C3 then
    some (Char.ofNat (m + (n - 0x11A7)))
  else (compositions.find? fun p => p.1 == m && p.2.1 == n).map fun p => Char.ofNat p.2.2

/-- Composes a character with what follows. The marks that stand between and could not be
composed are given in reverse; only a mark of a higher class reaches the character across them. -/
def composeFrom (starter : Char) (between : List Char) : List Char → List Char
  | [] => starter :: between.reverse
  | c :: r =>
    let apart := between.head?.any fun d => combiningClass c ≤ combiningClass d
    match if apart then none else composed? starter c with
    | some composite => composeFrom composite between r
    | none =>
      if combiningClass c = 0 then starter :: between.reverse ++ composeFrom c [] r
      else composeFrom starter (c :: between) r

/-- The text with everything composed that can be. -/
def compose : List Char → List Char
  | [] => []
  | c :: r => composeFrom c [] r

/-- The normal form of a word. -/
def normalForm (s : List Char) : List Char := compose (orderMarks (s.flatMap decompose))

/-- A word in normal form. -/
def normalized (s : String) : String :=
  if s.toList.all (·.toNat < 0x80) then s else String.ofList (normalForm s.toList)

end Narrowing.Text
