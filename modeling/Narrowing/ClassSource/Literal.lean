import Narrowing.ClassSource.Token

/-!
# String literals of Python

A string literal is plain, raw, binary or formatted. A literal that is not raw
may hold only well-formed escapes, a binary one only ASCII characters, and a
formatted one expressions in braces, which have to be expressions themselves.

## Main definitions

* `StringLiteral.ofText` — the parts of a literal
* `StringLiteral.escapesAgree` — its escapes are well formed
* `formatExpressions` — the texts of the expressions in a formatted literal
-/

namespace Narrowing.ClassSource

/-- A string literal: its prefix letters and the characters between its quotes. -/
structure StringLiteral where
  binary : Bool
  raw : Bool
  formatted : Bool
  body : List Char
deriving DecidableEq, Repr, Inhabited

/-- The text starts with that many hexadecimal digits, and these are no more than the last
code point. -/
def startsWithHex (count : Nat) (s : List Char) : Bool :=
  let digits := s.take count
  let value := digits.foldl (fun n c =>
    16 * n + (if c.isDigit then c.toNat - 48 else c.toLower.toNat - 87)) 0
  digits.length == count && digits.all isHexDigit && value ≤ 0x10FFFF

/-- The text starts with a name in braces. -/
def startsWithCharacterName (s : List Char) : Bool :=
  match s with
  | '{' :: r =>
    match r.dropWhile (· != '}') with
    | [] => false
    | _ => r.head? != some '}'
  | _ => false

/-- Every escape of a body is well formed. -/
def escapesOk (binary : Bool) : List Char → Bool
  | [] => true
  | ['\\'] => false
  | '\\' :: c :: r =>
    (match c with
      | 'x' => startsWithHex 2 r
      | 'u' => binary || startsWithHex 4 r
      | 'U' => binary || startsWithHex 8 r
      | 'N' => binary || startsWithCharacterName r
      | _ => true) && escapesOk binary r
  | _ :: r => escapesOk binary r

namespace StringLiteral

/-- The parts of a literal, given its text. -/
def ofText (text : List Char) : StringLiteral :=
  let letters := (text.takeWhile Char.isAlpha).map Char.toLower
  let quoted := text.dropWhile Char.isAlpha
  let marks :=
    match quoted with
    | a :: b :: c :: _ => if a = b ∧ b = c ∧ quoted.length ≥ 6 then 3 else 1
    | _ => 1
  { binary := letters.contains 'b', raw := letters.contains 'r'
    formatted := letters.contains 'f'
    body := (quoted.drop marks).take (quoted.length - 2 * marks) }

/-- The escapes of a literal are well formed, and a binary one holds only ASCII. -/
def escapesAgree (l : StringLiteral) : Bool :=
  (l.raw || escapesOk l.binary l.body) && (!l.binary || l.body.all fun c => c.toNat < 0x80)

end StringLiteral

/-! ## Formatted literals -/

/-- The quoted part of an expression inside a formatted literal: the quote, and whether it is
a triple one. -/
structure OpenQuote where
  quote : Char
  triple : Bool
deriving DecidableEq, Repr

/-- The first `count` characters put in front of what was taken. -/
def keepFirst (count : Nat) (s : List Char) (taken : Option (List Char × List Char)) :
    Option (List Char × List Char) :=
  taken.map fun p => (s.take count ++ p.1, p.2)

/-- The characters of an expression inside a formatted literal, and what follows it. The
expression ends outside all brackets and quotes at a brace, a colon, a conversion or a single
equals sign; it holds neither a backslash nor a comment. -/
def takeExpression (awaited : List Char) (inside : Option OpenQuote) (s : List Char) :
    Option (List Char × List Char) :=
  match s with
  | [] => none
  | c :: r =>
    let tripled : Bool := r.take 2 == [c, c]
    if c = '\\' then none
    else
      match inside with
      | some q =>
        if c = q.quote ∧ q.triple ∧ tripled then
          keepFirst 3 s (takeExpression awaited none (r.drop 2))
        else if c = q.quote ∧ ¬ q.triple then keepFirst 1 s (takeExpression awaited none r)
        else keepFirst 1 s (takeExpression awaited inside r)
      | none =>
        if (c = '\'' ∨ c = '"') ∧ tripled then
          keepFirst 3 s (takeExpression awaited (some ⟨c, true⟩) (r.drop 2))
        else if c = '\'' ∨ c = '"' then
          keepFirst 1 s (takeExpression awaited (some ⟨c, false⟩) r)
        else if c = '#' then none
        else if c = '(' then keepFirst 1 s (takeExpression (')' :: awaited) none r)
        else if c = '[' then keepFirst 1 s (takeExpression (']' :: awaited) none r)
        else if c = '\x7b' then keepFirst 1 s (takeExpression ('\x7d' :: awaited) none r)
        else if awaited.isEmpty ∧ (c = '!' ∨ c = '=' ∨ c = '<' ∨ c = '>') ∧ r.head? = some '=' then
          keepFirst 2 s (takeExpression awaited none (r.drop 1))
        else if awaited.isEmpty ∧ (c = '!' ∨ c = ':' ∨ c = '\x7d' ∨ c = '=') then some ([], s)
        else if c = ')' ∨ c = ']' ∨ c = '\x7d' then
          if awaited.head? = some c then keepFirst 1 s (takeExpression (awaited.drop 1) none r)
          else none
        else keepFirst 1 s (takeExpression awaited none r)
termination_by s.length
decreasing_by
  all_goals
    simp only [List.length_cons, List.length_drop]
    omega

/-- What follows the optional equals sign and conversion of an expression. -/
def skipConversion (s : List Char) : Option (List Char) :=
  let s :=
    match s with
    | '=' :: r => r.dropWhile fun c => c == ' ' || c == '\t' || c == '\n' || c == '\r' || c == '\x0c'
    | _ => s
  match s with
  | '!' :: c :: r => if c = 's' ∨ c = 'r' ∨ c = 'a' then some r else none
  | '!' :: _ => none
  | _ => some s

/-- The expressions in a formatted literal at the given depth, and what follows it: the outer
literal goes to the end, the format of an expression to the brace that closes it. -/
def formatParts (raw : Bool) (depth : Nat) (s : List Char) :
    Option (List (List Char) × List Char) :=
  match s with
  | [] => if depth = 0 then some ([], []) else none
  | c :: r =>
    if c = '\\' ∧ ¬ raw ∧ r.take 2 = ['N', '\x7b'] then
      formatParts raw depth ((r.dropWhile (· != '\x7d')).drop 1)
    else if c = '\\' ∧ ¬ raw ∧ r.head? ≠ some '\x7b' ∧ r.head? ≠ some '\x7d' then
      formatParts raw depth (r.drop 1)
    else if (c = '\x7b' ∨ c = '\x7d') ∧ depth = 0 ∧ r.head? = some c then
      formatParts raw depth (r.drop 1)
    else if c = '\x7d' then if depth = 0 then none else some ([], s)
    else if c = '\x7b' then
      if depth ≥ 2 then none
      else
        match takeExpression [] none r with
        | none => none
        | some (expression, rest) =>
          match skipConversion rest with
          | none => none
          | some [] => none
          | some (mark :: rest) =>
            let inner :=
              if mark = ':' then
                if _h : rest.length ≤ r.length then formatParts raw (depth + 1) rest else none
              else some ([], mark :: rest)
            match inner with
            | some (parts, '\x7d' :: after) =>
              if _h : after.length ≤ r.length then
                (formatParts raw depth after).map fun p => (expression :: parts ++ p.1, p.2)
              else none
            | _ => none
    else formatParts raw depth r
termination_by s.length
decreasing_by
  · have := (List.dropWhile_sublist (l := r) (· != '\x7d')).length_le
    simp only [List.length_cons, List.length_drop]
    omega
  all_goals
    simp only [List.length_cons, List.length_drop]
    omega

/-- The texts of the expressions in a formatted literal, or nothing when its braces do not
match. -/
def formatExpressions (l : StringLiteral) : Option (List (List Char)) :=
  (formatParts l.raw 0 l.body).map Prod.fst

end Narrowing.ClassSource
