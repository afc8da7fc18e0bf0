import Narrowing.Text.Printable

/-!
# Quoted display of a text

How a text is shown inside a message or as a literal: between quotes, with
escapes for the quote in use, the backslash and every character that has no
visible form. Single quotes are used unless the text holds a single quote and no
double one.

## Main definitions

* `isPrintable` — a character with a visible form, or the space
* `escapeChar` — the written form of one character
* `quoted` — the written form of a text
-/

namespace Narrowing.Text

/-- A character with a visible form, or the space. -/
def isPrintable (c : Char) : Bool := !unprintableRanges.contains c

/-- The lowest `width` hexadecimal digits of `n`, the most significant first. -/
def hexDigits : Nat → Nat → List Char
  | 0, _ => []
  | width + 1, n => hexDigits width (n / 16) ++ [Nat.digitChar (n % 16)]

/-- The quote that encloses the text: the single one, unless the text holds a single quote
and no double one. -/
def quoteFor (s : List Char) : Char :=
  if s.contains '\'' && !s.contains '"' then '"' else '\''

/-- The numeric escape of a character: two, four or eight hexadecimal digits. -/
def numericEscape (c : Char) : List Char :=
  let n := c.toNat
  if n < 0x100 then '\\' :: 'x' :: hexDigits 2 n
  else if n < 0x10000 then '\\' :: 'u' :: hexDigits 4 n
  else '\\' :: 'U' :: hexDigits 8 n

/-- The written form of one character between two quotes `q`. -/
def escapeChar (q c : Char) : List Char :=
  if c = q ∨ c = '\\' then ['\\', c]
  else if c = '\n' then ['\\', 'n']
  else if c = '\r' then ['\\', 'r']
  else if c = '\t' then ['\\', 't']
  else if isPrintable c then [c]
  else numericEscape c

/-- The written form of a list of characters, quotes included. -/
def quotedChars (s : List Char) : List Char :=
  let q := quoteFor s
  q :: s.flatMap (escapeChar q) ++ [q]

/-- The written form of a text, quotes included. -/
def quoted (s : String) : String := String.ofList (quotedChars s.toList)

end Narrowing.Text
