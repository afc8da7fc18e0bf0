/-!
# Blank characters

Which characters separate words, and the operations on texts that depend on it.
Directive texts, references and clause texts are all read up to blanks, so the
one class `isBlank` is shared by the whole library.

## Main definitions

* `isBlank` — the white space of Unicode and the four information separators
* `strip` — a text without the blanks at its two ends
* `words` — the maximal runs of non-blank characters
* `joinWords` — the words of a text joined by single spaces
-/

namespace Narrowing.Text

/-- The blank characters: the white space of Unicode together with the four
information separators U+001C to U+001F. -/
def isBlank (c : Char) : Bool :=
  let n := c.toNat
  (9 ≤ n && n ≤ 13) || (28 ≤ n && n ≤ 32) || n == 0x85 || n == 0xA0 || n == 0x1680
    || (0x2000 ≤ n && n ≤ 0x200A) || n == 0x2028 || n == 0x2029 || n == 0x202F
    || n == 0x205F || n == 0x3000

/-- A text is blank when every character of it is. -/
def allBlank (s : List Char) : Bool := s.all isBlank

/-- The text without its leading blanks. -/
def stripLeft (s : List Char) : List Char := s.dropWhile isBlank

/-- The text without its trailing blanks. -/
def stripRight (s : List Char) : List Char := (s.reverse.dropWhile isBlank).reverse

/-- The text without the blanks at its two ends. -/
def strip (s : List Char) : List Char := stripRight (stripLeft s)

/-- The string without the blanks at its two ends. -/
def trim (s : String) : String := String.ofList (strip s.toList)

/-- The maximal runs of non-blank characters, in order. -/
def words : List Char → List (List Char)
  | [] => []
  | [c] => if isBlank c then [] else [[c]]
  | c :: d :: r =>
    if isBlank c then words (d :: r)
    else if isBlank d then [c] :: words (d :: r)
    else
      match words (d :: r) with
      | [] => [[c]]
      | w :: ws => (c :: w) :: ws

/-- The words of a text joined by single spaces. -/
def joinWords (s : List Char) : List Char := [' '].intercalate (words s)

@[simp] theorem strip_nil : strip [] = [] := rfl

@[simp] theorem words_nil : words [] = [] := rfl

end Narrowing.Text
