/-!
# ASCII identifiers

Option names, field names and the segments of type names inside a directive are
ASCII identifiers, whatever the host language would allow.

## Main definitions

* `isNameStart`, `isNameChar` — the characters of an identifier
* `isIdentifier` — the whole text is one identifier
-/

namespace Narrowing.Text

/-- A character that may begin an identifier: an ASCII letter or an underscore. -/
def isNameStart (c : Char) : Bool := c.isAlpha || c == '_'

/-- A character that may continue an identifier: an ASCII letter, digit or underscore. -/
def isNameChar (c : Char) : Bool := c.isAlphanum || c == '_'

/-- The whole text is one ASCII identifier. -/
def isIdentifier : List Char → Bool
  | [] => false
  | c :: r => isNameStart c && r.all isNameChar

theorem isNameChar_of_isNameStart {c : Char} (h : isNameStart c = true) :
    isNameChar c = true := by
  simp only [isNameStart, isNameChar, Char.isAlphanum, Bool.or_eq_true] at *
  rcases h with h | h
  · exact .inl (.inl h)
  · exact .inr h

end Narrowing.Text
