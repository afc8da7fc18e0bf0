import Narrowing.Text.CodeRanges
import Narrowing.Text.Identifier
import Narrowing.Text.IdentifierTable

/-!
# Words

Identifiers in the sense of Unicode: a letter or an underscore, then letters,
digits, marks and underscores of any script.

## Main definitions

* `isWordStart`, `isWordPart` — the characters of a word
* `isWord` — a whole text is one word
-/

namespace Narrowing.Text

/-- A character that may begin a word. -/
def isWordStart (c : Char) : Bool :=
  if c.toNat < 0x80 then isNameStart c else identifierStartRanges.contains c

/-- A character that may continue a word. -/
def isWordPart (c : Char) : Bool :=
  if c.toNat < 0x80 then isNameChar c else identifierContinueRanges.contains c

/-- The whole text is one word. -/
def isWord : List Char → Bool
  | [] => false
  | c :: r => isWordStart c && r.all isWordPart

end Narrowing.Text
