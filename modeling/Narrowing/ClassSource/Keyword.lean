import Narrowing.Reading.Reader
import Narrowing.Text.NormalForm

/-!
# Names of a Python module

## Main definitions

* `keywords` — the words that are no names
* `Read.identifier` — takes a name
-/

namespace Narrowing.ClassSource

open Reading

/-- The words that cannot be names. -/
def keywords : List String :=
  ["False", "None", "True", "and", "as", "assert", "async", "await", "break", "class", "continue",
    "def", "del", "elif", "else", "except", "finally", "for", "from", "global", "if", "import", "in",
    "is", "lambda", "nonlocal", "not", "or", "pass", "raise", "return", "try", "while", "with",
    "yield"]

/-- The token is a name that is no keyword. -/
def isIdentifier (t : Token) : Bool := t.kind == .name && t.text ∉ keywords

/-- Takes a name that is no keyword as it is written. Names are compared in their normal forms. -/
def Read.identifier : Reader String := return Text.normalized (← Reader.takeIf isIdentifier).text

end Narrowing.ClassSource
