import Narrowing.Text.Lines

/-!
# Tokens

The pieces that a source text is cut into before it is read. A position counts
characters from the start of the text.

## Main definitions

* `Span` — the part of a text between two positions
* `Token` — a piece of a text with its positions
-/

namespace Narrowing.Reading

/-- The part of a text between two positions. -/
structure Span where
  start : Nat
  stop : Nat
deriving DecidableEq, Repr, Inhabited

/-- The text of a span. -/
def Span.text (span : Span) (source : List Char) : String :=
  String.ofList (Text.slice source span.start span.stop)

/-- What a token is. Line and block tokens occur only where the layout of a text matters. -/
inductive TokenKind where
  | name
  | number
  | string
  | character
  | mark
  /-- The end of a statement line. -/
  | newline
  /-- The start of a block. -/
  | indent
  /-- The end of a block. -/
  | dedent
  | endOfSource
deriving DecidableEq, Repr, Inhabited

/-- A token with the positions of its first character and of the one behind its last. -/
structure Token where
  kind : TokenKind
  text : String
  start : Nat
  stop : Nat
deriving DecidableEq, Repr, Inhabited

namespace Token

/-- The token is the given mark. -/
def isMark (m : String) (t : Token) : Bool := t.kind == .mark && t.text == m

/-- The token is the given word. -/
def isWord (w : String) (t : Token) : Bool := t.kind == .name && t.text == w

end Token

end Narrowing.Reading
