import Narrowing.Reading.Token

/-!
# Reading a token list

A reader takes tokens from the front of a list and may fail; an alternative
starts again where the failed one started. It knows the position behind the last
token taken, so that what it read has a span.

## Main definitions

* `Cursor`, `Reader` — the tokens left, and functions that take some of them
* `Reader.mark`, `Reader.word`, `Reader.kind` — take one token
* `Reader.many`, `Reader.separated` — take a thing repeatedly
-/

namespace Narrowing.Reading

/-- The tokens that are left, and the position behind the last one taken. -/
structure Cursor where
  tokens : List Token
  last : Nat := 0
deriving Repr, Inhabited

/-- A function that takes tokens from the front, or fails. -/
abbrev Reader (α : Type) := StateT Cursor Option α

namespace Reader

variable {α : Type}

/-- The next token, which stays. -/
def peek : Reader (Option Token) := fun c => some (c.tokens.head?, c)

/-- The token behind so many others, which all stay. -/
def peekAt (n : Nat) : Reader (Option Token) := fun c => some (c.tokens[n]?, c)

/-- The token behind the next one, which stays. -/
def peekSecond : Reader (Option Token) := peekAt 1

/-- Takes the next token if it satisfies the condition. -/
def takeIf (condition : Token → Bool) : Reader Token := fun c =>
  match c.tokens with
  | [] => none
  | t :: rest => if condition t then some (t, ⟨rest, t.stop⟩) else none

/-- The next token satisfies the condition. -/
def next (condition : Token → Bool) : Reader Bool := return (← peek).any condition

/-- Takes the given mark. -/
def mark (m : String) : Reader Unit := do
  let _ ← takeIf (Token.isMark m)

/-- Takes the given word. -/
def word (w : String) : Reader Unit := do
  let _ ← takeIf (Token.isWord w)

/-- Takes a token of the given kind. -/
def kind (k : TokenKind) : Reader Unit := do
  let _ ← takeIf (·.kind == k)

/-- Takes the token if it satisfies the condition, and tells whether it did. -/
def skip (condition : Token → Bool) : Reader Bool := do
  if ← next condition then
    let _ ← takeIf condition
    return true
  else return false

/-- The position of the next token. -/
def here : Reader Nat := do
  match ← peek with
  | some t => return t.start
  | none => return (← get).last

/-- The span from a position to the end of the last token taken. -/
def spanFrom (start : Nat) : Reader Span := return ⟨start, (← get).last⟩

/-- Takes a thing as often as possible, at most the given number of times. -/
def many (count : Nat) (thing : Reader α) : Reader (List α) :=
  match count with
  | 0 => return []
  | n + 1 => (do return (← thing) :: (← many n thing)) <|> return []

/-- Takes a thing at least once and then as often as possible. -/
def some1 (count : Nat) (thing : Reader α) : Reader (List α) := do
  let first ← thing
  return first :: (← many count thing)

/-- Takes things between separating marks, at least one and no trailing mark. -/
def separated (count : Nat) (m : String) (thing : Reader α) : Reader (List α) := do
  let first ← thing
  return first :: (← many count (do mark m; thing))

end Reader

end Narrowing.Reading
