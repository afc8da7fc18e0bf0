/-!
# Lines of a text

Where lines end, and the line and column of a position. Columns are counted in
bytes of the UTF-8 encoding, lines and columns both from one.

## Main definitions

* `LineEnding` — which characters end a line
* `unifyLines` — a text with every line break written as a line feed
* `placeOf` — the line and column of a position
-/

namespace Narrowing.Text

/-- Which characters end a line: the line feed alone, or also the carriage return, a pair of
the two being one line break. -/
inductive LineEnding where
  | feed
  | universal
deriving DecidableEq, Repr, Inhabited

/-- A text with every line break written as a line feed. -/
def unifyLines : List Char → List Char
  | [] => []
  | '\r' :: '\n' :: r => '\n' :: unifyLines r
  | '\r' :: r => '\n' :: unifyLines r
  | c :: r => c :: unifyLines r

/-- The text after a line break, if it starts with one. -/
def afterLineBreak? : List Char → Option (List Char)
  | '\r' :: '\n' :: r => some r
  | '\r' :: r => some r
  | '\n' :: r => some r
  | _ => none

/-- The line and column after a text that starts at the given line and column. -/
def advance (ending : LineEnding) (line column : Nat) : List Char → Nat × Nat
  | [] => (line, column)
  | '\n' :: r => advance ending (line + 1) 1 r
  | '\r' :: r =>
    match ending, r with
    | .feed, _ => advance ending line (column + 1) r
    | .universal, '\n' :: _ => advance ending line column r
    | .universal, _ => advance ending (line + 1) 1 r
  | c :: r => advance ending line (column + c.utf8Size) r

/-- The line and column of the position behind the given number of characters. -/
def placeOf (ending : LineEnding) (s : List Char) (position : Nat) : Nat × Nat :=
  advance ending 1 1 (s.take position)

/-- The part of a text between two positions. -/
def slice (s : List Char) (start stop : Nat) : List Char := (s.drop start).take (stop - start)

end Narrowing.Text
