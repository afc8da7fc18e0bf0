import Narrowing.Text.Blank
import Narrowing.Text.Identifier

/-!
# Tokens of a directive text

A directive text is cut into quoted strings, names, equals signs and commas;
blanks between them separate and are dropped. A backslash inside a string keeps
the character after it from ending the string. Every token knows the column at
which it starts, counted in characters from one.

## Main definitions

* `Lexeme` — what a token is, and `Lexeme.spelling`, the characters it was read from
* `Token` — a lexeme with its column
* `Token.ofText` — the tokens of a text, or the first place where none can start
-/

namespace Narrowing.Directive

open Text

/-- What a token is. A string keeps the characters between its quotes as written. -/
inductive Lexeme where
  | string (quote : Char) (body : List Char)
  | name (chars : List Char)
  | equals
  | comma
deriving DecidableEq, Repr, Inhabited

namespace Lexeme

/-- The characters that the lexeme is read from. -/
def spelling : Lexeme → List Char
  | string quote body => quote :: body ++ [quote]
  | name chars => chars
  | equals => ['=']
  | comma => [',']

/-- The lexeme is an equals sign or a comma. -/
def isMark : Lexeme → Bool
  | equals | comma => true
  | _ => false

end Lexeme

/-- A lexeme with the column at which it starts. -/
structure Token where
  lexeme : Lexeme
  column : Nat
deriving DecidableEq, Repr, Inhabited

/-- Why a text has no tokens. -/
inductive LexicalFault where
  /-- The quote at this column is never closed. -/
  | unterminated (column : Nat)
  /-- No token starts with this character. -/
  | unexpected (c : Char) (column : Nat)
deriving DecidableEq, Repr, Inhabited

/-- A character that opens and closes a string. -/
def isQuote (c : Char) : Bool := c == '"' || c == '\''

/-- The characters before the first unescaped `quote`, and those after it. -/
def splitQuoted (quote : Char) : List Char → Option (List Char × List Char)
  | [] => none
  | c :: r =>
    if c = quote then some ([], r)
    else if c = '\\' then
      match r with
      | [] => none
      | d :: r => (splitQuoted quote r).map fun p => (c :: d :: p.1, p.2)
    else (splitQuoted quote r).map fun p => (c :: p.1, p.2)

theorem length_of_splitQuoted {quote : Char} {s body rest : List Char}
    (h : splitQuoted quote s = some (body, rest)) :
    s.length = body.length + rest.length + 1 := by
  fun_induction splitQuoted quote s generalizing body rest with
  | case1 => simp at h
  | case2 => simp_all
  | case3 => simp at h
  | case4 d r _ ih =>
    obtain ⟨p, hp, e⟩ := Option.map_eq_some_iff.1 h
    obtain ⟨rfl, rfl⟩ := Prod.mk.inj e
    have := ih hp
    simp only [List.length_cons]
    omega
  | case5 c r _ _ ih =>
    obtain ⟨p, hp, e⟩ := Option.map_eq_some_iff.1 h
    obtain ⟨rfl, rfl⟩ := Prod.mk.inj e
    have := ih hp
    simp only [List.length_cons]
    omega

namespace Token

/-- The tokens of a text that starts at the given column. -/
def scan (column : Nat) (s : List Char) : Except LexicalFault (List Token) :=
  match s with
  | [] => .ok []
  | c :: r =>
    if isBlank c then scan (column + 1) r
    else if isQuote c then
      match _h : splitQuoted c r with
      | none => .error (.unterminated column)
      | some (body, rest) =>
        (scan (column + body.length + 2) rest).map (⟨.string c body, column⟩ :: ·)
    else if isNameStart c then
      (scan (column + 1 + (r.takeWhile isNameChar).length) (r.dropWhile isNameChar)).map
        (⟨.name (c :: r.takeWhile isNameChar), column⟩ :: ·)
    else if c = '=' then (scan (column + 1) r).map (⟨.equals, column⟩ :: ·)
    else if c = ',' then (scan (column + 1) r).map (⟨.comma, column⟩ :: ·)
    else .error (.unexpected c column)
termination_by s.length
decreasing_by
  · simp
  · have := length_of_splitQuoted _h
    simp only [List.length_cons]
    omega
  · have := (List.dropWhile_sublist (l := r) isNameChar).length_le
    simp only [List.length_cons]
    omega
  · simp
  · simp

/-- The tokens of a text. -/
def ofText (s : List Char) : Except LexicalFault (List Token) := scan 1 s

end Token

end Narrowing.Directive
