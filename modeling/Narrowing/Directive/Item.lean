import Narrowing.Directive.Token

/-!
# Items of a directive text

A directive text is a list of options separated by commas, with a comma allowed
after the last one:

    from_type = "Bar<#T, u32>", unpack = true, skip

An option is a key alone, or a key with a string or a name as its value.

## Main definitions

* `Item` — a key and its value
* `unescape` — the text that a string stands for
* `Item.ofTokens` — the items of a token list
* `Item.ofText` — the items of a text
-/

namespace Narrowing.Directive

/-- The value of an option: none at all, a bare name, or a string. -/
inductive Value where
  | flag
  | name (text : String)
  | string (text : String)
deriving DecidableEq, Repr, Inhabited

/-- One option as written. -/
structure Item where
  key : String
  value : Value
deriving DecidableEq, Repr, Inhabited

/-- Why a text is no list of options. -/
inductive ItemFault where
  | lexical (fault : LexicalFault)
  /-- Something other than an option name stands where an item starts. -/
  | nameExpected (column : Nat) (found : String)
  /-- Nothing usable follows the equals sign of this option. -/
  | valueMissing (key : String)
  /-- Something other than a comma follows this option. -/
  | commaExpected (key : String) (column : Nat) (found : String)
deriving DecidableEq, Repr, Inhabited

/-- The text that the body of a string stands for: a backslash gives way to the character
after it. -/
def unescape : List Char → List Char
  | [] => []
  | [c] => [c]
  | c :: d :: r => if c = '\\' then d :: unescape r else c :: unescape (d :: r)

namespace Value

/-- The value that a lexeme stands for, unless it is a mark. -/
def ofLexeme? : Lexeme → Option Value
  | .string _ body => some (.string (String.ofList (unescape body)))
  | .name chars => some (.name (String.ofList chars))
  | .equals | .comma => none

end Value

namespace Item

/-- The value written after a key, and the tokens after it. -/
def takeValue (key : String) : List Token → Except ItemFault (Value × List Token)
  | ⟨.equals, _⟩ :: rest =>
    match rest with
    | [] => .error (.valueMissing key)
    | t :: rest =>
      match Value.ofLexeme? t.lexeme with
      | none => .error (.valueMissing key)
      | some v => .ok (v, rest)
  | rest => .ok (.flag, rest)

theorem length_of_takeValue {key : String} {ts rest : List Token} {v : Value}
    (h : takeValue key ts = .ok (v, rest)) : rest.length ≤ ts.length := by
  unfold takeValue at h
  split at h
  · split at h
    · cases h
    · split at h
      · cases h
      · cases h
        simp only [List.length_cons]
        omega
  · cases h
    exact Nat.le_refl _

/-- The items of a token list. -/
def ofTokens (ts : List Token) : Except ItemFault (List Item) :=
  match ts with
  | [] => .ok []
  | t :: rest =>
    match t.lexeme with
    | .name chars =>
      match _h : takeValue (String.ofList chars) rest with
      | .error e => .error e
      | .ok (value, after) =>
        match after with
        | [] => .ok [⟨String.ofList chars, value⟩]
        | u :: after =>
          if u.lexeme = .comma then (ofTokens after).map (⟨String.ofList chars, value⟩ :: ·)
          else .error (.commaExpected (String.ofList chars) u.column
            (String.ofList u.lexeme.spelling))
    | l => .error (.nameExpected t.column (String.ofList l.spelling))
termination_by ts.length
decreasing_by
  have := length_of_takeValue _h
  simp only [List.length_cons] at this ⊢
  omega

/-- The items of a text. -/
def ofText (s : String) : Except ItemFault (List Item) :=
  match Token.ofText s.toList with
  | .error e => .error (.lexical e)
  | .ok ts => ofTokens ts

end Item

end Narrowing.Directive
