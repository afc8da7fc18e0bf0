import Narrowing.Reading.Token
import Narrowing.Text.Word

/-!
# Tokens of a Python module

A module is cut into names, numbers, strings and marks. Outside brackets a line
break ends a statement, and a change of indentation opens or closes a block;
blank lines and comments count for neither.

## Main definitions

* `scanString`, `scanNumber` — where a literal ends
* `Layout` — the open brackets and the indentation of the open blocks
* `tokensOf?` — the tokens of a module, or nothing when it has none
-/

namespace Narrowing.ClassSource

open Reading Text

/-! ## Literals and names -/

/-- A character that a name may hold, as far as cutting the text goes. -/
def isNamePart (c : Char) : Bool := isNameChar c || c.toNat ≥ 0x80

/-- The letters that may stand in front of a string. -/
def isStringPrefix (s : List Char) : Bool :=
  (String.ofList (s.map Char.toLower)) ∈ ["b", "u", "r", "f", "br", "rb", "fr", "rf"]

/-- The text behind a string that `quote` encloses, given the text behind its opening quote. A
triple string ends at three quotes and may hold line breaks. -/
def scanString (quote : Char) (triple : Bool) : List Char → Option (List Char)
  | [] => none
  | '\\' :: '\r' :: '\n' :: r => scanString quote triple r
  | '\\' :: _ :: r => scanString quote triple r
  | c :: r =>
    if triple then
      if c = quote ∧ r.take 2 = [quote, quote] then some (r.drop 2)
      else scanString quote triple r
    else if c = quote then some r
    else if c = '\n' ∨ c = '\r' ∨ c = '\\' then none
    else scanString quote triple r

/-- The text behind a string, given the text from its opening quote on. -/
def scanQuoted : List Char → Option (List Char)
  | a :: b :: c :: r =>
    if a = b ∧ b = c then scanString a true r
    else scanString a false (b :: c :: r)
  | a :: r => scanString a false r
  | [] => none

/-- The text behind a run of digits, in which single underscores may stand between digits. -/
def scanDigits (isDigit : Char → Bool) : List Char → Option (List Char)
  | [] => some []
  | ['_'] => none
  | '_' :: d :: r => if isDigit d then scanDigits isDigit r else none
  | c :: r => if isDigit c then scanDigits isDigit r else some (c :: r)

/-- A hexadecimal digit. -/
def isHexDigit (c : Char) : Bool :=
  c.isDigit || ('a' ≤ c && c ≤ 'f') || ('A' ≤ c && c ≤ 'F')

/-- A number may be followed by a name only if that is one of the words that can follow an
expression. -/
def endsNumber (rest : List Char) : Bool :=
  match rest with
  | [] => true
  | c :: _ =>
    !isNamePart c
      || ["and", "else", "for", "if", "in", "is", "or", "not"].any fun word =>
        word.toList.isPrefixOf rest

/-- The text behind a number, given the text behind its last digits. -/
def scanImaginary (s : List Char) : Option (List Char) :=
  let rest :=
    match s with
    | 'j' :: r | 'J' :: r => r
    | _ => s
  if endsNumber rest then some rest else none

/-- The text behind the exponent and the suffix of a number. -/
def scanExponent (s : List Char) : Option (List Char) :=
  let digits (r : List Char) : Option (List Char) := (scanDigits Char.isDigit r).bind scanImaginary
  let exponent (r : List Char) : Option (List Char) :=
    match r with
    | '+' :: d :: r | '-' :: d :: r => if d.isDigit then digits r else none
    | d :: r => if d.isDigit then digits r else if endsNumber s then some s else none
    | [] => none
  match s with
  | 'e' :: r | 'E' :: r => exponent r
  | _ => scanImaginary s

/-- The text behind the fraction, exponent and suffix of a number, given the text behind its
point. -/
def scanFraction (s : List Char) : Option (List Char) :=
  match s with
  | d :: r => if d.isDigit then (scanDigits Char.isDigit r).bind scanExponent else scanExponent s
  | [] => scanExponent []

/-- The text behind a number in another base, given the text behind its base letter. -/
def scanBased (isDigit : Char → Bool) (s : List Char) : Option (List Char) :=
  let s :=
    match s with
    | '_' :: r => r
    | _ => s
  match s with
  | d :: r =>
    if isDigit d then
      (scanDigits isDigit r).bind fun rest =>
        if (rest.head?.any Char.isDigit) || !endsNumber rest then none else some rest
    else none
  | [] => none

/-- The text behind a number, given the text from its first digit on. A number other than zero
does not start with a zero unless it has a point, an exponent or a suffix. -/
def scanNumber (s : List Char) : Option (List Char) :=
  let decimal (r : List Char) (allowPlain : Bool) : Option (List Char) :=
    match r with
    | '.' :: r => scanFraction r
    | 'e' :: _ | 'E' :: _ | 'j' :: _ | 'J' :: _ => scanExponent r
    | _ => if allowPlain && endsNumber r then some r else none
  match s with
  | '0' :: 'x' :: r | '0' :: 'X' :: r => scanBased isHexDigit r
  | '0' :: 'o' :: r | '0' :: 'O' :: r => scanBased (fun c => '0' ≤ c && c ≤ '7') r
  | '0' :: 'b' :: r | '0' :: 'B' :: r => scanBased (fun c => c == '0' || c == '1') r
  | d :: r =>
    (scanDigits Char.isDigit r).bind fun rest =>
      let digits := (s.take (s.length - rest.length)).filter Char.isDigit
      decimal rest (d != '0' || digits.all (· == '0'))
  | [] => none

/-- The marks, the longer ones first. -/
def marks : List String :=
  ["**=", "//=", ">>=", "<<=", "...",
    "**", "//", ">>", "<<", "<=", ">=", "==", "!=", "->", "+=", "-=", "*=", "/=", "%=", "&=", "|=",
    "^=", "@=", ":=", "<>",
    "+", "-", "*", "/", "%", "@", "&", "|", "^", "~", "<", ">", "(", ")", "[", "]", "\x7b", "\x7d", ",",
    ":", ".", ";", "="]

/-- The mark at the start of a text. -/
def mark? (s : List Char) : Option String := marks.find? fun m => m.toList.isPrefixOf s

/-! ## Layout -/

/-- The width of an indentation, with tabs going to the next multiple of eight and with tabs
counted as one. Two indentations compare only if both widths agree on the order. -/
structure Indent where
  width : Nat
  narrow : Nat
deriving DecidableEq, Repr, Inhabited

/-- The open brackets, by the marks that close them, and the indentations of the open blocks,
the innermost of each first. -/
structure Layout where
  awaited : List Char := []
  indents : List Indent := []
deriving DecidableEq, Repr, Inhabited

/-- The indentation at the start of a line and the text behind it. A form feed starts over; a
line joined to the next one keeps the indentation it has at the first joint. -/
def measureIndent (indent : Indent) (pinned : Nat) : List Char → Option (Indent × List Char)
  | ' ' :: r => measureIndent ⟨indent.width + 1, indent.narrow + 1⟩ pinned r
  | '\t' :: r => measureIndent ⟨(indent.width / 8 + 1) * 8, indent.narrow + 1⟩ pinned r
  | '\x0c' :: r => measureIndent ⟨0, 0⟩ pinned r
  | ['\\', '\n'] | ['\\', '\r'] | ['\\', '\r', '\n'] | ['\\'] => none
  | '\\' :: '\r' :: '\n' :: r => measureIndent indent (if pinned = 0 then indent.width else pinned) r
  | '\\' :: '\r' :: r => measureIndent indent (if pinned = 0 then indent.width else pinned) r
  | '\\' :: '\n' :: r => measureIndent indent (if pinned = 0 then indent.width else pinned) r
  | '\\' :: _ :: _ => none
  | s => some (if pinned = 0 then indent else ⟨pinned, pinned⟩, s)

/-- The blocks still open at a narrower line, and the number of blocks closed. -/
def closeBlocks (width : Nat) : List Indent → List Indent × Nat
  | [] => ([], 0)
  | top :: rest =>
    if width < top.width then
      let (left, closed) := closeBlocks width rest
      (left, closed + 1)
    else (top :: rest, 0)

/-- The kinds of tokens that a line of the given indentation starts with, and the blocks that
are open in it. -/
def openLine (indents : List Indent) (line : Indent) : Option (List TokenKind × List Indent) :=
  let top := indents.headD ⟨0, 0⟩
  if line.width = top.width then
    if line.narrow = top.narrow then some ([], indents) else none
  else if line.width > top.width then
    if line.narrow > top.narrow ∧ indents.length < 99 then some ([.indent], line :: indents)
    else none
  else
    let (left, closed) := closeBlocks line.width indents
    if left.headD ⟨0, 0⟩ = line then some (List.replicate closed .dedent, left) else none

/-! ## Cutting -/

/-- One step of cutting a text: the tokens found, and what is left. -/
structure Step where
  found : List Token
  fresh : Bool
  layout : Layout
  rest : List Char

/-- The tokens that end a module. -/
def closing (fresh : Bool) (layout : Layout) (stop : Nat) : List Token :=
  (if fresh then [] else [⟨.newline, "", stop, stop⟩])
    ++ List.replicate layout.indents.length ⟨.dedent, "", stop, stop⟩
    ++ [⟨.endOfSource, "", stop, stop⟩]

/-- A character that a line break consists of. -/
def isBreakChar (c : Char) : Bool := c == '\n' || c == '\r'

/-- The text behind a comment: its line break is left. -/
def dropComment (s : List Char) : List Char := s.dropWhile fun c => !isBreakChar c

/-- The step at the start of a line. -/
def stepLine (stop : Nat) (layout : Layout) (s : List Char) : Option Step := do
  let (indent, rest) ← measureIndent ⟨0, 0⟩ 0 s
  match rest with
  | [] => return ⟨[], true, layout, []⟩
  | c :: _ =>
    if c = '#' ∨ isBreakChar c then
      let after := dropComment rest
      return ⟨[], true, layout, (afterLineBreak? after).getD after⟩
    else
      let (kinds, indents) ← openLine layout.indents indent
      let place := stop - rest.length
      return ⟨kinds.map (⟨·, "", place, place⟩), false, { layout with indents }, rest⟩

/-- The layout behind a mark: an opening bracket awaits its closing one, which has to come
next among the closing ones. -/
def Layout.afterMark (layout : Layout) (mark : String) : Option Layout :=
  let opening (closer : Char) : Option Layout :=
    if layout.awaited.length < 200 then some { layout with awaited := closer :: layout.awaited }
    else none
  let closing (closer : Char) : Option Layout :=
    match layout.awaited with
    | awaited :: rest => if awaited = closer then some { layout with awaited := rest } else none
    | [] => none
  match mark with
  | "(" => opening ')'
  | "[" => opening ']'
  | "\x7b" => opening '\x7d'
  | ")" => closing ')'
  | "]" => closing ']'
  | "\x7d" => closing '\x7d'
  | _ => some layout

/-- The step inside a line, at a character that is not blank. -/
def stepToken (stop : Nat) (layout : Layout) (s : List Char) : Option Step :=
  let token (kind : TokenKind) (rest : List Char) : Token :=
    ⟨kind, String.ofList (s.take (s.length - rest.length)), stop - s.length, stop - rest.length⟩
  let one (kind : TokenKind) (rest : List Char) : Option Step :=
    some ⟨[token kind rest], false, layout, rest⟩
  match s with
  | [] => some ⟨[], false, layout, []⟩
  | c :: r =>
    if c = '#' then some ⟨[], false, layout, dropComment s⟩
    else if isBreakChar c then
      let rest := (afterLineBreak? s).getD r
      if layout.awaited.isEmpty then
        some ⟨[⟨.newline, "", stop - s.length, stop - s.length⟩], true, layout, rest⟩
      else some ⟨[], false, layout, rest⟩
    else if c = '\\' then
      match afterLineBreak? r with
      | some (d :: rest) => some ⟨[], false, layout, d :: rest⟩
      | _ => none
    else if c.isDigit ∨ (c = '.' ∧ r.head?.any Char.isDigit) then
      (if c = '.' then scanFraction r else scanNumber s).bind (one .number)
    else if c = '"' ∨ c = '\'' then (scanQuoted s).bind (one .string)
    else if isNamePart c then
      let word := s.takeWhile isNamePart
      let rest := s.dropWhile isNamePart
      if (rest.head? = some '"' ∨ rest.head? = some '\'') ∧ isStringPrefix word then
        (scanQuoted rest).bind (one .string)
      else if isWord word then one .name rest
      else none
    else
      match mark? s with
      | none => none
      | some m =>
        (layout.afterMark m).bind fun layout =>
          some ⟨[token .mark (s.drop m.length)], false, layout, s.drop m.length⟩

/-- How much is left to cut: a character counts twice, and the start of a line once. -/
def remaining (fresh : Bool) (s : List Char) : Nat := 2 * s.length + if fresh then 1 else 0

/-- A character that separates tokens inside a line. -/
def isLineBlank (c : Char) : Bool := c == ' ' || c == '\t' || c == '\x0c'

/-- The tokens of the rest of a module that is `stop` characters long. -/
def scan (stop : Nat) (fresh : Bool) (layout : Layout) (s : List Char) :
    Option (List Token) :=
  match if fresh then stepLine stop layout s else stepToken stop layout (s.dropWhile isLineBlank) with
  | none => none
  | some step =>
    if step.rest.isEmpty ∧ step.found.isEmpty then
      if step.layout.awaited.isEmpty then some (closing step.fresh step.layout stop) else none
    else if _h : remaining step.fresh step.rest < remaining fresh s then
      (scan stop step.fresh step.layout step.rest).map (step.found ++ ·)
    else none
termination_by remaining fresh s

/-- The tokens of a module, or nothing when the text has none. -/
def tokensOf? (source : List Char) : Option (List Token) :=
  scan source.length true {} source

end Narrowing.ClassSource
