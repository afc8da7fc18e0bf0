/-!
# Tokens of a YAML document

A document is cut into marks and scalars, each with the line and the column at
which it starts; blank lines and comments are passed over. Inside brackets and
braces, more marks end a plain scalar than outside.

## Main definitions

* `Piece`, `Token` — a mark or a scalar, and where it starts
* `cutSingle`, `cutDouble`, `cutPlain` — where a scalar ends
* `tokensOf?` — the tokens of a document, or nothing when it has none
-/

namespace Narrowing.Yaml

/-- A mark or a scalar. -/
inductive Piece where
  | dash
  | colon
  | comma
  | openList
  | closeList
  | openMap
  | closeMap
  | plain (text : String)
  | quoted (text : String)
deriving DecidableEq, Repr, Inhabited

/-- A piece with the line and the column at which it starts, both counted from zero. -/
structure Token where
  piece : Piece
  line : Nat
  column : Nat
deriving DecidableEq, Repr, Inhabited

/-- A blank inside a line. -/
def isGap (c : Char) : Bool := c == ' ' || c == '\t'

/-- A line break. The text of a document has line feeds only. -/
def isBreak (c : Char) : Bool := c == '\n'

/-- A blank or a line break comes next, or nothing does. -/
def atGap (s : List Char) : Bool := s.head?.all fun c => isGap c || isBreak c

/-- The marks of lists and mappings in brackets and braces. -/
def flowMarks : List Char := ",[]\x7b\x7d".toList

/-! ## Quoted scalars -/

/-- The text of a quoted scalar so far, last character first, after a line break and so many
empty lines: one break is a space, empty lines are breaks. -/
def foldBreaks (emptyLines : Nat) (text : List Char) : List Char :=
  (if emptyLines = 0 then [' '] else List.replicate emptyLines '\n') ++ text.dropWhile isGap

/-- The text of a single-quoted scalar and what is behind it, given the text behind the opening
quote. Two quotes stand for one. `breaks` counts the line breaks just passed. -/
def cutSingle (text : List Char) (breaks : Nat) : List Char → Option (List Char × List Char)
  | [] => none
  | '\'' :: '\'' :: r =>
    cutSingle ('\'' :: if breaks = 0 then text else foldBreaks (breaks - 1) text) 0 r
  | '\'' :: r =>
    some ((if breaks = 0 then text else foldBreaks (breaks - 1) text).reverse, r)
  | c :: r =>
    if isBreak c then cutSingle text (breaks + 1) r
    else if breaks ≠ 0 ∧ isGap c then cutSingle text breaks r
    else cutSingle (c :: if breaks = 0 then text else foldBreaks (breaks - 1) text) 0 r

/-- The character for an escape of one letter. -/
def simpleEscape : Char → Option Char
  | '0' => some '\x00'
  | 'a' => some '\x07'
  | 'b' => some '\x08'
  | 't' | '\t' => some '\t'
  | 'n' => some '\n'
  | 'v' => some '\x0b'
  | 'f' => some '\x0c'
  | 'r' => some '\r'
  | 'e' => some '\x1b'
  | ' ' => some ' '
  | '"' => some '"'
  | '\\' => some '\\'
  | '/' => some '/'
  | 'N' => some '\x85'
  | '_' => some '\xa0'
  | 'L' => some '\u2028'
  | 'P' => some '\u2029'
  | _ => none

/-- How many hexadecimal digits follow the letter of an escape. -/
def escapeWidth : Char → Option Nat
  | 'x' => some 2
  | 'u' => some 4
  | 'U' => some 8
  | _ => none

/-- The value of a hexadecimal digit. -/
def hexValue? (c : Char) : Option Nat :=
  if c.isDigit then some (c.toNat - '0'.toNat)
  else if 'a' ≤ c.toLower ∧ c.toLower ≤ 'f' then some (c.toLower.toNat - 'a'.toNat + 10)
  else none

/-- The number that hexadecimal digits write. -/
def hexNumber? (digits : List Char) : Option Nat :=
  digits.foldl (fun n c => do return 16 * (← n) + (← hexValue? c)) (some 0)

/-- The character of an escape and what is behind it, given the text behind the backslash. -/
def cutEscape : List Char → Option (Char × List Char)
  | [] => none
  | c :: r =>
    match escapeWidth c with
    | none => (simpleEscape c).map (·, r)
    | some width =>
      if r.length < width then none
      else (hexNumber? (r.take width)).map fun n => (Char.ofNat n, r.drop width)

/-- The text of a double-quoted scalar and what is behind it, given the text behind the opening
quote. An escaped line break leaves nothing; `breaks` counts the other ones just passed. -/
def cutDouble (text : List Char) (breaks : Nat) (s : List Char) :
    Option (List Char × List Char) :=
  let folded := if breaks = 0 then text else foldBreaks (breaks - 1) text
  match s with
  | [] => none
  | '"' :: r => some (folded.reverse, r)
  | '\\' :: '\n' :: r =>
    if _h : (r.dropWhile isGap).length ≤ r.length then cutDouble folded 0 (r.dropWhile isGap)
    else none
  | '\\' :: r =>
    match cutEscape r with
    | none => none
    | some (c, rest) =>
      if _h : rest.length ≤ r.length then cutDouble (c :: folded) 0 rest else none
  | c :: r =>
    if isBreak c then cutDouble text (breaks + 1) r
    else if breaks ≠ 0 ∧ isGap c then cutDouble text breaks r
    else cutDouble (c :: folded) 0 r
termination_by s.length
decreasing_by all_goals simp only [List.length_cons]; omega

/-! ## Plain scalars -/

/-- A plain scalar may start here. -/
def startsPlain (inFlow : Bool) : List Char → Bool
  | [] => false
  | c :: r =>
    if c == '-' then !atGap r
    else if c == '?' || c == ':' then !inFlow && !atGap r
    else !isGap c && !isBreak c && c ∉ flowMarks && c ∉ "#&*!|>'\"%@`".toList

/-- The text of a plain scalar on one line and what is behind it. -/
def cutPlain (inFlow : Bool) : List Char → List Char × List Char
  | [] => ([], [])
  | c :: r =>
    if isBreak c then ([], c :: r)
    else if c == ':' && (atGap r || (inFlow && r.head?.any (· ∈ flowMarks))) then ([], c :: r)
    else if inFlow && (c == '?' || c ∈ flowMarks) then ([], c :: r)
    else if isGap c && (r.dropWhile isGap).head?.any (· == '#') then ([], c :: r)
    else
      let (text, rest) := cutPlain inFlow r
      (c :: text, rest)

/-- A text without the blanks at its end. -/
def dropGapsAtEnd (s : List Char) : List Char := (s.reverse.dropWhile isGap).reverse

/-! ## Cutting -/

/-- Where the cutting stands: the line and the column, the number of open brackets and braces, and
whether the document was begun. -/
structure Stand where
  line : Nat := 0
  column : Nat := 0
  depth : Nat := 0
  begun : Bool := false
deriving DecidableEq, Repr, Inhabited

/-- The stand behind some characters. -/
def Stand.behind (stand : Stand) : List Char → Stand
  | [] => stand
  | c :: r =>
    if isBreak c then Stand.behind { stand with line := stand.line + 1, column := 0 } r
    else Stand.behind { stand with column := stand.column + 1 } r

/-- The piece at the front of a text, if there is one, with the number of open brackets and
braces behind it and the text behind it. -/
def piece? (stand : Stand) (s : List Char) : Option (Option Piece × Nat × List Char) :=
  let inFlow := stand.depth != 0
  match s with
  | [] => none
  | c :: r =>
    if c == ' ' || isBreak c then some (none, stand.depth, r)
    else if c == '#' then some (none, stand.depth, s.dropWhile (!isBreak ·))
    else if stand.column == 0 && s.take 3 == ['-', '-', '-'] && atGap (s.drop 3) then
      -- a second document
      if stand.begun then none else some (none, stand.depth, s.drop 3)
    else if c == '-' && atGap r then some (some .dash, stand.depth, r)
    else if c == ':' && (inFlow || atGap r) then some (some .colon, stand.depth, r)
    else if c == '[' then some (some .openList, stand.depth + 1, r)
    else if c == '{' then some (some .openMap, stand.depth + 1, r)
    else if inFlow && c == ']' then some (some .closeList, stand.depth - 1, r)
    else if inFlow && c == '}' then some (some .closeMap, stand.depth - 1, r)
    else if inFlow && c == ',' then some (some .comma, stand.depth, r)
    else if c == '\'' then
      (cutSingle [] 0 r).map fun (text, rest) =>
        (some (.quoted (String.ofList text)), stand.depth, rest)
    else if c == '"' then
      (cutDouble [] 0 r).map fun (text, rest) =>
        (some (.quoted (String.ofList text)), stand.depth, rest)
    else if startsPlain inFlow s then
      let (text, rest) := cutPlain inFlow s
      some (some (.plain (String.ofList (dropGapsAtEnd text))), stand.depth, rest)
    else none

/-- The tokens of the rest of a document. -/
def cut (stand : Stand) (s : List Char) : Option (List Token) :=
  if s.isEmpty || (stand.column == 0 && s.take 3 == ['.', '.', '.'] && atGap (s.drop 3)) then
    some []
  else
    match piece? stand s with
    | none => none
    | some (piece, depth, rest) =>
      if _h : rest.length < s.length then
        let behind := stand.behind (s.take (s.length - rest.length))
        let found := piece.toList.map (⟨·, stand.line, stand.column⟩)
        let begun := stand.begun || !s.head?.any fun c => isGap c || isBreak c || c == '#'
        (cut { behind with depth, begun } rest).map (found ++ ·)
      else none
termination_by s.length

/-- The tokens of a document, or nothing when its text has none. A byte order mark at its start
is no part of it. -/
def tokensOf? (s : String) : Option (List Token) :=
  match s.toList with
  | '\ufeff' :: r => cut {} r
  | text => cut {} text

end Narrowing.Yaml
