import Narrowing.Reading.Token
import Narrowing.Text.Blank
import Narrowing.Text.Word

/-!
# Tokens of a Rust file

A file is cut into names, numbers, strings, characters and single marks; an
operator of several marks is recognised by their touching. Comments are no
tokens, but their places are kept, since texts are taken over without them.

## Main definitions

* `Lexeme` — what may start at a position
* `lexeme?` — the lexeme at the front of a text
* `Pieces` — the tokens and the comments of a file
* `piecesOf?` — the pieces of a file, or nothing when it has none
-/

namespace Narrowing.StructSource

open Reading Text

/-- What may start at a position: blank characters, a comment or a token. -/
inductive Lexeme where
  | blank
  | comment
  | token (kind : TokenKind)
deriving DecidableEq, Repr, Inhabited

/-- A character that separates tokens: the white space of Unicode, so a blank other than the
information separators. -/
def isSpace (c : Char) : Bool := isBlank c && !('\x1c' ≤ c && c ≤ '\x1f')

/-! ## Comments -/

/-- The text behind a line comment. A comment for documentation takes its line feed along. -/
def dropLineComment (s : List Char) : List Char :=
  let rest := s.dropWhile (· != '\n')
  match s with
  | '/' :: '/' :: '!' :: _ => rest.drop 1
  | '/' :: '/' :: '/' :: '/' :: _ => rest
  | '/' :: '/' :: '/' :: _ => rest.drop 1
  | _ => rest

/-- The text behind a block comment, given the text inside so many open ones. -/
def dropBlockComment : Nat → List Char → Option (List Char)
  | _, [] => none
  | depth, '/' :: '*' :: r => dropBlockComment (depth + 1) r
  | depth, '*' :: '/' :: r => if depth ≤ 1 then some r else dropBlockComment (depth - 1) r
  | depth, _ :: r => dropBlockComment depth r

/-! ## Literals -/

/-- A hexadecimal digit. -/
def isHex (c : Char) : Bool := c.isDigit || ('a' ≤ c && c ≤ 'f') || ('A' ≤ c && c ≤ 'F')

/-- The text behind an escape, given the text behind its backslash. -/
def dropEscape : List Char → Option (List Char)
  | 'x' :: a :: b :: r => if isHex a && isHex b then some r else none
  | 'u' :: '{' :: r =>
    match r.takeWhile isHex, r.dropWhile isHex with
    | _ :: _, '}' :: rest => some rest
    | _, _ => none
  | 'u' :: a :: b :: c :: d :: r => if [a, b, c, d].all isHex then some r else none
  | 'x' :: _ | 'u' :: _ | [] => none
  | _ :: r => some r

/-- The text behind a string, given the text behind its opening quote. -/
def dropString (s : List Char) : Option (List Char) :=
  match s with
  | [] => none
  | '"' :: r => some r
  | '\\' :: r =>
    match dropEscape r with
    | none => none
    | some rest => if _h : rest.length ≤ r.length then dropString rest else none
  | _ :: r => dropString r
termination_by s.length
decreasing_by all_goals simp only [List.length_cons]; omega

/-- The text behind a raw string that so many hashes enclose, given the text behind its opening
quote. -/
def dropRawString (hashes : Nat) : List Char → Option (List Char)
  | [] => none
  | '"' :: r =>
    if r.take hashes = List.replicate hashes '#' then some (r.drop hashes)
    else dropRawString hashes r
  | _ :: r => dropRawString hashes r

/-- The text behind a raw string, given the text behind its letters; nothing if there is none. -/
def dropRaw (s : List Char) : Option (List Char) :=
  match s.dropWhile (· == '#') with
  | '"' :: r => dropRawString (s.takeWhile (· == '#')).length r
  | _ => none

/-- The text behind a character literal, given the text behind its opening quote; nothing if
there is none. -/
def dropCharacter : List Char → Option (List Char)
  | '\'' :: r => some r
  | '\\' :: r =>
    match dropEscape r with
    | some ('\'' :: rest) => some rest
    | _ => none
  | _ :: '\'' :: r => some r
  | _ => none

/-- The text behind the digits at its front, which underscores may separate. -/
def dropDigits (isDigit : Char → Bool) (s : List Char) : List Char :=
  s.dropWhile fun c => isDigit c || c == '_'

/-- The names of the number types. -/
def numberTypes : List String :=
  ["u8", "i8", "u16", "i16", "u32", "i32", "u64", "i64", "u128", "i128", "isize", "usize", "f32",
    "f64"]

/-- The text behind the name of a number type, if it starts with one. -/
def dropNumberType (s : List Char) : List Char :=
  match numberTypes.find? fun type => type.toList.isPrefixOf s with
  | some type => s.drop type.length
  | none => s

/-- The text behind the exponent of a number, if it has one. -/
def dropExponent (s : List Char) : List Char :=
  match s with
  | e :: r =>
    if e == 'e' || e == 'E' then
      let digits :=
        match r with
        | '+' :: r | '-' :: r => r
        | _ => r
      if digits.head?.any Char.isDigit then dropDigits Char.isDigit digits else s
    else s
  | [] => s

/-- The text behind a number, given the text from its first digit on. A point belongs to the
number unless a letter or another point follows it. -/
def dropNumber (s : List Char) : List Char :=
  match s with
  | '0' :: 'x' :: r => dropNumberType (dropDigits isHex r)
  | '0' :: 'b' :: r => dropNumberType (dropDigits (fun c => c == '0' || c == '1') r)
  | '0' :: 'o' :: r => dropNumberType (dropDigits (fun c => '0' ≤ c && c ≤ '7') r)
  | _ =>
    let rest := dropDigits Char.isDigit s
    let rest :=
      match rest with
      | '.' :: c :: r =>
        if c == '.' || (c != '_' && isWordStart c) then rest else dropDigits Char.isDigit (c :: r)
      | ['.'] => []
      | _ => rest
    dropNumberType (dropExponent rest)

/-! ## Cutting -/

/-- The marks. -/
def isMarkChar (c : Char) : Bool := c ∈ "+-*/%^!&|<>=@.,;:#?()[]\x7b\x7d$'".toList

/-- A name, given the text from its first character on. -/
def nameLexeme (s : List Char) : Lexeme × List Char := (.token .name, s.dropWhile isWordPart)

/-- The lexeme that starts with a name character: a string or character with letters in front
of it, or a name. -/
def wordLexeme (s : List Char) : Option (Lexeme × List Char) :=
  let raw (r : List Char) : Option (Lexeme × List Char) :=
    match dropRaw r with
    | some rest => some (.token .string, rest)
    | none => none
  match s with
  | 'b' :: '"' :: r | 'c' :: '"' :: r => (dropString r).map (.token .string, ·)
  | 'b' :: '\'' :: r => ((dropCharacter r).map (.token .character, ·)) <|> some (nameLexeme s)
  | 'b' :: 'r' :: r | 'c' :: 'r' :: r => raw r <|> some (nameLexeme s)
  | 'r' :: '#' :: c :: r =>
    raw ('#' :: c :: r)
      <|> some (if isWordStart c then nameLexeme (c :: r) else nameLexeme s)
  | 'r' :: r => raw r <|> some (nameLexeme s)
  | _ => some (nameLexeme s)

/-- The lexeme at the front of a text, with the text behind it. -/
def lexeme? (s : List Char) : Option (Lexeme × List Char) :=
  match s with
  | [] => none
  | '/' :: '/' :: _ => some (.comment, dropLineComment s)
  | '/' :: '*' :: r => (dropBlockComment 1 r).map (.comment, ·)
  | '"' :: r => (dropString r).map (.token .string, ·)
  | '\'' :: r => ((dropCharacter r).map (.token .character, ·)) <|> some (.token .mark, r)
  | c :: r =>
    if isSpace c then some (.blank, r)
    else if c.isDigit then some (.token .number, dropNumber s)
    else if isWordStart c then wordLexeme s
    else if isMarkChar c then some (.token .mark, r)
    else none

/-- The tokens and the comments of a file, in order. -/
structure Pieces where
  tokens : List Token := []
  comments : List Span := []
deriving Repr, Inhabited

/-- Puts a lexeme in front of the pieces behind it. -/
def Pieces.add (pieces : Pieces) (lexeme : Lexeme) (text : List Char) (span : Span) : Pieces :=
  match lexeme with
  | .blank => pieces
  | .comment => { pieces with comments := span :: pieces.comments }
  | .token kind =>
    { pieces with tokens := ⟨kind, String.ofList text, span.start, span.stop⟩ :: pieces.tokens }

/-- The pieces of the rest of a file that is `stop` characters long. -/
def scan (stop : Nat) (s : List Char) : Option Pieces :=
  if s.isEmpty then some {}
  else
    match lexeme? s with
    | none => none
    | some (lexeme, rest) =>
      if _h : rest.length < s.length then
        (scan stop rest).map fun pieces =>
          pieces.add lexeme (s.take (s.length - rest.length))
            ⟨stop - s.length, stop - rest.length⟩
      else none
termination_by s.length

/-- The text behind a first line that names an interpreter. A bracket would make it an
attribute. -/
def dropInterpreterLine (s : List Char) : List Char :=
  match s with
  | '#' :: '!' :: '[' :: _ => s
  | '#' :: '!' :: r => r.dropWhile (· != '\n')
  | _ => s

/-- The pieces of a file, or nothing when its text has none. A byte order mark at its start is
no part of it. -/
def piecesOf? (source : List Char) : Option Pieces :=
  let text :=
    match source with
    | '\ufeff' :: r => r
    | _ => source
  scan source.length (dropInterpreterLine text)

end Narrowing.StructSource
