import Narrowing.StructSource.Item
import Narrowing.StructSource.Token

/-!
# Expressions and blocks of a Rust file

Only the extent of an expression matters, so operators are not sorted by how
they bind. What stands in front of a block must not be a struct with its fields.

## Main definitions

* `Read.expression` — an expression
* `Read.block` — statements in braces
* `Read.statement` — an item or an expression that stands alone
* `fileOf?` — the items of a file
-/

namespace Narrowing.StructSource

namespace Read

open Reading Reading.Reader Reading.Token

/-- The operators between two operands; the longer ones come first. -/
def operators : List String :=
  ["<<=", ">>=", "==", "!=", "<=", ">=", "&&", "||", "+=", "-=", "*=", "/=", "%=", "^=", "&=",
    "|=", "<<", ">>", "+", "-", "*", "/", "%", "^", "&", "|", "<", ">", "="]

/-- Takes an operator between two operands. The arrow of a match arm is none. -/
def operator : Reader Unit := do
  if ← nextMarks "=>" then failure
  else if ← operators.anyM skipMarks then return
  else failure

/-- The next token cannot start an operand. -/
def atOperandEnd : Reader Bool := do
  match ← peek with
  | none => return true
  | some t =>
    return t.kind == .mark && t.text ∈ [")", "]", "\x7d", ",", ";", "="]

/-- Words that start something else than a value. -/
def statementWords : List String :=
  ["let", "else", "in", "fn", "struct", "enum", "impl", "trait", "mod", "use", "pub", "where",
    "while", "if", "match", "for", "loop", "return", "as", "static", "type"]

/-- A name for a loop or a block. -/
def label : Reader Unit := do
  let _ ← lifetime
  mark ":"

mutual

/-- An expression. In front of a block, `plain` forbids structs with their fields. -/
def expression (plain : Bool) : Nat → Reader Unit
  | 0 => failure
  | n + 1 => do
    if ← skipRange then
      if !(← atOperandEnd) && !(plain && (← next (isMark "\x7b"))) then operations plain n
    else
      operations plain n
      if ← skipRange then
        if !(← atOperandEnd) && !(plain && (← next (isMark "\x7b"))) then operations plain n

/-- Operands with operators between them. -/
def operations (plain : Bool) : Nat → Reader Unit
  | 0 => failure
  | n + 1 => do
    operand plain n
    let _ ← many n (do operator; operand plain n)

/-- An operand with what stands in front of it and behind it. -/
def operand (plain : Bool) : Nat → Reader Unit
  | 0 => failure
  | n + 1 => do
    if ← skip (fun t => isMark "-" t || isMark "*" t || isMark "!" t) then operand plain n
    else if ← skip (isMark "&") then
      let _ ← optional ((do
        word "raw"
        let _ ← takeIf fun t => isWord "const" t || isWord "mut" t) <|> word "mut")
      operand plain n
    else if ← skip (fun t => isWord "return" t || isWord "yield" t) then
      if !(← atOperandEnd) then expression plain n
    else if ← skip (isWord "break") then
      let _ ← optional lifetime
      if !(← atOperandEnd) && !(plain && (← next (isMark "\x7b"))) then expression plain n
    else if ← skip (isWord "continue") then
      let _ ← optional lifetime
    else if ← skip (isWord "let") then
      pattern (inner n) n
      mark "="
      operand true n
    else
      closure plain n <|> (do
        blockLike n <|> atom plain n
        applied n)

/-- What is applied to an operand: members, calls, indices, conversions and early returns. -/
def applied : Nat → Reader Unit
  | 0 => failure
  | n + 1 => do
    if ← skip (isMark "?") then applied n
    else if ← next (isMark "(") then
      listIn n "(" ")" (argument n)
      applied n
    else if ← skip (isMark "[") then
      expression false n
      mark "]"
      applied n
    else if ← skip (isWord "as") then
      let _ ← plainType (inner n) n
      applied n
    else if (← next (isMark ".")) && !(← nextMarks "..") then
      mark "."
      kind .name <|> kind .number
      if ← skipMarks "::" then typeArguments (inner n) n
      applied n

/-- An element of a list of expressions, which attributes may precede. -/
def argument : Nat → Reader Unit
  | 0 => failure
  | n + 1 => do
    let _ ← many n (attached (inner n) n)
    expression false n

/-- A function without a name. -/
def closure (plain : Bool) : Nat → Reader Unit
  | 0 => failure
  | n + 1 => do
    let _ ← skip (isWord "static")
    let _ ← skip (isWord "async")
    let _ ← skip (isWord "move")
    if !(← skipMarks "||") then
      mark "|"
      let parameter : Reader Unit := do
        plainPattern (inner n) n
        if ← skip (isMark ":") then type (inner n) n
      let _ ← optional (separated n "," parameter)
      let _ ← skip (isMark ",")
      mark "|"
    if ← skipMarks "->" then
      type (inner n) n
      block n
    else expression plain n

/-- A literal, a path with what belongs to it, or something in parentheses or brackets. -/
def atom (plain : Bool) : Nat → Reader Unit
  | 0 => failure
  | n + 1 => do
    if ← next (isMark "(") then listIn n "(" ")" (argument n)
    else if ← skip (isMark "[") then
      if ← skip (isMark "]") then return
      else
        argument n
        if ← skip (isMark ";") then expression false n
        else
          let _ ← many n (do mark ","; argument n)
          let _ ← skip (isMark ",")
        mark "]"
    else if ← next (fun t => t.kind ∈ [.number, .string, .character]) then literal
    else
      if ← next (isMark "<") then
        qualifiedSelf (inner n) n
      else if ← next (fun t => t.kind == .name && t.text ∈ statementWords) then failure
      valuePath (inner n) n
      if ← next (isMark "!") then
        if (← nextMarks "!=") then return
        else
          mark "!"
          let _ ← tokenTree n
      else if !plain && (← next (isMark "\x7b")) then
        let _ ← optional (listIn n "\x7b" "\x7d" (structField n))

/-- A field of a struct that is built, or the base that gives the other fields. -/
def structField : Nat → Reader Unit
  | 0 => failure
  | n + 1 => do
    let _ ← many n (attached (inner n) n)
    if ← skipMarks ".." then
      if !(← next (isMark "\x7d")) then expression false n
    else
      kind .name <|> kind .number
      if ← skip (isMark ":") then expression false n

/-- An expression that ends with a block. -/
def blockLike : Nat → Reader Unit
  | 0 => failure
  | n + 1 => do
    if ← next (isMark "\x7b") then block n
    else if ← next (isMark "'") then
      label
      blockLike n
    else if ← skip (isWord "if") then
      expression true n
      block n
      if ← skip (isWord "else") then
        if ← next (isWord "if") then blockLike n else block n
    else if ← skip (isWord "match") then
      expression true n
      mark "\x7b"
      arms n
      mark "\x7d"
    else if ← skip (isWord "while") then
      expression true n
      block n
    else if ← skip (isWord "loop") then block n
    else if ← skip (isWord "for") then
      pattern (inner n) n
      word "in"
      expression true n
      block n
    else if ← skip (isWord "async") then
      let _ ← skip (isWord "move")
      block n
    else if ← skip (fun t => t.kind == .name && t.text ∈ ["unsafe", "const", "try", "gen"]) then
      block n
    else failure

/-- An expression that ends with a block and that nothing is applied to. -/
def finishedBlock : Nat → Reader Unit
  | 0 => failure
  | n + 1 => do
    blockLike n
    if ← next (fun t => isMark "." t || isMark "?" t) then failure

/-- The arms of a match. One that does not end with a block is followed by a comma unless it is
the last. -/
def arms : Nat → Reader Unit
  | 0 => failure
  | n + 1 => do
    if ← next (isMark "\x7d") then return
    else
      let _ ← many n (attached (inner n) n)
      pattern (inner n) n
      if ← skip (isWord "if") then expression false n
      marks "=>"
      if (← optional (finishedBlock n)).isSome then
        let _ ← skip (isMark ",")
        arms n
      else
        expression false n
        if ← skip (isMark ",") then arms n
        else if ← next (isMark "\x7d") then return
        else failure

/-- Statements in braces, the last of which may be an expression. -/
def block : Nat → Reader Unit
  | 0 => failure
  | n + 1 => do
    if ← next (isMark "'") then label
    mark "\x7b"
    let _ ← many n (statement n)
    if !(← next (isMark "\x7d")) then expression false n
    mark "\x7d"

/-- An item, or an expression that stands alone. -/
def statement : Nat → Reader Item
  | 0 => failure
  | n + 1 =>
    item (inner n) n
    <|> (do
      finishedBlock n
      return .other)
    <|> (do
      expression false n
      mark ";"
      return .other)

/-- The readers of what is nested one level further down. -/
def inner : Nat → Inner
  | 0 => ⟨failure, failure, failure⟩
  | n + 1 => ⟨expression false n, block n, pattern ⟨expression false n, block n, failure⟩ n⟩

end

end Read

open Reading Reading.Reader in
/-- The items of a plain file, with its comments, or nothing when the text is none. -/
def fileOf? (source : List Char) : Option (List Item × List Span) := do
  let pieces ← piecesOf? source
  let depth := 40 * (source.length + 4)
  let (items, left) ← (many depth (Read.statement depth)).run ⟨pieces.tokens, 0⟩
  if left.tokens.isEmpty then some (items, pieces.comments) else none

end Narrowing.StructSource
