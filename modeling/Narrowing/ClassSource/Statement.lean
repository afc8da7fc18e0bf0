import Narrowing.ClassSource.Pattern

/-!
# Statements of a Python module

The statement grammar. As for expressions, a depth bounds how far a reader may
descend; `moduleOf?` gives one that the length of the module cannot exhaust.

## Main definitions

* `Read.simpleStatement` — a statement that holds no block
* `Read.statements` — a statement with its blocks, or a line of simple ones
* `moduleOf?` — the statements of a module
-/

namespace Narrowing.ClassSource

namespace Read

open Reading Reading.Reader Reading.Token

/-! ## Statements without blocks -/

/-- A name with another name for it. -/
def renamed (name : Reader Unit) : Reader Unit := do
  name
  if ← skip (isWord "as") then
    let _ ← identifier

/-- A plain name. -/
def plainName : Reader Unit := do
  let _ ← identifier

/-- An import of names from a module. -/
def importFrom (n : Nat) : Reader Unit := do
  word "from"
  let dots ← many n (takeIf fun t => isMark "." t || isMark "..." t)
  if dots.isEmpty || !(← next (isWord "import")) then
    let _ ← dottedName n
  word "import"
  if ← skip (isMark "*") then return
  else if ← skip (isMark "(") then
    let _ ← separated n "," (renamed plainName)
    let _ ← skip (isMark ",")
    mark ")"
  else
    let _ ← separated n "," (renamed plainName)

/-- The value that is assigned. -/
def assignedValue (n : Nat) : Reader Expr := do
  if ← next (isWord "yield") then yieldExpression n else starExpressions n

/-- The rest of a chain of assignments, given the expression read last. -/
def assignments : Nat → Nat → Expr → Reader Unit
  | _, 0, _ => failure
  | n, count + 1, e => do
    if ← skip (isMark "=") then
      if Expr.areTargets true [e] then
        let value ← assignedValue n
        assignments n count value
      else failure

/-- The marks that assign the result of an operation. -/
def operatorAssignments : List String :=
  ["+=", "-=", "*=", "/=", "//=", "%=", "@=", "&=", "|=", "^=", "<<=", ">>=", "**="]

/-- An expression, or an assignment of one of the three kinds. -/
def expressionStatement (n : Nat) : Reader Statement := do
  let start ← here
  let e ← assignedValue n
  if ← skip (isMark ":") then
    if e.isSingleTarget then
      let hint ← expression n
      if ← skip (isMark "=") then
        let _ ← assignedValue n
      return .annotated start e hint
    else failure
  else if ← skip (fun t => t.kind == .mark && t.text ∈ operatorAssignments) then
    if e.isSingleTarget then
      let _ ← assignedValue n
      return .simple
    else failure
  else
    assignments n n e
    return .simple

/-- The rest of a statement that starts with the given keyword, which has been taken. -/
def keywordStatement (n : Nat) (keyword : String) : Reader Unit := do
  let atEnd : Reader Bool := next fun t => t.kind == .newline || isMark ";" t
  match keyword with
  | "return" =>
    if !(← atEnd) then
      let _ ← starExpressions n
  | "raise" =>
    if !(← atEnd) then
      let _ ← expression n
      if ← skip (isWord "from") then
        let _ ← expression n
  | "assert" =>
    let _ ← expression n
    if ← skip (isMark ",") then
      let _ ← expression n
  | "del" =>
    let e ← starExpressions n
    if !(Expr.areTargets false [e]) then failure
  | "global" | "nonlocal" =>
    let _ ← separated n "," identifier
  | "import" =>
    let _ ← separated n "," (renamed do let _ ← dottedName n)
  | _ => return

/-- A statement that holds no block. -/
def simpleStatement (n : Nat) : Reader Statement := do
  match ← peek with
  | none => failure
  | some t =>
    if isWord "from" t then
      importFrom n
      return .simple
    else if t.kind == .name && t.text ∈ ["pass", "break", "continue", "return", "raise", "assert",
        "del", "global", "nonlocal", "import"] then
      word t.text
      keywordStatement n t.text
      return .simple
    else expressionStatement n

/-- A line of statements that hold no blocks. -/
def simpleStatements (n : Nat) : Reader (List Statement) := do
  let all ← separated n ";" (simpleStatement n)
  let _ ← skip (isMark ";")
  kind .newline
  return all

/-! ## Statements with blocks -/

/-- The items of a `with` statement. -/
def withItems (n : Nat) : Reader Unit := do
  let _ ← separated n "," do
    let _ ← expression n
    if ← skip (isWord "as") then target n

/-- The head of a `with` statement. Its items may stand in parentheses. -/
def withHead (n : Nat) : Reader Unit :=
  (do
    mark "("
    withItems n
    let _ ← skip (isMark ",")
    mark ")"
    mark ":") <|> (do
    withItems n
    mark ":")

/-- The head of a `match` statement. -/
def matchHead (n : Nat) : Reader Unit := do
  word "match"
  let first ← starNamedExpression n
  let rest ← many n (do mark ","; starNamedExpression n)
  let comma ← skip (isMark ",")
  match first, rest, comma with
  | .starred _ _, [], false => failure
  | _, _, _ => mark ":"

mutual

/-- A statement with blocks, or a line of statements without. -/
def statements : Nat → Reader (List Statement)
  | 0 => failure
  | n + 1 => do
    match ← peek with
    | none => failure
    | some t =>
      if isMark "@" t then
        let decorators ← some1 n do
          mark "@"
          let e ← namedExpression n
          kind .newline
          return e
        return [← definition n decorators]
      else if t.kind == .name then
        match t.text with
        | "class" | "def" | "async" => return [← definition n []]
        | "if" =>
          word "if"
          let _ ← namedExpression n
          mark ":"
          let block ← block n
          return [.compound (block :: (← branches n))]
        | "while" =>
          word "while"
          let _ ← namedExpression n
          mark ":"
          let body ← block n
          return [.compound (body :: (← elseBlock n))]
        | "for" | "with" => return [.compound (← loopOrContext n)]
        | "try" =>
          word "try"
          mark ":"
          let body ← block n
          return [.compound (body :: (← handlers n))]
        | "match" => (return [.compound (← matchStatement n)]) <|> simpleStatements n
        | _ => simpleStatements n
      else simpleStatements n

/-- The statements of a block: an indented one, or the rest of the line. -/
def block : Nat → Reader (List Statement)
  | 0 => failure
  | n + 1 => do
    if ← skip (·.kind == .newline) then
      kind .indent
      let all ← some1 n (statements n)
      kind .dedent
      return all.flatten
    else simpleStatements n

/-- A class or a function with its decorators, or an asynchronous statement. -/
def definition : Nat → List Expr → Reader Statement
  | 0, _ => failure
  | n + 1, decorators => do
    let start ← here
    if ← skip (isWord "class") then
      let name ← identifier
      let bases ←
        (do
          if ← skip (isMark "(") then
            let a ← arguments n .positional {}
            mark ")"
            return a.args
          else return [])
      mark ":"
      return .classDef start name [] decorators bases (← block n)
    else
      let asynchronous ← skip (isWord "async")
      if asynchronous && decorators.isEmpty
          && (← next fun t => isWord "for" t || isWord "with" t) then
        return .compound (← loopOrContext n)
      else
        word "def"
        let _ ← identifier
        mark "("
        parameters n true {}
        mark ")"
        if ← skip (isMark "->") then
          let _ ← expression n
        mark ":"
        return .compound [← block n]

/-- A `for` or a `with` statement. -/
def loopOrContext : Nat → Reader (List (List Statement))
  | 0 => failure
  | n + 1 => do
    if ← skip (isWord "for") then
      targets n
      word "in"
      let _ ← starExpressions n
      mark ":"
      let body ← block n
      return body :: (← elseBlock n)
    else
      word "with"
      withHead n
      return [← block n]

/-- The branches behind the first one of an `if` statement. -/
def branches : Nat → Reader (List (List Statement))
  | 0 => failure
  | n + 1 => do
    if ← skip (isWord "elif") then
      let _ ← namedExpression n
      mark ":"
      let body ← block n
      return body :: (← branches n)
    else elseBlock n

/-- The block behind `else`, if there is one. -/
def elseBlock : Nat → Reader (List (List Statement))
  | 0 => failure
  | n + 1 => do
    if ← skip (isWord "else") then
      mark ":"
      return [← block n]
    else return []

/-- What follows the first block of a `try` statement: handlers, all with a star or all without,
and closing blocks. -/
def handlers : Nat → Reader (List (List Statement))
  | 0 => failure
  | n + 1 => do
    let groups := (← next (isWord "except")) && (← peekSecond).any (isMark "*")
    let caught ← many n do
      word "except"
      if groups then mark "*"
      if groups || !(← next (isMark ":")) then
        let _ ← expression n
        if ← skip (isWord "as") then
          let _ ← identifier
      mark ":"
      block n
    let other ← (if caught.isEmpty then pure [] else elseBlock n)
    if caught.isEmpty || (← next (isWord "finally")) then
      word "finally"
      mark ":"
      return caught ++ other ++ [← block n]
    else return caught ++ other

/-- A `match` statement. -/
def matchStatement : Nat → Reader (List (List Statement))
  | 0 => failure
  | n + 1 => do
    matchHead n
    kind .newline
    kind .indent
    let cases ← some1 n do
      word "case"
      casePattern n
      if ← skip (isWord "if") then
        let _ ← namedExpression n
      mark ":"
      block n
    kind .dedent
    return cases

end

end Read

open Reading Reading.Reader in
/-- The statements of a module, or nothing when its text is none. A null character stands
nowhere in a module, not even in a comment. -/
def moduleOf? (source : List Char) : Option (List Statement) := do
  guard (!source.contains '\x00')
  let tokens ← tokensOf? source
  let depth := 40 * (source.length + 4)
  let read : Reader (List Statement) := do
    let all ← many depth (Read.statements depth)
    kind .endOfSource
    return all.flatten
  return (← read.run ⟨tokens, 0⟩).1

end Narrowing.ClassSource
