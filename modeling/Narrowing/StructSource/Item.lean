import Narrowing.StructSource.Pattern

/-!
# Items of a Rust file

The grammar of items. Structs and module blocks become part of the item tree,
of all others only the extent is read.

## Main definitions

* `Read.structItem` — a struct
* `Read.item` — an item of a file or a block
* `Read.itemBlock` — items in braces
-/

namespace Narrowing.StructSource.Read

open Reading Reading.Reader Reading.Token

/-! ## Visibility and structs -/

/-- The visibility of an item, if there is one. -/
def visibility (n : Nat) : Reader Unit := do
  if (← next (isWord "crate")) && !areMarks [':', ':'] ((← get).tokens.drop 1) then word "crate"
  else if ← skip (isWord "pub") then
    let _ ← optional (do
      mark "("
      (do word "in"; let _ ← path n)
        <|> (do let _ ← takeIf fun t => t.kind == .name && t.text ∈ ["self", "super", "crate"])
      mark ")")

/-- A where clause. -/
def whereClause (inner : Inner) (n : Nat) : Reader Span := do
  let start ← here
  word "where"
  let condition : Reader Unit := do
    (do let _ ← lifetime) <|> constrainedType inner n
    bounds inner n
  let _ ← optional (do
    let _ ← separated n "," condition
    let _ ← skip (isMark ","))
  spanFrom start

/-- A where clause, if there is one. -/
def skipWhere (inner : Inner) (n : Nat) : Reader Unit := do
  if ← next (isWord "where") then
    let _ ← whereClause inner n

/-- Generic parameters, if there are any. -/
def skipParameters (inner : Inner) (n : Nat) : Reader (List GenericParam) := do
  if ← next (isMark "<") then typeParameters inner n else return []

/-- A field with its name. -/
def fieldMember (inner : Inner) (n : Nat) : Reader Member := do
  let start ← here
  visibility n
  let name ← name
  mark ":"
  let typeStart ← here
  type inner n
  return .field start name (← spanFrom typeStart)

/-- The body of a struct with named fields. Attributes stand in front of a field. -/
def members (inner : Inner) (n : Nat) : Reader (List Member) := do
  mark "\x7b"
  let one : Reader (List Member) := do
    let notes ← many n (.attached <$> attached inner n)
    return notes ++ [← fieldMember inner n]
  let all ← optional (separated n "," one)
  let _ ← skip (isMark ",")
  mark "\x7d"
  return (all.getD []).flatten

/-- The body of a struct without field names. -/
def tupleMembers (inner : Inner) (n : Nat) : Reader Unit :=
  listIn n "(" ")" do
    let _ ← many n (attached inner n)
    (do visibility n; type inner n) <|> (do word "pub"; type inner n)

/-- A struct. -/
def structItem (inner : Inner) (n : Nat) : Reader StructItem := do
  let start ← here
  visibility n
  word "struct"
  let name ← name
  let params ← skipParameters inner n
  (do
    let clause ← (if ← next (isWord "where") then some <$> whereClause inner n else pure none)
    let all ← members inner n
    return ⟨start, name, params, clause, some all⟩)
  <|> (do
    if ← next (isMark "(") then
      tupleMembers inner n
      skipWhere inner n
    mark ";"
    return ⟨start, name, params, none, none⟩)

/-! ## Other items -/

/-- An enumeration. -/
def enumeration (inner : Inner) (n : Nat) : Reader Unit := do
  word "enum"
  kind .name
  let _ ← skipParameters inner n
  skipWhere inner n
  listIn n "\x7b" "\x7d" do
    let _ ← many n (attached inner n)
    visibility n
    kind .name
    if ← next (isMark "(") then tupleMembers inner n
    else if ← next (isMark "\x7b") then
      let _ ← members inner n
    if ← skip (isMark "=") then inner.expression

/-- A union. -/
def unionItem (inner : Inner) (n : Nat) : Reader Unit := do
  word "union"
  kind .name
  let _ ← skipParameters inner n
  skipWhere inner n
  let _ ← members inner n

/-- A type with a new name, or one that a trait asks for. -/
def typeItem (inner : Inner) (n : Nat) : Reader Unit := do
  word "type"
  kind .name
  let _ ← skipParameters inner n
  if ← next (isMark ":") then
    bounds inner n
    skipWhere inner n
  else
    skipWhere inner n
    if ← skip (isMark "=") then
      type inner n
      skipWhere inner n
  mark ";"

/-- A constant or a static. -/
def constantItem (inner : Inner) (n : Nat) : Reader Unit := do
  if ← skip (isWord "static") then
    let _ ← skip (isWord "ref")
    let _ ← skip (isWord "mut")
  else word "const"
  kind .name
  mark ":"
  type inner n
  if ← skip (isMark "=") then inner.expression
  mark ";"

/-- A function, with a body or without. -/
def function (inner : Inner) (n : Nat) : Reader Unit := do
  functionModifiers n
  word "fn"
  kind .name
  let _ ← skipParameters inner n
  parameters inner n
  returnType inner n
  skipWhere inner n
  mark ";" <|> inner.block

/-- What is brought into scope. -/
def usePath : Nat → Reader Unit
  | 0 => failure
  | n + 1 => do
    let _ ← skipMarks "::"
    if ← skip (isMark "*") then return
    else if ← next (isMark "\x7b") then listIn n "\x7b" "\x7d" (usePath n)
    else
      kind .name
      if ← nextMarks "::" then usePath n
      else if ← skip (isWord "as") then kind .name

/-- A use declaration, or a crate brought into scope. -/
def useItem (n : Nat) : Reader Unit :=
  (do
    word "use"
    usePath n
    mark ";")
  <|> (do
    word "extern"
    word "crate"
    kind .name
    if ← skip (isWord "as") then kind .name
    mark ";")

/-- The definition of a macro: rules, each a pattern and what it stands for. -/
def macroRules (n : Nat) : Reader Unit := do
  word "macro_rules"
  mark "!"
  kind .name
  let rule : Reader Unit := do
    let _ ← tokenTree n
    marks "=>"
    let _ ← tokenTree n
  let rules (opening closing : String) : Reader Unit := do
    mark opening
    let _ ← optional (separated n ";" rule)
    let _ ← skip (isMark ";")
    mark closing
  (do rules "(" ")"; mark ";") <|> (do rules "[" "]"; mark ";") <|> rules "\x7b" "\x7d"

/-- What follows goes on with the expression that the use of a macro is, so that it is no item.
Behind braces, an operator starts a statement of its own. -/
def goesOn (braced : Bool) : Reader Bool := do
  if ← next (fun t => isMark "." t || isMark "?" t) then return true
  else if braced then return false
  else if ← nextMarks "!=" then return true
  else
    next fun t => isWord "as" t || t.kind == .mark &&
      t.text ∈ ["(", "[", "=", "<", ">", "&", "|", "^", "+", "-", "*", "/", "%"]

/-- The use of a macro as an item. -/
def macroCall (n : Nat) : Reader Unit := do
  let _ ← path n
  mark "!"
  let braced ← next (isMark "\x7b")
  let _ ← tokenTree n
  if ← goesOn braced then failure

/-- A binding of a pattern. -/
def letItem (inner : Inner) (n : Nat) : Reader Unit := do
  word "let"
  let _ ← skip (isWord "mut")
  pattern inner n
  if ← skip (isMark ":") then type inner n
  if ← skip (isMark "=") then
    inner.expression
    if ← skip (isWord "else") then inner.block
  mark ";"

/-- An attribute of the block around it. -/
def innerAttribute (inner : Inner) (n : Nat) : Reader Unit := do
  mark "#"
  mark "!"
  mark "["
  let _ ← path n
  if ← skip (isMark "=") then inner.expression
  else if !(← next (isMark "]")) then
    let _ ← tokenTree n
  mark "]"

/-! ## Items -/

mutual

/-- An item. -/
def item (inner : Inner) : Nat → Reader Item
  | 0 => failure
  | n + 1 =>
    .attached <$> attached inner n
    <|> .struct <$> structItem inner n
    <|> (do visibility n; moduleItem inner n)
    <|> (do
      mark ";" <|> innerAttribute inner n <|> letItem inner n <|> implementation inner n
        <|> macroRules n <|> (do
          visibility n
          enumeration inner n <|> unionItem inner n <|> typeItem inner n <|> constantItem inner n
            <|> function inner n <|> useItem n <|> foreignBlock inner n <|> traitItem inner n)
        <|> macroCall n
      return .other)

/-- Items in braces. -/
def itemBlock (inner : Inner) : Nat → Reader (List Item)
  | 0 => failure
  | n + 1 => do
    mark "\x7b"
    let all ← many n (item inner n)
    mark "\x7d"
    return all

/-- A module, in a block or elsewhere. -/
def moduleItem (inner : Inner) : Nat → Reader Item
  | 0 => failure
  | n + 1 => do
    word "mod"
    kind .name
    if ← skip (isMark ";") then return .other
    else return .module (← itemBlock inner n)

/-- Declarations of what another language provides. -/
def foreignBlock (inner : Inner) : Nat → Reader Unit
  | 0 => failure
  | n + 1 => do
    let _ ← skip (isWord "unsafe")
    word "extern"
    let _ ← skip (·.kind == .string)
    if ← skip (isMark ";") then return
    else
      let _ ← itemBlock inner n

/-- An implementation. -/
def implementation (inner : Inner) : Nat → Reader Unit
  | 0 => failure
  | n + 1 => do
    let _ ← skip (isWord "unsafe")
    word "impl"
    let _ ← skipParameters inner n
    let _ ← skip (isMark "!")
    type inner n
    if ← skip (isWord "for") then type inner n
    skipWhere inner n
    if ← skip (isMark ";") then return
    else
      let _ ← itemBlock inner n

/-- A trait. -/
def traitItem (inner : Inner) : Nat → Reader Unit
  | 0 => failure
  | n + 1 => do
    let _ ← skip (isWord "unsafe")
    word "trait"
    kind .name
    let _ ← skipParameters inner n
    if ← next (isMark ":") then bounds inner n
    skipWhere inner n
    let _ ← itemBlock inner n

end

end Narrowing.StructSource.Read
