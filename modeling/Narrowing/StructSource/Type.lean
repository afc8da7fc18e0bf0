import Narrowing.Reading.Reader
import Narrowing.StructSource.Tree

/-!
# Types of a Rust file

The grammar of types, generic parameters and token trees. Types can hold
expressions, so the readers are given the ones for what can be nested; every
reader is also given a depth that bounds how far it may descend.

## Main definitions

* `Inner` — the readers of nested expressions, blocks and patterns
* `TypeForm` — what kind of type was read, where only some may stand
* `Read.tokenTree` — anything in balanced delimiters
* `Read.attached` — an attribute
* `Read.type` — a type
* `Read.typeParameters` — generic parameters with their bounds
-/

namespace Narrowing.StructSource

open Reading Reading.Reader Reading.Token

/-- The readers of what can be nested in a type, a pattern or an item. -/
structure Inner where
  expression : Reader Unit
  block : Reader Unit
  pattern : Reader Unit

/-- The forms of a type. Some places take only a few of them. -/
inductive TypeForm where
  /-- Names with arguments. -/
  | path
  /-- A function, or a trait that is written like one. -/
  | function
  /-- Types in parentheses. -/
  | tuple
  /-- A reference, a pointer or an array. -/
  | compound
  /-- A bound that is lifted. -/
  | relaxed
  /-- Any other type. -/
  | other
deriving DecidableEq, Repr, Inhabited

namespace Read

/-! ## Marks, names and token trees -/

/-- The tokens at the front are the given marks, touching each other. -/
def areMarks : List Char → List Token → Bool
  | [], _ => true
  | m :: ms, t :: ts =>
    isMark m.toString t && (ms.isEmpty || ts.head?.any (·.start == t.stop)) && areMarks ms ts
  | _ :: _, [] => false

/-- The next tokens are the given marks, touching each other. -/
def nextMarks (m : String) : Reader Bool := return areMarks m.toList (← get).tokens

/-- Takes the given marks, which touch each other. -/
def marks (m : String) : Reader Unit := do
  if ← nextMarks m then
    let _ ← many m.length (kind .mark)
  else failure

/-- Takes the given marks if they come next, and tells whether they did. -/
def skipMarks (m : String) : Reader Bool := do
  if ← nextMarks m then
    marks m
    return true
  else return false

/-- Takes a word, which is a name wherever it is not expected as a keyword. -/
def name : Reader Span := do
  let start ← here
  kind .name
  spanFrom start

/-- Takes a lifetime. -/
def lifetime : Reader Span := do
  let start ← here
  mark "'"
  kind .name
  spanFrom start

/-- Takes a literal. -/
def literal : Reader Unit := do
  let _ ← takeIf fun t => t.kind ∈ [.number, .string, .character]

/-- A list in delimiters, which may be empty and may end with a comma. -/
def listIn (count : Nat) (opening closing : String) (thing : Reader Unit) : Reader Unit := do
  mark opening
  let _ ← optional (separated count "," thing)
  let _ ← skip (isMark ",")
  mark closing

/-- The mark that closes a delimiter. -/
def closingOf : String → Option String
  | "(" => some ")"
  | "[" => some "]"
  | "\x7b" => some "\x7d"
  | _ => none

/-- Anything in balanced delimiters. -/
def tokenTree : Nat → Reader Span
  | 0 => failure
  | n + 1 => do
    let start ← here
    let opening ← takeIf fun t => t.kind == .mark && (closingOf t.text).isSome
    let plain := takeIf fun t =>
      t.kind != .mark || t.text ∉ ["(", "[", "\x7b", ")", "]", "\x7d"]
    let _ ← many n ((do let _ ← plain) <|> (do let _ ← tokenTree n))
    match closingOf opening.text with
    | some closing => mark closing
    | none => failure
    spanFrom start

/-- A path without generic arguments. -/
def path (n : Nat) : Reader Span := do
  let start ← here
  let _ ← skipMarks "::"
  kind .name
  let _ ← many n (do marks "::"; kind .name)
  spanFrom start

/-- An attribute. It may be given a value instead of arguments. -/
def attached (inner : Inner) (n : Nat) : Reader Attribute := do
  mark "#"
  mark "["
  let path ← path n
  let arguments ←
    (do
      if ← skip (isMark "=") then
        inner.expression
        return none
      else if ← next (isMark "]") then return none
      else return some (← tokenTree n))
  mark "]"
  return ⟨path, arguments⟩

/-! ## Types -/

/-- Words with a meaning of their own at the start of a type. -/
def typeWords : List String := ["impl", "dyn", "for", "fn", "unsafe", "extern", "const", "async"]

/-- The words in front of a function. -/
def functionModifiers (n : Nat) : Reader Unit := do
  let _ ← many n ((do word "extern"; let _ ← skip (·.kind == .string))
    <|> (do let _ ← takeIf fun t => t.kind == .name && t.text ∈ ["async", "default", "const",
      "unsafe"]))

/-- The form that a path has if nothing belongs to it: the name of an enclosing module does not
stand alone. -/
def bareName (t : Token) (first : Bool) : Reader TypeForm :=
  if t.text == "super" || (first && t.text ∈ ["self", "crate"]) then failure else return .path

mutual

/-- A type; several ones joined by plus signs bound each other. -/
def type (inner : Inner) : Nat → Reader Unit
  | 0 => failure
  | n + 1 => do
    if ← next (isMark "'") then
      let _ ← lifetime
      mark "+"
      type inner n
    else
      let _ ← plainType inner n
      let _ ← many n (do mark "+"; (do let _ ← lifetime) <|> (do let _ ← plainType inner n))

/-- A type that holds no plus sign outside its delimiters. -/
def plainType (inner : Inner) : Nat → Reader TypeForm
  | 0 => failure
  | n + 1 => do
    if ← skip (isMark "(") then
      if ← skip (isMark ")") then return .other
      let _ ← separated n "," (type inner n)
      let _ ← skip (isMark ",")
      mark ")"
      return .tuple
    else if ← skip (isMark "[") then
      type inner n
      if ← skip (isMark ";") then inner.expression
      mark "]"
      return .compound
    else if ← skip (isMark "!") then return .other
    else if ← skip (isMark "&") then
      let _ ← optional lifetime
      let _ ← skip (isWord "mut")
      let _ ← plainType inner n
      return .compound
    else if ← skip (isMark "*") then
      let _ ← takeIf fun t => isWord "const" t || isWord "mut" t
      let _ ← plainType inner n
      return .compound
    else if ← skip (isMark "?") then
      let _ ← plainType inner n
      return .relaxed
    else if ← next (isMark "<") then
      qualifiedSelf inner n
      pathType inner n
    else if ← skip (isWord "impl") then
      if ← next (isWord "for") then quantifier inner n
      (do
        let _ ← lifetime
        mark "+"
        let _ ← plainType inner n) <|> typeAmong [.path, .function, .tuple, .relaxed] inner n
      return .other
    else if ← skip (isWord "dyn") then
      (do
        quantifier inner n
        let _ ← plainType inner n) <|> typeAmong [.path, .function, .tuple] inner n
      return .other
    else if ← next (isWord "for") then
      quantifier inner n
      typeAmong [.function] inner n
      return .function
    else if ← next (fun t => t.kind == .name && t.text ∈ typeWords) then
      functionModifiers n
      word "fn"
      parameters inner n
      returnType inner n
      return .function
    else pathType inner n

/-- A type of one of the given forms that holds no plus sign outside its delimiters. -/
def typeAmong (forms : List TypeForm) (inner : Inner) : Nat → Reader Unit
  | 0 => failure
  | n + 1 => do
    let form ← plainType inner n
    if form ∉ forms then failure

/-- A type that stands in front of its bounds in a where clause. -/
def constrainedType (inner : Inner) : Nat → Reader Unit
  | 0 => failure
  | n + 1 =>
    (do
      quantifier inner n
      let _ ← plainType inner n)
    <|> typeAmong [.path, .tuple, .compound] inner n

/-- A type in angle brackets, possibly seen as a trait, with the colons behind it. -/
def qualifiedSelf (inner : Inner) : Nat → Reader Unit
  | 0 => failure
  | n + 1 => do
    mark "<"
    type inner n
    if ← skip (isWord "as") then type inner n
    mark ">"
    if !(← nextMarks "::") then failure

/-- The lifetimes that a type is quantified over. -/
def quantifier (inner : Inner) : Nat → Reader Unit
  | 0 => failure
  | n + 1 => do
    word "for"
    let _ ← typeParameters inner n

/-- The type behind an arrow, if there is one. -/
def returnType (inner : Inner) : Nat → Reader Unit
  | 0 => failure
  | n + 1 => do
    if ← skipMarks "->" then type inner n

/-- The names of a path, each possibly with arguments. Colons in front of arguments are followed
by further names. -/
def pathType (inner : Inner) : Nat → Reader TypeForm
  | 0 => failure
  | n + 1 => do
    let first := !(← skipMarks "::")
    if first && (← skip (isMark "$")) then
      kind .name
      if ← nextMarks "::" then pathType inner n else return .other
    else
      let t ← takeIf (·.kind == .name)
      if ← skip (isMark "!") then
        let _ ← tokenTree n
        return .other
      else if ← next (isMark "<") then
        typeArguments inner n
        if ← nextMarks "::" then pathType inner n else return .path
      else if ← next (isMark "(") then
        parameters inner n
        returnType inner n
        return .function
      else if ← nextMarks "::" then
        if (← peekAt 2).any (isMark "<") then
          marks "::"
          typeArguments inner n
          if !(← nextMarks "::") then failure
        pathType inner n
      else bareName t first

/-- The arguments of a generic type; there is at least one. -/
def typeArguments (inner : Inner) : Nat → Reader Unit
  | 0 => failure
  | n + 1 => do
    mark "<"
    let _ ← separated n "," (do
      typeArgument inner n
      if ← next (isMark ":") then bounds inner n)
    let _ ← skip (isMark ",")
    mark ">"

/-- An argument of a generic type: a lifetime, a literal, a block, a type, or the type of an
associated name. -/
def typeArgument (inner : Inner) : Nat → Reader Unit
  | 0 => failure
  | n + 1 => do
    if ← next (isMark "'") then
      let _ ← lifetime
      if ← skip (isMark "+") then type inner n
    else if ← next (fun t => t.kind ∈ [.number, .string, .character]) then literal
    else if ← next (isMark "\x7b") then inner.block
    else
      let named ← next (·.kind == .name)
      type inner n
      if named then
        if ← skip (isMark "=") then type inner n

/-- The bounds of a parameter, their colon first. -/
def bounds (inner : Inner) : Nat → Reader Unit
  | 0 => failure
  | n + 1 => do
    mark ":"
    let _ ← separated n "+" ((do let _ ← lifetime)
      <|> (do quantifier inner n; let _ ← plainType inner n)
      <|> (do let _ ← plainType inner n))

/-- The parameters of a function with their parentheses. -/
def parameters (inner : Inner) : Nat → Reader Unit
  | 0 => failure
  | n + 1 =>
    listIn n "(" ")" do
      let _ ← many n (attached inner n)
      (do
        let _ ← skip (isWord "mut")
        inner.pattern
        mark ":"
        (marks "..." <|> type inner n))
      <|> (do
        if ← skip (isMark "&") then
          let _ ← optional lifetime
        let _ ← skip (isWord "mut")
        word "self"
        if !(← next fun t => isMark "," t || isMark ")" t) then failure)
      <|> marks "..."
      <|> type inner n

/-- Generic parameters in angle brackets; there is at least one. -/
def typeParameters (inner : Inner) : Nat → Reader (List GenericParam)
  | 0 => failure
  | n + 1 => do
    mark "<"
    let params ← separated n "," (do
      let _ ← many n (attached inner n)
      typeParameter inner n)
    let _ ← skip (isMark ",")
    mark ">"
    return params.filterMap id

/-- A generic parameter; one that a macro stands for is passed over. -/
def typeParameter (inner : Inner) : Nat → Reader (Option GenericParam)
  | 0 => failure
  | n + 1 => do
    if ← skip (isMark "$") then
      kind .name
      return none
    else if ← next (isMark "'") then
      let name ← lifetime
      return some (.lifetime name (← optionalBounds inner n))
    else if ← skip (isWord "const") then
      let name ← name
      mark ":"
      let start ← here
      type inner n
      let span ← spanFrom start
      if ← skip (isMark "=") then
        (do
          let _ ← skip (isMark "-")
          literal) <|> kind .name <|> inner.block
      return some (.const name span)
    else
      let name ← name
      let bounds ← optionalBounds inner n
      if ← skip (isMark "=") then type inner n
      return some (.type name bounds)

/-- The bounds of a parameter, if there are any. -/
def optionalBounds (inner : Inner) : Nat → Reader (Option Span)
  | 0 => failure
  | n + 1 => do
    if ← next (isMark ":") then
      let start ← here
      bounds inner n
      return some (← spanFrom start)
    else return none

end

end Read

end Narrowing.StructSource
