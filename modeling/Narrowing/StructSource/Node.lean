import Narrowing.StructSource.Tree

/-!
# The syntax tree of a Rust file

What parses a file is given to the program: it names the nodes of a syntax tree by
their kinds and by their fields in the node above. Only few kinds matter here, and a
node without the children that its kind asks for is passed over.

## Main definitions

* `Node` — a node with those below it
* `Parser` — what parses a file
* `Node.error?` — the first node that is an error
* `Node.comments` — the comments below a node
* `Node.param?` — the generic parameter that an entry of a list introduces
* `Node.structItem?` — the struct that a node is
* `Node.items` — the items that a node stands for
-/

namespace Narrowing.StructSource

open Reading (Span)

/-- A node of a syntax tree: its kind, the text that it covers, the field of the node above in
which it stands, and the nodes below it. A node may be named or be a mere mark, and it may stand
for something that is missing. -/
structure Node where
  kind : String
  span : Span
  field : Option String := none
  isNamed : Bool := true
  isMissing : Bool := false
  children : List Node := []
deriving Repr, Inhabited

/-- What a parser makes of a file: its tree, and whether anything in it is an error. -/
structure Tree where
  root : Node
  hasError : Bool := false
deriving Repr, Inhabited

/-- What parses the text of a file. -/
abbrev Parser := String → Tree

namespace Node

/-- The named nodes directly below a node. -/
def namedChildren (n : Node) : List Node := n.children.filter isNamed

/-- The first node directly below in the given field. -/
def child? (n : Node) (field : String) : Option Node :=
  n.children.find? fun c => c.field == some field

/-- The node is a comment. -/
def isComment (n : Node) : Bool := n.kind ∈ ["line_comment", "block_comment"]

/-! ## Errors and comments -/

mutual

/-- The first node that is an error or stands for something missing. -/
def error? : Node → Option Node
  | ⟨kind, span, field, isNamed, isMissing, children⟩ =>
    if kind == "ERROR" || isMissing then some ⟨kind, span, field, isNamed, isMissing, children⟩
    else errorAmong? children

/-- The first error among some nodes and those below them. -/
def errorAmong? : List Node → Option Node
  | [] => none
  | n :: rest => n.error?.or (errorAmong? rest)

end

mutual

/-- The comments below a node. -/
def comments : Node → List Span
  | ⟨_, _, _, _, _, children⟩ => commentsAmong children

/-- The comments among some nodes and those below them. What is below a comment is none. -/
def commentsAmong : List Node → List Span
  | [] => []
  | n :: rest => (if n.isComment then [n.span] else n.comments) ++ commentsAmong rest

end

/-! ## Attributes -/

/-- The attribute in an attribute item. -/
def attribute? (n : Node) : Option Attribute := do
  let inner ← n.namedChildren.find? (·.kind == "attribute")
  let path ← inner.namedChildren.head?
  return ⟨path.span, (inner.child? "arguments").map span⟩

/-! ## Generic parameters -/

/-- The kinds of parameters that may have bounds. -/
def boundedKinds : List String :=
  ["type_parameter", "constrained_type_parameter", "lifetime_parameter"]

/-- Tells the node that holds the name of a parameter which may have bounds: in a field, or else
the first that can be one. -/
def isHead (siblings : List Node) (n : Node) : Bool :=
  let inField (field : String) (n : Node) : Bool := n.field == some field
  if siblings.any (inField "name") then inField "name" n
  else if siblings.any (inField "left") then inField "left" n
  else n.isNamed && n.kind ∈ ["lifetime", "type_identifier"]

/-- The parameter with other bounds. A constant has none. -/
def withBounds (bounds : Option Span) : GenericParam → GenericParam
  | .lifetime name _ => .lifetime name bounds
  | .type name _ | .const name _ => .type name bounds

mutual

/-- The generic parameter that an entry of a list introduces: its kind, its name and its bounds, but
not its default. -/
def param? : Node → Option GenericParam
  | ⟨kind, span, _, _, _, children⟩ =>
    let inField (field : String) : Option Node := children.find? fun c => c.field == some field
    if kind == "lifetime" then some (.lifetime span none)
    else if kind == "type_identifier" then some (.type span none)
    else if kind == "const_parameter" then do
      let name ← inField "name"
      let type ← inField "type"
      return .const name.span type.span
    else if kind == "optional_type_parameter" then
      paramWhere? (fun c => c.field == some "name") children
    else if kind ∈ boundedKinds then
      let bounds := (inField "bounds").map Node.span
      (paramWhere? (isHead children) children).map (withBounds bounds)
    else none

/-- The parameter that the first of some nodes introduces for which a condition holds. -/
def paramWhere? (condition : Node → Bool) : List Node → Option GenericParam
  | [] => none
  | n :: rest => if condition n then n.param? else paramWhere? condition rest

end

/-- The entries of the list of parameters of a struct. -/
def paramEntries (n : Node) : List Node :=
  ((n.child? "type_parameters").map namedChildren).getD []

/-! ## Structs -/

/-- The member of a struct that a node in its body is. -/
def member? (n : Node) : Option Member :=
  if n.kind == "attribute_item" then n.attribute?.map .attached
  else if n.kind == "field_declaration" then do
    let name ← n.child? "name"
    let type ← n.child? "type"
    return .field n.span.start name.span type.span
  else none

/-- The struct that a node is. -/
def structItem? (n : Node) : Option StructItem := do
  let name ← n.child? "name"
  let body := (n.child? "body").filter (·.kind == "field_declaration_list")
  return {
    start := n.span.start
    name := name.span
    params := n.paramEntries.filterMap param?
    whereClause := (n.namedChildren.find? (·.kind == "where_clause")).map span
    members := body.map fun b => b.namedChildren.filterMap member? }

/-! ## Items -/

mutual

/-- The items that a node stands for: none for a comment, which does not separate attributes from
what follows. -/
def items : Node → List Item
  | ⟨kind, span, field, isNamed, isMissing, children⟩ =>
    let n : Node := ⟨kind, span, field, isNamed, isMissing, children⟩
    if kind == "attribute_item" then (n.attribute?.map .attached).toList
    else if n.isComment then []
    else if kind == "struct_item" then [(n.structItem?.map .struct).getD .other]
    else if kind == "mod_item" then [((bodyItems? children).map .module).getD .other]
    else [.other]

/-- The items that the named ones among some nodes stand for. -/
def itemsAmong : List Node → List Item
  | [] => []
  | n :: rest => (if n.isNamed then n.items else []) ++ itemsAmong rest

/-- The items in the body among the nodes below a module. -/
def bodyItems? : List Node → Option (List Item)
  | [] => none
  | ⟨_, _, field, _, _, children⟩ :: rest =>
    if field == some "body" then some (itemsAmong children) else bodyItems? rest

end

end Node

namespace Tree

/-- The items of a file. -/
def items (t : Tree) : List Item := Node.itemsAmong t.root.children

/-- The place of the first error in a file. -/
def errorStart (t : Tree) : Nat := (t.root.error?.getD t.root).span.start

end Tree

end Narrowing.StructSource
