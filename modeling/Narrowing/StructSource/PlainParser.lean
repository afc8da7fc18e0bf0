import Narrowing.StructSource.Expression
import Narrowing.StructSource.Node

/-!
# A parser of plain Rust files

The syntax tree of a file, as far as declarations are read from it: attributes, the
headers and the fields of structs, the bodies of modules, and comments. Of any other
item there is a node without a place and without nodes below it, and a file that is
not read is one error.

## Main definitions

* `Item.node` — the node of an item
* `plainParser` — the parser
-/

namespace Narrowing.StructSource

open Reading (Span)

/-- The node of an attribute. -/
def Attribute.node (a : Attribute) : Node :=
  let span : Span := ⟨a.path.start, (a.arguments.getD a.path).stop⟩
  let arguments := a.arguments.map fun span : Span =>
    ({ kind := "token_tree", span, field := some "arguments" } : Node)
  { kind := "attribute_item", span
    children := [{ kind := "attribute", span
                   children := { kind := "scoped_identifier", span := a.path } :: arguments.toList }] }

/-- The node of bounds. -/
def boundsNode (span : Span) : Node := { kind := "trait_bounds", span, field := some "bounds" }

/-- The node of a generic parameter. -/
def GenericParam.node : GenericParam → Node
  | .lifetime name bounds =>
    { kind := "lifetime_parameter", span := ⟨name.start, (bounds.getD name).stop⟩
      children :=
        { kind := "lifetime", span := name, field := some "name" } :: (bounds.map boundsNode).toList }
  | .type name bounds =>
    { kind := "type_parameter", span := ⟨name.start, (bounds.getD name).stop⟩
      children :=
        { kind := "type_identifier", span := name, field := some "name" }
          :: (bounds.map boundsNode).toList }
  | .const name written =>
    { kind := "const_parameter", span := ⟨name.start, written.stop⟩
      children := [{ kind := "identifier", span := name, field := some "name" },
        { kind := "type", span := written, field := some "type" }] }

/-- The node of a member of a struct. -/
def Member.node : Member → Node
  | .attached a => a.node
  | .field start name type =>
    { kind := "field_declaration", span := ⟨start, type.stop⟩
      children := [{ kind := "field_identifier", span := name, field := some "name" },
        { kind := "type", span := type, field := some "type" }] }

/-- The node of a struct. -/
def StructItem.node (s : StructItem) : Node :=
  let whereClause := s.whereClause.map fun span => ({ kind := "where_clause", span } : Node)
  let body := s.members.map fun members =>
    ({ kind := "field_declaration_list", span := s.name, field := some "body"
       children := members.map Member.node } : Node)
  { kind := "struct_item", span := ⟨s.start, s.name.stop⟩
    children :=
      [{ kind := "type_identifier", span := s.name, field := some "name" },
        { kind := "type_parameters", span := s.name, field := some "type_parameters"
          children := s.params.map GenericParam.node }]
        ++ whereClause.toList ++ body.toList }

mutual

/-- The node of an item. -/
def Item.node : Item → Node
  | .attached a => a.node
  | .struct s => s.node
  | .module items =>
    { kind := "mod_item", span := ⟨0, 0⟩
      children := [{ kind := "declaration_list", span := ⟨0, 0⟩, field := some "body"
                     children := Item.nodes items }] }
  | .other => { kind := "empty_statement", span := ⟨0, 0⟩ }

/-- The nodes of some items. -/
def Item.nodes : List Item → List Node
  | [] => []
  | item :: rest => item.node :: Item.nodes rest

end

/-- The parser of plain files. -/
def plainParser : Parser := fun text =>
  match fileOf? text.toList with
  | some (items, comments) =>
    let comment (span : Span) : Node := { kind := "block_comment", span }
    { root := { kind := "source_file", span := ⟨0, text.length⟩
                children := comments.map comment ++ Item.nodes items } }
  | none => { root := { kind := "ERROR", span := ⟨0, text.length⟩ }, hasError := true }

end Narrowing.StructSource
