import Narrowing.Marking
import Narrowing.Schema
import Narrowing.SourceError
import Narrowing.StructSource.Node
import Narrowing.Text.Blank

/-!
# Declarations of a Rust file

The marked structs of a file. The attributes that stand between a struct and the
item before it belong to it, and likewise for a field; comments between them do
not separate them. Texts are taken over with a space for every comment.

## Main definitions

* `Attribute.marker?` — the option text of a marker
* `GenericParam.decl` — a generic parameter without its default
* `StructItem.declaration` — the declaration made by a marked struct
* `declarations` — the declarations of a file
-/

namespace Narrowing.StructSource

open Reading (Span)
open Text (placeOf slice strip joinWords)

/-- The source being read: its text and comments, its file, and the name that marks structs and
fields. -/
structure Source where
  text : List Char
  comments : List Span
  path : Option String := none
  marker : String
deriving Repr, Inhabited

namespace Source

/-- The place of a position in a source. -/
def locate (source : Source) (position : Nat) : Location :=
  let (line, column) := placeOf .feed source.text position
  ⟨source.path, line, column⟩

/-- The text of a span with a space for every one of the given comments in it. -/
def textWithout (source : Source) (span : Span) : List Span → List Char
  | [] => slice source.text span.start span.stop
  | c :: rest =>
    if span.start ≤ c.start ∧ c.stop ≤ span.stop then
      slice source.text span.start c.start ++ ' ' :: source.textWithout ⟨c.stop, span.stop⟩ rest
    else source.textWithout span rest

/-- The text of a span with a space for every comment in it. -/
def textOf (source : Source) (span : Span) : List Char := source.textWithout span source.comments

end Source

namespace Attribute

/-- The text of a token tree without its delimiters. -/
def optionText (source : Source) (arguments : Span) : String :=
  String.ofList ((strip (source.textOf arguments)).drop 1).dropLast

/-- The option text of a marker: none for a bare one, nothing at all if the attribute is no
marker. -/
def marker? (source : Source) (a : Attribute) : Option (Option String) :=
  if a.path.text source.text = source.marker then some (a.arguments.map (optionText source))
  else none

/-- The directive text of the attributes in front of one item or field. -/
def directive (source : Source) (attributes : List Attribute) : Option String :=
  directiveOf (attributes.filterMap (marker? source))

end Attribute

namespace GenericParam

/-- The bounds of a parameter behind its name, with single spaces. -/
def boundsText (source : Source) : Option Span → String
  | none => ""
  | some bounds =>
    let text := (source.textOf bounds).dropWhile (· == ':')
    s!": {String.ofList (joinWords text)}"

/-- The parameter is a lifetime. -/
def isLifetime : GenericParam → Bool
  | lifetime _ _ => true
  | _ => false

/-- The parameter with its bounds or its type, but without its default. -/
def decl (source : Source) : GenericParam → ParamDecl
  | lifetime name bounds | type name bounds =>
    let name := name.text source.text
    ⟨name, name ++ boundsText source bounds⟩
  | const name written =>
    let name := name.text source.text
    ⟨name, s!"const {name}: {written.text source.text}"⟩

end GenericParam

/-- The fields among the members of a struct, each with its directive, given the attributes in
front of the first member. -/
def fieldsOf (source : Source) (pending : List Attribute) :
    List Member → List (Field × Option String)
  | [] => []
  | .attached a :: rest => fieldsOf source (pending ++ [a]) rest
  | .field start name type :: rest =>
    (⟨name.text source.text, type.text source.text, some (source.locate start)⟩,
      Attribute.directive source pending) :: fieldsOf source [] rest

namespace StructItem

/-- The declaration made by a struct with the given members and directive text. -/
def declaration (source : Source) (directive : String) (members : List Member) (s : StructItem) :
    Declaration :=
  let fields := fieldsOf source [] members
  let names (params : List GenericParam) := params.map fun p => (p.decl source).name
  { schema := {
      name := s.name.text source.text
      params := names (s.params.filter fun p => !p.isLifetime)
      lifetimes := names (s.params.filter GenericParam.isLifetime)
      fields := fields.map Prod.fst
      location := some (source.locate s.start)
      paramDecls := s.params.map (GenericParam.decl source)
      whereClause := s.whereClause.map fun span => String.ofList (joinWords (source.textOf span)) }
    directive := some directive
    fieldDirectives := .ofPairs (fields.filterMap fun (field, text) => text.map (field.name, ·)) }

/-- The declaration made by a struct behind the given attributes, if they mark it. A marked
struct stands outside modules and names its fields. -/
def declaration? (source : Source) (inModule : Bool) (attributes : List Attribute)
    (s : StructItem) : Except SourceError (Option Declaration) :=
  match Attribute.directive source attributes with
  | none => .ok none
  | some text =>
    let name := s.name.text source.text
    if inModule then .error (.innerStruct name source.marker (source.locate s.start))
    else
      match s.members with
      | none => .error (.unnamedFields name source.marker (source.locate s.start))
      | some members => .ok (some (s.declaration source text members))

end StructItem

/-- The declarations among items, given the attributes in front of the first one. -/
def declarationsIn (source : Source) (inModule : Bool) (pending : List Attribute) :
    List Item → Except SourceError (List Declaration)
  | [] => .ok []
  | .attached a :: rest => declarationsIn source inModule (pending ++ [a]) rest
  | .struct s :: rest => do
    let found ← s.declaration? source inModule pending
    return found.toList ++ (← declarationsIn source inModule [] rest)
  | .module items :: rest => do
    let found ← declarationsIn source true [] items
    return found ++ (← declarationsIn source inModule [] rest)
  | .other :: rest => declarationsIn source inModule [] rest

/-- The source that a file with the given tree is. -/
def Tree.source (tree : Tree) (path : Option String) (marker text : String) : Source :=
  ⟨text.toList, tree.root.comments, path, marker⟩

/-- The declarations of a file, in document order. -/
def declarations (parse : Parser) (path : Option String) (marker text : String) :
    Except SourceError (List Declaration) :=
  let tree := parse text
  let source := tree.source path marker text
  if tree.hasError then .error (.malformedFile (source.locate tree.errorStart))
  else declarationsIn source false [] tree.items

end Narrowing.StructSource
