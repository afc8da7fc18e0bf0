import Narrowing.ClassSource.Statement
import Narrowing.Marking
import Narrowing.Schema
import Narrowing.SourceError

/-!
# Declarations of a Python module

The marked classes of a module. The fields of a class are the annotated
assignments to plain names in its own body, without class variables. A field's
markers stand in the brackets of `Annotated`, behind its type.

## Main definitions

* `Expr.marker?` — the option text of a marker
* `Expr.fieldType` — a field's type text and directive
* `FoundClass.declaration` — the declaration made by a marked class
* `declarations` — the declarations of a module
-/

namespace Narrowing.ClassSource

open Text (LineEnding placeOf allBlank)

/-- The source being read: its text, its file, and the name that marks classes and fields. -/
structure Source where
  text : List Char
  path : Option String := none
  marker : String
deriving DecidableEq, Repr, Inhabited

/-- The place of a position in a source. -/
def Source.locate (source : Source) (position : Nat) : Location :=
  let (line, column) := placeOf .universal source.text position
  ⟨source.path, line, column⟩

namespace Expr

/-- The option text of a call: its arguments as they are written, the keyword arguments last. -/
def optionText (source : Source) (args : List Expr) (keywords : List (Option String × Expr)) :
    String :=
  let keyword : Option String × Expr → String
    | (none, value) => s!"**{value.text source.text}"
    | (some key, value) => s!"{key}={value.text source.text}"
  ", ".intercalate (args.map (fun a => a.text source.text) ++ keywords.map keyword)

/-- The option text of a marker: none for a bare one, nothing at all if the expression is no
marker. -/
def marker? (source : Source) (e : Expr) : Option (Option String) :=
  match e with
  | call _ function args keywords =>
    if function.dottedTail = some source.marker then some (some (optionText source args keywords))
    else none
  | _ => if e.dottedTail = some source.marker then some none else none

/-- The expression is a subscript of the given name. -/
def subscriptOf? (name : String) : Expr → Option Expr
  | subscript _ value index => if value.dottedTail = some name then some index else none
  | _ => none

/-- The annotation makes a class variable. -/
def isClassVariable (hint : Expr) : Bool :=
  hint.dottedTail == some "ClassVar" || (hint.subscriptOf? "ClassVar").isSome

/-- The type text and the directive of a field, given its annotation. -/
def fieldType (source : Source) (hint : Expr) : Except SourceError (String × Option String) :=
  match hint.subscriptOf? "Annotated" with
  | none => .ok (hint.text source.text, none)
  | some index =>
    match index.elements with
    | [] => .error .emptyHint
    | type :: rest =>
      .ok (type.text source.text, directiveOf (rest.filterMap (marker? source)))

/-- The names among the elements of a subscript. -/
def elementNames (index : Expr) : List String :=
  index.elements.filterMap fun
    | name _ id => some id
    | _ => none

end Expr

/-- The parameters that a class declares: those behind its name or else the names in the brackets
of its first `Generic` base. -/
def paramsOf (typeParams : List String) (bases : List Expr) : List String :=
  if typeParams ≠ [] then typeParams
  else ((bases.findSome? (Expr.subscriptOf? "Generic")).map Expr.elementNames).getD []

/-- The field that a statement of a class body declares, with its directive. -/
def Statement.field? (source : Source) :
    Statement → Except SourceError (Option (Field × Option String))
  | .annotated start (.name _ name) hint =>
    if hint.isClassVariable then .ok none
    else
      (hint.fieldType source).map fun (type, directive) =>
        some (⟨name, type, some (source.locate start)⟩, directive)
  | _ => .ok none

namespace FoundClass

/-- The directive text of a class. -/
def directive (source : Source) (c : FoundClass) : Option String :=
  directiveOf (c.decorators.filterMap (Expr.marker? source))

/-- The declaration made by a class with the given directive text. -/
def declaration (source : Source) (directive : String) (c : FoundClass) :
    Except SourceError Declaration := do
  let fields ← c.body.mapM (Statement.field? source)
  let fields := fields.filterMap id
  let fieldDirectives := fields.filterMap fun (field, text) => text.map (field.name, ·)
  return {
    schema := {
      name := c.name
      params := paramsOf c.typeParams c.bases
      fields := fields.map Prod.fst
      location := some (source.locate c.start) }
    directive := some directive
    fieldDirectives := .ofPairs fieldDirectives }

/-- The declaration made by a class, if it is marked. A marked class stands directly in the
module. -/
def declaration? (source : Source) (c : FoundClass) : Except SourceError (Option Declaration) :=
  match c.directive source with
  | none => .ok none
  | some text =>
    if c.topLevel then (c.declaration source text).map some
    else .error (.innerClass c.name source.marker (source.locate c.start))

end FoundClass

/-- The declarations of a module, in document order. What is wrong with a text that is no module is
said by the compiler that is given. -/
def declarations (explain : String → Complaint) (path : Option String) (marker text : String) :
    Except SourceError (List Declaration) :=
  let source : Source := ⟨text.toList, path, marker⟩
  match moduleOf? source.text with
  | none => .error (.malformedModule path (explain text))
  | some module => do
    let found ← (Statement.classes module).mapM (FoundClass.declaration? source)
    return found.filterMap id

end Narrowing.ClassSource
