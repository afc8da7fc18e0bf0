import Narrowing.Reading.Token

/-!
# The tree of a Python module

A module is a list of statements. Of its expressions only the shapes that a
marker, a base class or an annotation can have are told apart; of its statements
only class definitions, annotated assignments and the ones that hold blocks.

## Main definitions

* `Expr` — an expression with the part of the text it covers
* `Statement` — a statement with the blocks in it
* `Expr.dottedTail` — the last name of a dotted name
* `Statement.classes` — all classes in a list of statements, in document order
-/

namespace Narrowing.ClassSource

open Reading (Span)

/-- An expression with the part of the text that it covers. Parentheses around an expression
are not part of it, those of a tuple are. -/
inductive Expr where
  | name (span : Span) (id : String)
  | member (span : Span) (value : Expr) (attr : String)
  /-- A call with its positional arguments, starred ones included, and its keyword arguments;
  a keyword argument without a name is a double-starred one. -/
  | call (span : Span) (function : Expr) (args : List Expr) (keywords : List (Option String × Expr))
  | subscript (span : Span) (value index : Expr)
  | tuple (span : Span) (elements : List Expr)
  | list (span : Span) (elements : List Expr)
  | starred (span : Span) (value : Expr)
  /-- Any other expression. -/
  | other (span : Span)
deriving Repr, Inhabited

namespace Expr

/-- The part of the text that an expression covers. -/
def span : Expr → Span
  | name s _ | member s _ _ | call s _ _ _ | subscript s _ _ | tuple s _ | list s _
  | starred s _ | other s => s

/-- The text of an expression. -/
def text (e : Expr) (source : List Char) : String := e.span.text source

/-- The last name of a dotted name: the name itself, or the attribute taken last. -/
def dottedTail : Expr → Option String
  | name _ id => some id
  | member _ _ attr => some attr
  | _ => none

/-- The elements of a subscript: those of a tuple, or the one index. -/
def elements : Expr → List Expr
  | tuple _ es => es
  | e => [e]

end Expr

/-- A statement with the blocks in it. -/
inductive Statement where
  /-- A class definition; it is placed at its keyword. Parameters may stand in brackets behind its
  name. -/
  | classDef (start : Nat) (name : String) (typeParams : List String) (decorators bases : List Expr)
    (body : List Statement)
  /-- An annotated assignment. -/
  | annotated (start : Nat) (target hint : Expr)
  /-- Any other statement that holds blocks, in the order in which they are written. -/
  | compound (blocks : List (List Statement))
  /-- Any other statement. -/
  | simple
deriving Repr, Inhabited

/-- A class of a module, and whether it stands directly in the module. -/
structure FoundClass where
  topLevel : Bool
  start : Nat
  name : String
  typeParams : List String
  decorators : List Expr
  bases : List Expr
  body : List Statement
deriving Repr, Inhabited

namespace Statement

mutual

/-- The classes in a statement, in document order. -/
def classesIn (topLevel : Bool) : Statement → List FoundClass
  | classDef start name typeParams decorators bases body =>
    ⟨topLevel, start, name, typeParams, decorators, bases, body⟩ :: classesInList false body
  | compound blocks => classesInBlocks blocks
  | annotated _ _ _ | simple => []

/-- The classes in a list of statements, in document order. -/
def classesInList (topLevel : Bool) : List Statement → List FoundClass
  | [] => []
  | s :: rest => classesIn topLevel s ++ classesInList topLevel rest

/-- The classes in the blocks of a compound statement, in document order. -/
def classesInBlocks : List (List Statement) → List FoundClass
  | [] => []
  | block :: rest => classesInList false block ++ classesInBlocks rest

end

/-- All classes of a module, in document order. -/
def classes (module : List Statement) : List FoundClass := classesInList true module

end Statement

end Narrowing.ClassSource
