import Narrowing.Reading.Token

/-!
# The item tree of a Rust file

A file is a list of items. Only attributes, structs and module blocks are told
apart; every other item just separates attributes from what follows.

## Main definitions

* `Attribute` — the path of an attribute and its arguments
* `GenericParam` — a generic parameter of a struct
* `Member` — an attribute or a field in the body of a struct
* `Item` — an item of a file
-/

namespace Narrowing.StructSource

open Reading (Span)

/-- An attribute. Its arguments are a token tree with its delimiters. -/
structure Attribute where
  path : Span
  arguments : Option Span := none
deriving DecidableEq, Repr, Inhabited

/-- A generic parameter. The bounds of a lifetime or a type start with their colon. -/
inductive GenericParam where
  | lifetime (name : Span) (bounds : Option Span)
  | type (name : Span) (bounds : Option Span)
  | const (name type : Span)
deriving DecidableEq, Repr, Inhabited

/-- A member of a struct's body. A field is placed at its visibility or, without one, at its
name. -/
inductive Member where
  | attached (note : Attribute)
  | field (start : Nat) (name type : Span)
deriving DecidableEq, Repr, Inhabited

/-- A struct, placed at its visibility or its keyword. It has members if its body names its
fields. -/
structure StructItem where
  start : Nat
  name : Span
  params : List GenericParam := []
  whereClause : Option Span := none
  members : Option (List Member) := none
deriving DecidableEq, Repr, Inhabited

/-- An item of a file or a module block. Comments are no items. -/
inductive Item where
  /-- An attribute that belongs to the item behind it. -/
  | attached (note : Attribute)
  | struct (item : StructItem)
  /-- A module with its items in a block. -/
  | module (items : List Item)
  | other
deriving Repr, Inhabited

end Narrowing.StructSource
