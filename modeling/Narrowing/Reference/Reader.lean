import Narrowing.Diagnostic
import Narrowing.Reference.Arguments
import Narrowing.Reference.Basic
import Narrowing.Text.Blank
import Narrowing.Text.Identifier

/-!
# Reading a source reference

A source is written as a name, or as a name with an argument list in angle or
square brackets:

    Bar      crate::model::Bar<#T, u32>      models.Bar[#T, list[int]]

An argument `#T` is free, every other one is bound. A bound argument may name
lifetimes except the anonymous one, which no emitted code could declare.

## Main definitions

* `Reference.Fault` — everything that can be wrong with a source text
* `Reference.ofText` — the reference that a text spells
-/

namespace Narrowing.Reference

open Text

/-- Everything that can be wrong with a source text. -/
inductive Fault where
  /-- The text does not end with the bracket that closes its argument list. -/
  | unclosed (opener : Char)
  | unbalanced
  | emptyList
  | borrowed
  | notTypeName (name : String)
  | emptyArgument (position : Nat)
  /-- A marker that is not the start of a whole free argument. -/
  | strayMarker (position : Nat) (argument : String)
  | anonymousLifetime (position : Nat) (argument : String)
deriving DecidableEq, Repr, Inhabited

namespace Fault

/-- The wording of a fault, without the text it was found in. -/
def summary : Fault → String
  | unclosed opener => s!"argument list opened with '{opener}' is not closed"
  | unbalanced => "unbalanced delimiters"
  | emptyList => "empty generic argument list"
  | borrowed => "borrowed sources are not supported; name the record type itself"
  | notTypeName name => s!"'{name}' is not a type name"
  | emptyArgument position => s!"generic argument {position} is empty"
  | strayMarker position argument =>
    s!"generic argument {position} ('{argument}'): '#' must be followed by a parameter name "
      ++ "and form the whole argument"
  | anonymousLifetime position argument =>
    s!"generic argument {position} ('{argument}'): the anonymous lifetime '_ is not supported"

/-- The wording of a fault found in the given text. -/
def message (fault : Fault) (text : String) : String := s!"{fault.summary} in '{text}'"

/-- The report of a fault in the source text of the given declaration. -/
def diagnose (fault : Fault) (text : String) (subject : Diagnostic.Subject) : Diagnostic :=
  .about subject .malformedDirective (fault.message text) (some "from_type")

end Fault

/-- The text is a type name: identifiers joined by dots or double colons. -/
def isTypeName (s : List Char) : Bool :=
  (nameSegments s).all isIdentifier

/-- An anonymous lifetime stands somewhere in the text: a quote and an underscore that no
further identifier character follows. -/
def hasAnonymousLifetime : List Char → Bool
  | [] => false
  | c :: r =>
    (match c, r with
      | '\'', '_' :: after => !(after.head?.any isNameChar)
      | _, _ => false) || hasAnonymousLifetime r

/-- The argument that a stripped piece of an argument list spells. -/
def readArgument (position : Nat) (piece : List Char) : Except Fault Argument :=
  let piece := strip piece
  if piece.isEmpty then .error (.emptyArgument position)
  else if piece.contains '#' then
    match piece with
    | '#' :: name =>
      if isIdentifier name then .ok (.free (String.ofList name))
      else .error (.strayMarker position (String.ofList piece))
    | _ => .error (.strayMarker position (String.ofList piece))
  else if hasAnonymousLifetime piece then
    .error (.anonymousLifetime position (String.ofList piece))
  else .ok (.bound (String.ofList piece))

/-- The arguments that the pieces of an argument list spell, the first one at the given
position. -/
def readArguments (position : Nat) : List (List Char) → Except Fault (List Argument)
  | [] => .ok []
  | piece :: pieces =>
    match readArgument position piece with
    | .error fault => .error fault
    | .ok argument => (readArguments (position + 1) pieces).map (argument :: ·)

/-- The opening bracket of an argument list. -/
def isListOpener (c : Char) : Bool := c == '<' || c == '['

/-- The pieces of the argument list after its opening bracket. -/
def readList (opener : Char) (rest : List Char) : Except Fault (List (List Char)) :=
  if rest.getLast? ≠ closerOf? opener then .error (.unclosed opener)
  else
    match splitArguments rest.dropLast with
    | none => .error .unbalanced
    | some pieces =>
      match pieces with
      | [piece] => if allBlank piece then .error .emptyList else .ok pieces
      | _ => .ok pieces

/-- The name and the argument pieces of a stripped text. -/
def splitName (s : List Char) : Except Fault (List Char × List (List Char)) :=
  match s.dropWhile (fun c => !isListOpener c) with
  | [] => .ok (s, [])
  | opener :: rest =>
    (readList opener rest).map fun pieces =>
      (strip (s.takeWhile fun c => !isListOpener c), pieces)

/-- The reference that a text spells. -/
def ofText (text : String) : Except Fault Reference :=
  match splitName (strip text.toList) with
  | .error fault => .error fault
  | .ok (name, pieces) =>
    if name.head? = some '&' then .error .borrowed
    else if !isTypeName name then .error (.notTypeName (String.ofList name))
    else (readArguments 1 pieces).map fun args => ⟨String.ofList name, args⟩

end Narrowing.Reference
