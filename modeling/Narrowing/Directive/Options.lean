import Narrowing.Diagnostic
import Narrowing.Directive.Item
import Narrowing.KeyedList
import Narrowing.Text.Quoted

/-!
# Options of a schema and of a field

The items of a directive text form a set of options: the order does not matter,
no key may be written twice and unknown keys are refused. The directive of a
schema names its source and may ask for every field to be unpacked; the
directive of a field may name another source field and overrule the unpacking.

## Main definitions

* `Fault` — everything that can be wrong with a directive text, with its kind,
  key and message
* `SchemaOptions.ofText` — the options of a schema
* `FieldOptions.ofText` — the options of a field
-/

namespace Narrowing.Directive

/-- What a directive text is attached to. -/
inductive Scope where
  | schema
  | field
deriving DecidableEq, Repr, Inhabited

/-- The keys that a directive text may use. -/
def Scope.keys : Scope → List String
  | .schema => ["from_type", "unpack"]
  | .field => ["rename_from", "unpack"]

/-- Everything that can be wrong with a directive text. -/
inductive Fault where
  | items (fault : ItemFault)
  | unknownOption (key : String) (scope : Scope)
  | repeatedOption (key : String) (scope : Scope)
  /-- The directive of a schema is absent or blank. -/
  | noOptions
  /-- The directive of a schema does not name a source. -/
  | sourceMissing
  /-- The source of a schema is blank. -/
  | sourceEmpty
  | stringExpected (key : String) (found : Value)
  | booleanExpected (key : String) (found : Value)
  /-- The source field is not an identifier. -/
  | notFieldName (text : String)
deriving DecidableEq, Repr, Inhabited

namespace LexicalFault

/-- The wording of a lexical fault. -/
def message : LexicalFault → String
  | unterminated column => s!"unterminated string starting at column {column}"
  | unexpected c column =>
    s!"unexpected character {Text.quoted (String.singleton c)} at column {column}"

end LexicalFault

namespace ItemFault

/-- The wording of a fault in a list of options. -/
def message : ItemFault → String
  | lexical fault => fault.message
  | nameExpected column found =>
    s!"expected an option name at column {column}, found {Text.quoted found}"
  | valueMissing _ => "missing value after '='"
  | commaExpected _ column found =>
    s!"expected ',' at column {column}, found {Text.quoted found}"

/-- The option at fault. -/
def key : ItemFault → Option String
  | lexical _ | nameExpected _ _ => none
  | valueMissing key | commaExpected key _ _ => some key

end ItemFault

namespace Value

/-- How a value is shown where a boolean was expected. -/
def shownForBoolean : Value → String
  | flag => ""
  | name text => text
  | string text => s!"\"{text}\""

/-- How a value is shown where a string was expected. -/
def shownForString : Value → String
  | flag => "no value"
  | name text | string text => text

/-- The boolean that a value stands for: a key alone means true. -/
def toBool? : Value → Option Bool
  | flag => some true
  | name text =>
    if text = "true" ∨ text = "True" then some true
    else if text = "false" ∨ text = "False" then some false
    else none
  | string _ => none

/-- The string that a value stands for. -/
def toString? : Value → Option String
  | string text => some text
  | flag | name _ => none

end Value

namespace Fault

/-- The kind under which a fault is reported. A repeated option is contradictory for a field
and malformed for a schema. -/
def kind : Fault → Diagnostic.Kind
  | repeatedOption _ .field => .conflictingFieldDirective
  | noOptions | sourceMissing => .missingFromType
  | _ => .malformedDirective

/-- The option at fault. -/
def key : Fault → Option String
  | items fault => fault.key
  | unknownOption key _ | repeatedOption key _ => some key
  | noOptions | sourceMissing | sourceEmpty => some "from_type"
  | stringExpected key _ | booleanExpected key _ => some key
  | notFieldName _ => some "rename_from"

/-- The wording of a fault. -/
def message : Fault → String
  | items fault => fault.message
  | unknownOption key scope =>
    let known := ", ".intercalate scope.keys
    s!"unknown option '{key}'; expected one of: {known}"
  | repeatedOption _ _ => "option given more than once"
  | noOptions => "directive has no options; `from_type` is required"
  | sourceMissing => "`from_type` is required"
  | sourceEmpty => "empty source type"
  | stringExpected _ found => s!"expected a quoted string, found {found.shownForString}"
  | booleanExpected _ found => s!"expected a boolean, found {found.shownForBoolean}"
  | notFieldName text => s!"'{text}' is not a field identifier"

/-- The report of a fault in the directive of the given declaration. -/
def diagnose (fault : Fault) (subject : Diagnostic.Subject) : Diagnostic :=
  .about subject fault.kind fault.message fault.key

end Fault

/-- The options of a directive text by key. -/
abbrev Options := KeyedList Value

namespace Options

/-- Adds the items one after another to the options already seen. -/
def collect (scope : Scope) (seen : Options) : List Item → Except Fault Options
  | [] => .ok seen
  | item :: rest =>
    if item.key ∉ scope.keys then .error (.unknownOption item.key scope)
    else if (seen.get? item.key).isSome then .error (.repeatedOption item.key scope)
    else collect scope (seen.put item.key item.value) rest

/-- The options of a directive text. -/
def ofText (scope : Scope) (text : String) : Except Fault Options :=
  match Item.ofText text with
  | .error fault => .error (.items fault)
  | .ok items => collect scope [] items

/-- The string of an option. -/
def string? (key : String) (value : Value) : Except Fault String :=
  match value.toString? with
  | some s => .ok s
  | none => .error (.stringExpected key value)

/-- The boolean of an option, if it is written. -/
def bool? (options : Options) (key : String) : Except Fault (Option Bool) :=
  match options.get? key with
  | none => .ok none
  | some value =>
    match value.toBool? with
    | some b => .ok (some b)
    | none => .error (.booleanExpected key value)

end Options

/-- A directive that is absent or blank says nothing. -/
def isSilent (text : Option String) : Bool :=
  match text with
  | none => true
  | some s => Text.allBlank s.toList

/-- The options of a schema: its source, as written, and whether its fields are unpacked. -/
structure SchemaOptions where
  source : String
  unpack : Bool
deriving DecidableEq, Repr, Inhabited

namespace SchemaOptions

/-- The options of a schema among those written. -/
def ofOptions (options : Options) : Except Fault SchemaOptions :=
  match options.get? "from_type" with
  | none => .error .sourceMissing
  | some value =>
    match Options.string? "from_type" value with
    | .error fault => .error fault
    | .ok written =>
      if Text.allBlank written.toList then .error .sourceEmpty
      else
        (options.bool? "unpack").map fun unpack => ⟨Text.trim written, unpack.getD false⟩

/-- The options of a schema in its directive text. -/
def ofText (text : Option String) : Except Fault SchemaOptions :=
  if isSilent text then .error .noOptions
  else
    match Options.ofText .schema (text.getD "") with
    | .error fault => .error fault
    | .ok options => ofOptions options

end SchemaOptions

/-- The options of a field; an absent one leaves the default in place. -/
structure FieldOptions where
  source : Option String := none
  unpack : Option Bool := none
deriving DecidableEq, Repr, Inhabited

namespace FieldOptions

/-- The source field that a field option names. -/
def source? (options : Options) : Except Fault (Option String) :=
  match options.get? "rename_from" with
  | none => .ok none
  | some value =>
    match Options.string? "rename_from" value with
    | .error fault => .error fault
    | .ok written =>
      let name := Text.trim written
      if Text.isIdentifier name.toList then .ok (some name) else .error (.notFieldName name)

/-- The options of a field among those written. -/
def ofOptions (options : Options) : Except Fault FieldOptions :=
  match source? options with
  | .error fault => .error fault
  | .ok source => (options.bool? "unpack").map fun unpack => ⟨source, unpack⟩

/-- The options of a field in its directive text. A silent directive leaves every default. -/
def ofText (text : Option String) : Except Fault FieldOptions :=
  if isSilent text then .ok {}
  else
    match Options.ofText .field (text.getD "") with
    | .error fault => .error fault
    | .ok options => ofOptions options

/-- The source field of the named field: the one it is renamed from, or its own name. An
empty source field counts as absent. -/
def sourceFor (options : FieldOptions) (name : String) : String :=
  match options.source with
  | none => name
  | some source => if source = "" then name else source

/-- The field names another source field. -/
def isRenaming (options : FieldOptions) : Bool :=
  match options.source with
  | none => false
  | some source => source != ""

/-- Whether a field is unpacked, given the choice made for the whole schema. -/
def unpackFor (options : FieldOptions) (schemaWide : Bool) : Bool :=
  options.unpack.getD schemaWide

end FieldOptions

end Narrowing.Directive
