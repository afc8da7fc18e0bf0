import Narrowing.Request

/-!
# Field mappings

Every target field reads one source field: the one it is renamed from, or the
one of its own name. No source field is read twice. Whether the source really
has such a field, and whether it is optional, is left to the compiler of the
emitted code.

## Main definitions

* `Mapping` — a target field with the source field it reads
* `SharedSource` — a source field that two target fields would read
* `Request.mappings` — the mappings of all fields, in declaration order
-/

namespace Narrowing

/-- A target field with the source field that it reads and whether it is unpacked. -/
structure Mapping where
  target : String
  source : String
  unpack : Bool
  type : String
  location : Option Location := none
deriving DecidableEq, Repr, Inhabited

/-- The target field reads a source field of another name. -/
def Mapping.isRenamed (m : Mapping) : Bool := m.source != m.target

/-- A source field that a target field would read although an earlier one already does. -/
structure SharedSource where
  field : Field
  source : String
  reader : String
  renamed : Bool
deriving DecidableEq, Repr, Inhabited

namespace SharedSource

/-- The report of a shared source field, placed at the later reader. -/
def diagnose (fault : SharedSource) (target : Schema) : Diagnostic :=
  .about ⟨target.name, some fault.field.name, fault.field.location.or target.location⟩
    .conflictingFieldDirective
    s!"source field '{fault.source}' is already read by field '{fault.reader}'"
    (if fault.renamed then some "rename_from" else none)

end SharedSource

namespace Request

/-- The mapping of one field. -/
def mapping (r : Request) (field : Field) : Mapping :=
  let options := r.optionsFor field.name
  { target := field.name, source := options.sourceFor field.name
    unpack := options.unpackFor r.unpack, type := field.type, location := field.location }

/-- The mappings of the fields, given the reader of each source field claimed so far. -/
def mappingsFrom (r : Request) (claimed : KeyedList String) :
    List Field → Except SharedSource (List Mapping)
  | [] => .ok []
  | field :: rest =>
    let m := r.mapping field
    match claimed.get? m.source with
    | some reader =>
      .error ⟨field, m.source, reader, (r.optionsFor field.name).isRenaming⟩
    | none => (r.mappingsFrom (claimed.put m.source field.name) rest).map (m :: ·)

/-- The mappings of all fields of a target, in declaration order. -/
def mappings (r : Request) (target : Schema) : Except Diagnostic (List Mapping) :=
  (r.mappingsFrom [] target.fields).mapError (·.diagnose target)

end Request

end Narrowing
