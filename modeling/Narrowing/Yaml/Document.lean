import Narrowing.Yaml.Reader
import Narrowing.Yaml.Scalar
import Narrowing.Yaml.Token

/-!
# A reader of plain YAML documents

A reader for the part of YAML in which configurations are usually written: lists
and mappings in lines or in brackets, with plain and quoted scalars. Outside
brackets and braces, columns tell what belongs to what: the entries of a list or a
mapping start in one column, and what an entry holds is further right, except that
a list may start in the column of the key that holds it.

The rest of the language is left out: scalars in blocks, anchors and aliases, tags,
directives, keys behind a question mark, merged keys, and more documents than one. A
number with a point keeps its spelling, and a date is a text.

## Main definitions

* `Node.block` — a value written in lines
* `Node.flow` — a value in brackets or braces, or a scalar
* `documentOf?` — the value of a document
* `plainReader` — the reader
-/

namespace Narrowing.Yaml

/-- A part of a document: a value with the tokens behind it. -/
abbrev Node (α : Type) := Option (α × List Token)

namespace Node

/-- The scalar that a token is. -/
def scalar? (t : Token) : Option Value :=
  match t.piece with
  | .plain text => some (scalarOf text)
  | .quoted text => some (.text text)
  | _ => none

/-- The key at the front: a scalar with a colon behind it on its line. -/
def key? : List Token → Option (Value × Token × List Token)
  | t :: colon :: rest =>
    if colon.piece = .colon ∧ colon.line = t.line then (scalar? t).map (·, colon, rest) else none
  | _ => none

/-- A plain scalar that goes on in lines further right than a column: its lines are joined by
spaces, empty lines between them are breaks. -/
def continued (floor : Nat) (text : String) (line : Nat) : List Token → String × List Token
  | t :: rest =>
    match t.piece with
    | .plain more =>
      if line < t.line ∧ floor ≤ t.column then
        let gap := if t.line = line + 1 then " " else "".pushn '\n' (t.line - line - 1)
        continued floor (text ++ gap ++ more) t.line rest
      else (text, t :: rest)
    | _ => (text, t :: rest)
  | [] => (text, [])

/-- The entries of a mapping after one was written: a key that is there keeps its place. -/
def putEntry (entries : List (Value × Value)) (key value : Value) : List (Value × Value) :=
  if entries.any (·.1 == key) then
    entries.map fun e => if e.1 == key then (key, value) else e
  else entries ++ [(key, value)]

mutual

/-- A value in brackets or braces, or a scalar. -/
def flow (floor : Nat) : Nat → List Token → Node Value
  | 0, _ | _, [] => none
  | n + 1, t :: rest =>
    match t.piece with
    | .openList => flowList n [] rest
    | .openMap => flowMap n [] rest
    | .quoted text => some (.text text, rest)
    | .plain text =>
      let (text, rest) := continued floor text t.line rest
      some (scalarOf text, rest)
    | _ => none

/-- The rest of a list in brackets. A key with its value alone is a mapping with one entry. -/
def flowList : Nat → List Value → List Token → Node Value
  | 0, _, _ | _, _, [] => none
  | n + 1, found, t :: rest =>
    if t.piece = .closeList then some (.list found, rest)
    else
      match flow 0 n (t :: rest) with
      | none => none
      | some (value, rest) =>
        match flowValue n rest with
        | none => none
        | some (none, rest) => flowNext n (found ++ [value]) rest
        | some (some held, rest) => flowNext n (found ++ [.mapping [(value, held)]]) rest

/-- The rest of a list in brackets behind one of its elements. -/
def flowNext : Nat → List Value → List Token → Node Value
  | 0, _, _ | _, _, [] => none
  | n + 1, found, t :: rest =>
    match t.piece with
    | .comma => flowList n found rest
    | .closeList => some (.list found, rest)
    | _ => none

/-- The value behind a colon in brackets or braces, if there is a colon. -/
def flowValue : Nat → List Token → Node (Option Value)
  | 0, _ => none
  | _, [] => some (none, [])
  | n + 1, t :: rest =>
    if t.piece = .colon then
      match rest with
      | [] => none
      | u :: _ =>
        if u.piece ∈ [.comma, .closeMap, .closeList] then some (some .null, rest)
        else (flow 0 n rest).map fun (value, rest) => (some value, rest)
    else some (none, t :: rest)

/-- The rest of a mapping in braces. -/
def flowMap : Nat → List (Value × Value) → List Token → Node Value
  | 0, _, _ | _, _, [] => none
  | n + 1, found, t :: rest =>
    if t.piece = .closeMap then some (.mapping found, rest)
    else
      match flow 0 n (t :: rest) with
      | none => none
      | some (key, rest) =>
        match flowValue n rest with
        | none => none
        | some (held, rest) =>
          let found := putEntry found key (held.getD .null)
          match rest with
          | [] => none
          | u :: rest =>
            match u.piece with
            | .comma => flowMap n found rest
            | .closeMap => some (.mapping found, rest)
            | _ => none

end

mutual

/-- A value written in lines, the first of which starts at the first token. -/
def block (floor : Nat) : Nat → List Token → Node Value
  | 0, _ => none
  | _, [] => some (.null, [])
  | n + 1, t :: rest =>
    if t.piece = .dash then blockList t.column n [] (t :: rest)
    else if (key? (t :: rest)).isSome then blockMap t.column n [] (t :: rest)
    else flow floor (2 * rest.length + 2) (t :: rest)
termination_by structural n => n

/-- The rest of a list whose dashes stand in one column. -/
def blockList (column : Nat) : Nat → List Value → List Token → Node Value
  | 0, _, _ => none
  | _, found, [] => some (.list found, [])
  | n + 1, found, t :: rest =>
    if t.piece = .dash ∧ t.column = column then
      match rest with
      | [] => some (.list (found ++ [.null]), [])
      | u :: _ =>
        if u.line = t.line ∨ column < u.column then
          match block (column + 1) n rest with
          | none => none
          | some (value, rest) => blockList column n (found ++ [value]) rest
        else blockList column n (found ++ [.null]) rest
    else some (.list found, t :: rest)
termination_by structural n => n

/-- The rest of a mapping whose keys stand in one column. -/
def blockMap (column : Nat) : Nat → List (Value × Value) → List Token → Node Value
  | 0, _, _ => none
  | _, found, [] => some (.mapping found, [])
  | n + 1, found, t :: rest =>
    match key? (t :: rest) with
    | none => some (.mapping found, t :: rest)
    | some (key, colon, rest) =>
      if t.column ≠ column then some (.mapping found, t :: colon :: rest)
      else
        match blockValue column colon.line n rest with
        | none => none
        | some (value, rest) => blockMap column n (putEntry found key value) rest
termination_by structural n => n

/-- The value behind a key in a column and its colon in a line. -/
def blockValue (column line : Nat) : Nat → List Token → Node Value
  | 0, _ => none
  | _, [] => some (.null, [])
  | n + 1, t :: rest =>
    if t.line = line then
      if (key? (t :: rest)).isSome then none
      else flow (column + 1) (2 * rest.length + 2) (t :: rest)
    else if column < t.column ∨ (t.piece = .dash ∧ t.column = column) then
      block (column + 1) n (t :: rest)
    else some (.null, t :: rest)
termination_by structural n => n

end

end Node

/-- The value of a document, or nothing when its text describes none. An empty document has no
value. -/
def documentOf? (s : String) : Option Value := do
  let tokens ← tokensOf? s
  let (value, rest) ← Node.block 0 (3 * tokens.length + 3) tokens
  if rest.isEmpty then some value else none

/-- The reader of plain documents. -/
def plainReader : Reader := fun text =>
  match documentOf? text with
  | some document => .ok document
  | none => .error ⟨"the text is no plain YAML document"⟩

end Narrowing.Yaml
