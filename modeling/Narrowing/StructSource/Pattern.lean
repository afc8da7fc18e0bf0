import Narrowing.StructSource.Type

/-!
# Patterns of a Rust file

## Main definitions

* `Read.pattern` — a pattern, possibly of several alternatives
-/

namespace Narrowing.StructSource.Read

open Reading Reading.Reader Reading.Token

/-- The marks of a range; the longer ones come first. -/
def rangeMarks : List String := ["..=", "...", ".."]

/-- Takes the marks of a range if they come next, and tells whether they did. -/
def skipRange : Reader Bool := rangeMarks.anyM skipMarks

/-- A literal, possibly negated. -/
def signedLiteral : Reader Unit := do
  let _ ← skip (isMark "-")
  literal

/-- The end of a range of constants. -/
def rangeEnd (n : Nat) : Reader Unit := signedLiteral <|> (do let _ ← path n)

/-- A path whose arguments stand behind colons. -/
def valuePath (inner : Inner) : Nat → Reader Unit
  | 0 => failure
  | n + 1 => do
    let _ ← skipMarks "::"
    if ← next (isMark "<") then typeArguments inner n
    else if ← skip (isMark "$") then kind .name
    else kind .name
    if ← nextMarks "::" then valuePath inner n

mutual

/-- A pattern, possibly of several alternatives. -/
def pattern (inner : Inner) : Nat → Reader Unit
  | 0 => failure
  | n + 1 => do
    let _ ← skip (isMark "|")
    let _ ← separated n "|" (plainPattern inner n)

/-- A pattern without alternatives. -/
def plainPattern (inner : Inner) : Nat → Reader Unit
  | 0 => failure
  | n + 1 => do
    if ← skip (isMark "&") then
      let _ ← skip (isWord "mut")
      plainPattern inner n
    else if ← skip (fun t => isWord "ref" t || isWord "mut" t) then plainPattern inner n
    else if ← next (isMark "(") then listIn n "(" ")" (pattern inner n)
    else if ← next (isMark "[") then listIn n "[" "]" (pattern inner n)
    else if ← skipRange then
      let _ ← optional (rangeEnd n)
    else if ← next (fun t => t.kind == .name || isMark "<" t || isMark ":" t) then
      if (← next (isWord "const")) && (← peekSecond).any (isMark "\x7b") then
        word "const"
        inner.block
      else namedPattern inner n
    else
      signedLiteral
      if ← skipRange then
        let _ ← optional (rangeEnd n)

/-- A pattern that starts with a path. -/
def namedPattern (inner : Inner) : Nat → Reader Unit
  | 0 => failure
  | n + 1 => do
    if ← next (isMark "<") then qualifiedSelf inner n
    valuePath inner n
    if ← skip (isMark "!") then
      let _ ← tokenTree n
    else if ← next (isMark "(") then listIn n "(" ")" (pattern inner n)
    else if ← next (isMark "\x7b") then listIn n "\x7b" "\x7d" (fieldPattern inner n)
    else if ← skip (isMark "@") then plainPattern inner n
    else if ← skipRange then
      let _ ← optional (rangeEnd n)

/-- A field in the pattern of a struct, or the mark for all other fields. -/
def fieldPattern (inner : Inner) : Nat → Reader Unit
  | 0 => failure
  | n + 1 => do
    let _ ← many n (attached inner n)
    if ← skipMarks ".." then return
    else
      let _ ← skip (isWord "ref")
      let _ ← skip (isWord "mut")
      kind .name <|> kind .number
      if ← skip (isMark ":") then pattern inner n

end

end Narrowing.StructSource.Read
