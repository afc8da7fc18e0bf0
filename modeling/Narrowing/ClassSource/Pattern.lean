import Narrowing.ClassSource.Expression

/-!
# Case patterns of a Python module

Patterns hold no classes, so a reader only decides whether one stands here and
where it ends.

## Main definitions

* `Read.pattern` — one pattern
* `Read.casePattern` — what stands behind `case`, possibly an open sequence
-/

namespace Narrowing.ClassSource.Read

open Reading Reading.Reader Reading.Token

/-- The number is imaginary. -/
def isImaginary (number : String) : Bool := number.endsWith "j" || number.endsWith "J"

/-- A number, possibly negated and possibly the sum of a real and an imaginary one. -/
def numberPattern : Reader Unit := do
  let _ ← skip (isMark "-")
  let first ← takeIf (·.kind == .number)
  if ← skip (fun t => isMark "+" t || isMark "-" t) then
    let second ← takeIf (·.kind == .number)
    if isImaginary first.text || !isImaginary second.text then failure

/-- A number, a string or one of the constants. -/
def literalPattern (n : Nat) : Reader Unit := do
  match ← peek with
  | none => failure
  | some t =>
    if t.kind == .string then
      let _ ← atom n
    else if t.kind == .name && t.text ∈ ["None", "True", "False"] then word t.text
    else numberPattern

/-- A dotted name and the number of names in it. -/
def dottedName (n : Nat) : Reader Nat := return (← separated n "." identifier).length

/-- A name that captures what it stands for. -/
def captureName : Reader Unit := do
  let name ← takeIf isIdentifier
  if name.text == "_" || (← next fun t => isMark "." t || isMark "(" t || isMark "=" t) then failure

mutual

/-- A pattern, possibly with a name for what it matches. -/
def pattern : Nat → Reader Unit
  | 0 => failure
  | n + 1 => do
    let _ ← separated n "|" (closedPattern n)
    if ← skip (isWord "as") then captureName

/-- A pattern that ends by itself. -/
def closedPattern : Nat → Reader Unit
  | 0 => failure
  | n + 1 => do
    if ← skip (isMark "(") then
      sequencePattern n
      mark ")"
    else if ← skip (isMark "[") then
      sequencePattern n
      mark "]"
    else if ← skip (isMark "\x7b") then
      mappingPattern n
      mark "\x7d"
    else if ← next isIdentifier then
      let _ ← dottedName n
      if ← skip (isMark "(") then
        classArguments n false
        mark ")"
      else if ← next (isMark "=") then failure
    else literalPattern n

/-- The elements of a sequence up to its closing mark. One pattern in parentheses is that
pattern, so that a starred one needs a comma there. -/
def sequencePattern : Nat → Reader Unit
  | 0 => failure
  | n + 1 => do
    if ← next (fun t => isMark ")" t || isMark "]" t) then return
    else
      let starred ← next (isMark "*")
      elementPattern n
      if starred && (← next (isMark ")")) then failure
      let _ ← many n (do mark ","; elementPattern n)
      let _ ← skip (isMark ",")

/-- An element of a sequence, possibly starred. -/
def elementPattern : Nat → Reader Unit
  | 0 => failure
  | n + 1 => do
    if ← skip (isMark "*") then
      if ← next (isWord "_") then
        let _ ← identifier
      else captureName
    else pattern n

/-- The entries of a mapping up to its closing brace; a double-starred name comes last. -/
def mappingPattern : Nat → Reader Unit
  | 0 => failure
  | n + 1 => do
    if ← next (isMark "\x7d") then return
    else if ← skip (isMark "**") then
      captureName
      let _ ← skip (isMark ",")
    else
      if ← next isIdentifier then
        if (← dottedName n) < 2 then failure
      else literalPattern n
      mark ":"
      pattern n
      if ← skip (isMark ",") then mappingPattern n

/-- The arguments of a class pattern up to the closing parenthesis; once one has a name, all
have. -/
def classArguments : Nat → Bool → Reader Unit
  | 0, _ => failure
  | n + 1, named => do
    if ← next (isMark ")") then return
    else
      let hasName := (← next isIdentifier) && (← peekSecond).any (isMark "=")
      if hasName then
        let _ ← identifier
        mark "="
        pattern n
      else if named then failure
      else pattern n
      if ← skip (isMark ",") then classArguments n hasName

end

/-- What stands behind `case`: a pattern, or a sequence of patterns without brackets. -/
def casePattern (n : Nat) : Reader Unit := do
  let starred ← next (isMark "*")
  elementPattern n
  let rest ← many n (do mark ","; elementPattern n)
  let comma ← skip (isMark ",")
  if starred && rest.isEmpty && !comma then failure

end Narrowing.ClassSource.Read
