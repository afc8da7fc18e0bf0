import Narrowing.ClassSource.Keyword
import Narrowing.ClassSource.Literal
import Narrowing.ClassSource.Tree

/-!
# Expressions of a Python module

The expression grammar. Every reader is given a depth that bounds how far it may
descend; a module is read with a depth that its length cannot exhaust.

## Main definitions

* `Expr.isSingleTarget`, `Expr.isTarget` — what may stand left of an assignment
* `Read.expression`, `Read.starExpressions` — expressions and expression lists
* `Read.arguments` — the arguments of a call or class
* `Read.targets` — the targets of a loop or comprehension
-/

namespace Narrowing.ClassSource

namespace Expr

/-- The expression may be annotated or assigned with an operator. -/
def isSingleTarget : Expr → Bool
  | name _ _ | member _ _ _ | subscript _ _ _ => true
  | _ => false

mutual

/-- The expression may be assigned or, without stars, deleted. Elements of a tuple or a list may
be starred if `stars` says so. -/
def isTarget (stars : Bool) : Expr → Bool
  | name _ _ | member _ _ _ | subscript _ _ _ => true
  | tuple _ es | list _ es => areTargets stars es
  | _ => false

/-- All elements, or what is behind their stars, may be assigned. -/
def areTargets (stars : Bool) : List Expr → Bool
  | [] => true
  | starred _ e :: es => stars && isTarget stars e && areTargets stars es
  | e :: es => isTarget stars e && areTargets stars es

end

end Expr

namespace Read

open Reading Reading.Reader Reading.Token

/-- What stands in parentheses, brackets or braces: a comprehension, or elements with a note on
whether a comma was written. -/
inductive Display where
  | comprehension
  | elements (es : List Expr) (comma : Bool)

/-- The marks of the binary operators, the ones that bind least first. -/
def binaryMarks : Nat → List String
  | 4 => ["|"]
  | 5 => ["^"]
  | 6 => ["&"]
  | 7 => ["<<", ">>"]
  | 8 => ["+", "-"]
  | 9 => ["*", "/", "//", "%", "@"]
  | _ => []

/-- Takes a comparison operator. -/
def comparison : Reader Unit := do
  if ← skip (fun t => t.kind == .mark && t.text ∈ ["==", "!=", "<=", ">=", "<", ">"]) then return
  else if ← skip (isWord "in") then return
  else if ← skip (isWord "is") then
    let _ ← skip (isWord "not")
  else
    word "not"
    word "in"

/-- Takes the operator of a binary level. -/
def operator (level : Nat) : Reader Unit :=
  match level with
  | 0 => word "or"
  | 1 => word "and"
  | 3 => comparison
  | n => do
    let _ ← takeIf fun t => t.kind == .mark && t.text ∈ binaryMarks n

/-- The next token ends an expression list. -/
def atListEnd : Reader Bool := do
  match ← peek with
  | none => return true
  | some t =>
    return t.kind == .newline || t.kind == .endOfSource
      || (t.kind == .mark && t.text ∈ [")", "]", "\x7d", ":", "=", ";", "+=", "-=", "*=", "/=", "//=",
        "%=", "@=", "&=", "|=", "^=", "<<=", ">>=", "**="])
      || (t.kind == .name && t.text == "in")

/-- How far the arguments of a call have come: positional ones, keyword ones, or double-starred
ones. -/
inductive ArgumentPhase where
  | positional
  | keyword
  | doubleStarred
deriving DecidableEq

/-- The arguments of a call, in two lists. -/
structure Arguments where
  args : List Expr := []
  keywords : List (Option String × Expr) := []

/-- How far a parameter list has come. -/
structure ParameterPhase where
  any : Bool := false
  slash : Bool := false
  star : Bool := false
  bare : Bool := false
  defaulted : Bool := false

mutual

/-- An expression list, which is a tuple if it holds a comma. -/
def starExpressions : Nat → Reader Expr
  | 0 => failure
  | n + 1 => do
    let start ← here
    let first ← starExpression n
    let rest ← many n (do mark ","; starExpression n)
    let comma ← skip (isMark ",")
    if rest.isEmpty && !comma then return first
    else return .tuple (← spanFrom start) (first :: rest)

/-- An expression or a starred one. -/
def starExpression : Nat → Reader Expr
  | 0 => failure
  | n + 1 => do
    let start ← here
    if ← skip (isMark "*") then
      let e ← binary n 4
      return .starred (← spanFrom start) e
    else expression n

/-- An expression, a starred one, or a named one. -/
def starNamedExpression : Nat → Reader Expr
  | 0 => failure
  | n + 1 => do
    let start ← here
    if ← skip (isMark "*") then
      let e ← binary n 4
      return .starred (← spanFrom start) e
    else namedExpression n

/-- An expression that may give its value a name. -/
def namedExpression : Nat → Reader Expr
  | 0 => failure
  | n + 1 => do
    let start ← here
    if (← next isIdentifier) && (← peekSecond).any (isMark ":=") then
      let _ ← identifier
      mark ":="
      let _ ← expression n
      return .other (← spanFrom start)
    else expression n

/-- An expression. -/
def expression : Nat → Reader Expr
  | 0 => failure
  | n + 1 => do
    let start ← here
    if ← skip (isWord "lambda") then
      parameters n false {}
      mark ":"
      let _ ← expression n
      return .other (← spanFrom start)
    else
      let e ← binary n 0
      if ← skip (isWord "if") then
        let _ ← binary n 0
        word "else"
        let _ ← expression n
        return .other (← spanFrom start)
      else return e

/-- An operand of the given binary level. -/
def binary : Nat → Nat → Reader Expr
  | 0, _ => failure
  | n + 1, level => do
    let start ← here
    if level == 2 then
      if ← skip (isWord "not") then
        let _ ← binary n 2
        return .other (← spanFrom start)
      else binary n 3
    else if level ≥ 10 then
      if ← skip (fun t => t.kind == .mark && t.text ∈ ["+", "-", "~"]) then
        let _ ← binary n 10
        return .other (← spanFrom start)
      else
        let base ← primary n
        if ← skip (isMark "**") then
          let _ ← binary n 10
          return .other (← spanFrom start)
        else return base
    else
      let first ← binary n (level + 1)
      let rest ← many n (do operator level; binary n (level + 1))
      if rest.isEmpty then return first else return .other (← spanFrom start)

/-- An atom with what is applied to it, possibly awaited. -/
def primary : Nat → Reader Expr
  | 0 => failure
  | n + 1 => do
    let start ← here
    if ← skip (isWord "await") then
      let _ ← primary n
      return .other (← spanFrom start)
    else
      let e ← atom n
      trailers n start e

/-- The members, calls and subscripts applied to an expression. -/
def trailers : Nat → Nat → Expr → Reader Expr
  | 0, _, _ => failure
  | n + 1, start, e => do
    if ← skip (isMark ".") then
      let attr ← identifier
      trailers n start (.member (← spanFrom start) e attr)
    else if ← next (isMark "(") then
      let a ← callArguments n
      trailers n start (.call (← spanFrom start) e a.args a.keywords)
    else if ← skip (isMark "[") then
      let index ← subscripts n
      mark "]"
      trailers n start (.subscript (← spanFrom start) e index)
    else return e

/-- The arguments of a call with their parentheses. A comprehension may stand alone; its
parentheses are those of the call. -/
def callArguments : Nat → Reader Arguments
  | 0 => failure
  | n + 1 => do
    let start ← here
    mark "("
    (do
      let a ← arguments n .positional {}
      mark ")"
      return a) <|> (do
      let _ ← namedExpression n
      comprehension n
      mark ")"
      return { args := [.other (← spanFrom start)] })

/-- Arguments up to the closing parenthesis. Positional ones come before keyword ones, single
stars before double ones. -/
def arguments : Nat → ArgumentPhase → Arguments → Reader Arguments
  | 0, _, _ => failure
  | n + 1, phase, a => do
    if ← next (isMark ")") then return a
    else
      let start ← here
      let continued (phase : ArgumentPhase) (a : Arguments) : Reader Arguments := do
        if ← skip (isMark ",") then arguments n phase a
        else if ← next (isMark ")") then return a
        else failure
      if ← skip (isMark "**") then
        let e ← expression n
        continued .doubleStarred { a with keywords := a.keywords ++ [(none, e)] }
      else if ← skip (isMark "*") then
        if phase = .doubleStarred then failure
        else
          let e ← expression n
          let e := Expr.starred (← spanFrom start) e
          continued phase { a with args := a.args ++ [e] }
      else if (← next isIdentifier) && (← peekSecond).any (isMark "=") then
        let key ← identifier
        mark "="
        let e ← expression n
        continued (if phase = .positional then .keyword else phase)
          { a with keywords := a.keywords ++ [(some key, e)] }
      else if phase = .positional then
        let e ← namedExpression n
        continued phase { a with args := a.args ++ [e] }
      else failure

/-- The index of a subscript, which is a tuple if it holds a comma or a star. -/
def subscripts : Nat → Reader Expr
  | 0 => failure
  | n + 1 => do
    let start ← here
    let first ← subscriptItem n
    let rest ← many n (do mark ","; subscriptItem n)
    let comma ← skip (isMark ",")
    match first, rest, comma with
    | .starred _ _, _, _ => return .tuple (← spanFrom start) (first :: rest)
    | _, [], false => return first
    | _, _, _ => return .tuple (← spanFrom start) (first :: rest)

/-- An index, a slice or a starred expression. -/
def subscriptItem : Nat → Reader Expr
  | 0 => failure
  | n + 1 => do
    let start ← here
    if ← skip (isMark "*") then
      let e ← binary n 4
      return .starred (← spanFrom start) e
    else
      let lower ← (if ← next (isMark ":") then pure none else some <$> namedExpression n)
      match lower, ← skip (isMark ":") with
      | some e, false => return e
      | none, false => failure
      | _, true =>
        sliceBound n
        if ← skip (isMark ":") then sliceBound n
        return .other (← spanFrom start)

/-- The upper bound or the step of a slice, which may be left out. -/
def sliceBound : Nat → Reader Unit
  | 0 => failure
  | n + 1 => do
    if ← next (fun t => isMark ":" t || isMark "," t || isMark "]" t) then return
    else
      let _ ← expression n

/-- The clauses of a comprehension. -/
def comprehension : Nat → Reader Unit
  | 0 => failure
  | n + 1 => do
    let _ ← skip (isWord "async")
    word "for"
    targets n
    word "in"
    let _ ← binary n 0
    let _ ← many n (do word "if"; binary n 0)
    if ← next (fun t => isWord "for" t || isWord "async" t) then comprehension n

/-- The targets of a loop or a comprehension. -/
def targets : Nat → Reader Unit
  | 0 => failure
  | n + 1 => do
    let _ ← separated n "," (target n)
    let _ ← skip (isMark ",")

/-- One target, possibly starred. -/
def target : Nat → Reader Unit
  | 0 => failure
  | n + 1 => do
    let _ ← skip (isMark "*")
    let e ← primary n
    if e.isTarget true then return else failure

/-- The elements of a display up to its closing mark, or a comprehension. -/
def display : Nat → Reader Display
  | 0 => failure
  | n + 1 => do
    if ← atListEnd then return .elements [] false
    else
      let first ← starNamedExpression n
      if ← next (fun t => isWord "for" t || isWord "async" t) then
        match first with
        | .starred _ _ => failure
        | _ =>
          comprehension n
          return .comprehension
      else
        let rest ← many n (do mark ","; starNamedExpression n)
        let comma ← skip (isMark ",")
        return .elements (first :: rest) (comma || !rest.isEmpty)

/-- An entry of a dictionary display. -/
def entry : Nat → Reader Unit
  | 0 => failure
  | n + 1 => do
    if ← skip (isMark "**") then
      let _ ← binary n 4
    else
      let _ ← expression n
      mark ":"
      let _ ← expression n

/-- A dictionary display up to its closing brace. -/
def dictionary : Nat → Reader Unit
  | 0 => failure
  | n + 1 => do
    if ← next (isMark "\x7d") then return
    else
      let double ← next (isMark "**")
      entry n
      if !double && (← next (fun t => isWord "for" t || isWord "async" t)) then comprehension n
      else
        let _ ← many n (do mark ","; entry n)
        let _ ← skip (isMark ",")

/-- A yield expression. -/
def yieldExpression : Nat → Reader Expr
  | 0 => failure
  | n + 1 => do
    let start ← here
    word "yield"
    if ← skip (isWord "from") then
      let _ ← expression n
    else if ← atListEnd then pure ()
    else
      let _ ← starExpressions n
    return .other (← spanFrom start)

/-- The expressions in a formatted literal can be read. -/
def formatted : Nat → StringLiteral → Reader Unit
  | 0, _ => failure
  | n + 1, l => do
    match formatExpressions l with
    | none => failure
    | some expressions =>
      let readable := expressions.all fun e =>
        !(e.all fun c => isLineBlank c || isBreakChar c) &&
          (match tokensOf? ('(' :: e ++ [')']) with
          | none => false
          | some tokens => ((starExpressions n).run ⟨tokens, 0⟩).isSome)
      if readable then return else failure

/-- An atom: a name, a literal, or something in parentheses, brackets or braces. -/
def atom : Nat → Reader Expr
  | 0 => failure
  | n + 1 => do
    let start ← here
    match ← peek with
    | none => failure
    | some t =>
      match t.kind with
      | .name =>
        if t.text ∈ ["True", "False", "None"] then
          word t.text
          return .other (← spanFrom start)
        else
          let id ← identifier
          return .name (← spanFrom start) id
      | .number =>
        kind .number
        return .other (← spanFrom start)
      | .string =>
        let tokens ← some1 n (takeIf (·.kind == .string))
        let literals := tokens.map fun t => StringLiteral.ofText t.text.toList
        let binary := literals.map StringLiteral.binary
        if literals.all StringLiteral.escapesAgree && (binary.all id || !binary.any id) then
          for l in literals do
            if l.formatted then formatted n l
          return .other (← spanFrom start)
        else failure
      | .mark =>
        if ← skip (isMark "...") then return .other (← spanFrom start)
        else if ← skip (isMark "(") then
          if ← next (isWord "yield") then
            let e ← yieldExpression n
            mark ")"
            return e
          else
            let d ← display n
            mark ")"
            let span ← spanFrom start
            match d with
            | .comprehension => return .other span
            | .elements [.starred _ _] false => failure
            | .elements [e] false => return e
            | .elements es _ => return .tuple span es
        else if ← skip (isMark "[") then
          let d ← display n
          mark "]"
          let span ← spanFrom start
          match d with
          | .comprehension => return .other span
          | .elements es _ => return .list span es
        else if ← skip (isMark "\x7b") then
          (do
            dictionary n
            mark "\x7d"
            return .other (← spanFrom start)) <|> (do
            match ← display n with
            | .elements [] _ => failure
            | _ =>
              mark "\x7d"
              return .other (← spanFrom start))
        else failure
      | _ => failure

/-- The parameters of a function or, without annotations, of a lambda. A parameter without a
default does not follow one with a default unless a star stands between them. -/
def parameters : Nat → Bool → ParameterPhase → Reader Unit
  | 0, _, _ => failure
  | n + 1, annotated, phase => do
    let atEnd : Reader Bool := next (isMark (if annotated then ")" else ":"))
    let hint (starred : Bool) : Reader Unit := do
      if annotated then
        if ← skip (isMark ":") then
          let _ ← (if starred then starExpression n else expression n)
    let continued (phase : ParameterPhase) : Reader Unit := do
      if ← skip (isMark ",") then parameters n annotated phase
      else if ← atEnd then return
      else failure
    if ← atEnd then (if phase.bare then failure else return)
    else if ← skip (isMark "**") then
      if phase.bare then failure
      else
        let _ ← identifier
        hint false
        let _ ← skip (isMark ",")
        if ← atEnd then return else failure
    else if ← skip (isMark "*") then
      if phase.star then failure
      else if ← next (isMark ",") then continued { phase with star := true, bare := true }
      else
        let _ ← identifier
        hint true
        continued { phase with star := true }
    else if ← skip (isMark "/") then
      if phase.slash || phase.star || !phase.any then failure
      else continued { phase with slash := true }
    else
      let _ ← identifier
      hint false
      let hasDefault ← skip (isMark "=")
      if hasDefault then
        let _ ← expression n
      if phase.defaulted && !phase.star && !hasDefault then failure
      else
        continued { phase with
          any := true, bare := false, defaulted := phase.defaulted || hasDefault }

end

end Read

end Narrowing.ClassSource
