import Narrowing.Text.Quoted

/-!
# Arguments of a command

How the words behind a command are sorted into switches and operands. A switch
may be shortened as long as it stays unambiguous, its value may stand behind an
equals sign or in the next word, and after two dashes every word is an operand.
Operands are taken in runs: the first run fills as many as it can, and an
operand that may be left out is then taken as left out.

## Main definitions

* `Switch`, `Operand`, `Grammar` — what a command accepts
* `UsageFault` — why words cannot be sorted
* `Sorted` — what was given for each switch and operand, and the words left over
* `Grammar.sort` — sorting words
-/

namespace Narrowing.CommandLine

/-- A switch, with or without a value. The values may be restricted to a list. -/
structure Switch where
  names : List String
  takesValue : Bool := false
  choices : List String := []
deriving DecidableEq, Repr, Inhabited

/-- How many words an operand takes. -/
inductive Arity where
  | one
  | atMostOne
  /-- One word and everything behind it. -/
  | rest
deriving DecidableEq, Repr, Inhabited

/-- An operand, named for what it is. -/
structure Operand where
  name : String
  arity : Arity := .one
  choices : List String := []
deriving DecidableEq, Repr, Inhabited

/-- What a command accepts. -/
structure Grammar where
  program : String
  switches : List Switch := []
  operands : List Operand := []
deriving DecidableEq, Repr, Inhabited

/-- Why words cannot be sorted. -/
inductive UsageFault where
  | ambiguous (word : String) (names : List String)
  | noValue (switch : String)
  | needlessValue (switch value : String)
  | invalidChoice (name value : String) (choices : List String)
  | missing (names : List String)
  | unrecognized (words : List String)
deriving DecidableEq, Repr, Inhabited

/-- The wording of a fault. -/
def UsageFault.message : UsageFault → String
  | ambiguous word names => s!"ambiguous option: {word} could match " ++ ", ".intercalate names
  | noValue switch => s!"argument {switch}: expected one argument"
  | needlessValue switch value =>
    s!"argument {switch}: ignored explicit argument {Text.quoted value}"
  | invalidChoice name value choices =>
    s!"argument {name}: invalid choice: {Text.quoted value} (choose from "
      ++ ", ".intercalate (choices.map Text.quoted) ++ ")"
  | missing names => "the following arguments are required: " ++ ", ".intercalate names
  | unrecognized words => "unrecognized arguments: " ++ " ".intercalate words

/-- What was given: the values of each switch and operand by its first name, in order, and the
words left over. A switch without a value is given the empty list. -/
structure Sorted where
  given : List (String × List String) := []
  extras : List String := []
deriving DecidableEq, Repr, Inhabited

namespace Sorted

/-- The value given last under a name. -/
def value? (s : Sorted) (name : String) : Option String :=
  (s.given.filterMap fun g => if g.1 = name then g.2.getLast? else none).getLast?

/-- All values given under a name, in order. -/
def values (s : Sorted) (name : String) : List String :=
  s.given.flatMap fun g => if g.1 = name then g.2 else []

/-- The name was given. -/
def has (s : Sorted) (name : String) : Bool := s.given.any (·.1 == name)

end Sorted

namespace Switch

/-- The spelling of a switch in messages. -/
def label (s : Switch) : String := "/".intercalate s.names

/-- The name under which the values of a switch are kept. -/
def key (s : Switch) : String := s.names.headD ""

end Switch

/-- A word that is read as a switch: the switch, if it is known, the name used, and the value
attached to it. `byEquals` tells whether an equals sign attaches it. -/
structure Reading where
  switch : Option Switch
  name : String
  byEquals : Bool := false
  attached : Option String := none
deriving DecidableEq, Repr, Inhabited

/-- What a word is before it is taken. -/
inductive Word where
  | operand (text : String)
  | dashes
  | switch (text : String) (reading : Reading)
deriving DecidableEq, Repr, Inhabited

namespace Word

/-- The word as it was written. -/
def text : Word → String
  | operand t | switch t _ => t
  | dashes => "--"

/-- The word is read as a switch. -/
def isSwitch : Word → Bool
  | switch _ _ => true
  | _ => false

end Word

/-- A text parted at its first equals sign, if it has one. -/
def partAtEquals (s : List Char) : List Char × Option (List Char) :=
  match s.dropWhile (· != '=') with
  | [] => (s, none)
  | _ :: value => (s.takeWhile (· != '='), some value)

/-- The text is a negative number. -/
def isNegativeNumber (s : List Char) : Bool :=
  match s with
  | '-' :: r =>
    let digits := r.dropWhile Char.isDigit
    (digits.isEmpty && !r.isEmpty)
      || (match digits with
        | '.' :: fraction => !fraction.isEmpty && fraction.all Char.isDigit
        | _ => false)
  | _ => false

namespace Grammar

/-- All names of all switches, in order. -/
def names (g : Grammar) : List (String × Switch) :=
  g.switches.flatMap fun s => s.names.map (·, s)

/-- The switches that a word may be short for. -/
def readings (g : Grammar) (word : List Char) : List Reading :=
  match word with
  | '-' :: '-' :: _ =>
    let (start, value) := partAtEquals word
    (g.names.filter fun (name, _) => start.isPrefixOf name.toList).map fun (name, s) =>
      ⟨some s, name, value.isSome, value.map String.ofList⟩
  | _ =>
    g.names.filterMap fun (name, s) =>
      if name.toList = word.take 2 then
        some ⟨some s, name, false, some (String.ofList (word.drop 2))⟩
      else if word.isPrefixOf name.toList then some ⟨some s, name, false, none⟩
      else none

/-- The word as a switch, or nothing if it is an operand. -/
def reading? (g : Grammar) (word : String) : Except UsageFault (Option Reading) :=
  let s := word.toList
  let known (name : List Char) : Option Switch := g.names.lookup (String.ofList name)
  if s.head? ≠ some '-' then .ok none
  else
    match known s with
    | some switch => .ok (some ⟨some switch, word, false, none⟩)
    | none =>
      if s.length = 1 then .ok none
      else
        let (start, value) := partAtEquals s
        match value, known start with
        | some value, some switch =>
          .ok (some ⟨some switch, String.ofList start, true, some (String.ofList value)⟩)
        | _, _ =>
          match g.readings s with
          | [r] => .ok (some r)
          | [] =>
            if isNegativeNumber s || s.contains ' ' then .ok none
            else .ok (some ⟨none, word, false, none⟩)
          | rs => .error (.ambiguous word (rs.map Reading.name))

/-- The words before they are taken. -/
def words (g : Grammar) : List String → Except UsageFault (List Word)
  | [] => .ok []
  | "--" :: rest => .ok (.dashes :: rest.map .operand)
  | word :: rest => do
    let first ← (match ← g.reading? word with
      | none => .ok (.operand word)
      | some r => .ok (.switch word r) : Except UsageFault Word)
    return first :: (← g.words rest)

/-! ## Taking operands -/

/-- The number of dashes at the front, which is at most one. -/
def dashesAtFront : List Word → Nat
  | .dashes :: rest => dashesAtFront rest + 1
  | _ => 0

/-- How many of the words an operand takes, or nothing if it does not fit. -/
def fit (o : Operand) (ws : List Word) : Option Nat :=
  let dashes := dashesAtFront ws
  let rest := ws.drop dashes
  match o.arity, rest with
  | .one, .operand _ :: r => some (dashes + 1 + dashesAtFront r)
  | .one, _ => none
  | .atMostOne, .operand _ :: r => some (dashes + 1 + dashesAtFront r)
  | .atMostOne, _ => some dashes
  | .rest, .operand _ :: _ => some ws.length
  | .rest, _ => none

/-- The operands that the words at the front fill, each with its words, the operands that are
left and the words behind. -/
def fill : List Operand → List Word → List (Operand × List Word) × List Operand × List Word
  | [], ws => ([], [], ws)
  | o :: os, ws =>
    match fit o ws with
    | none => ([], o :: os, ws)
    | some n =>
      let (filled, left, rest) := fill os (ws.drop n)
      ((o, ws.take n) :: filled, left, rest)

/-- Takes the words of an operand. The first two dashes are not among its values unless it takes
everything. -/
def takeOperand (s : Sorted) (o : Operand) (ws : List Word) : Except UsageFault Sorted :=
  let values :=
    if o.arity = .rest then ws.map Word.text else (ws.map Word.text).erase "--"
  match values with
  | [] => .ok s
  | first :: _ =>
    if o.choices ≠ [] ∧ first ∉ o.choices then
      .error (.invalidChoice o.name first o.choices)
    else .ok { s with given := s.given ++ [(o.name, values)] }

/-- Takes the words of several operands. -/
def takeOperands (s : Sorted) : List (Operand × List Word) → Except UsageFault Sorted
  | [] => .ok s
  | (o, ws) :: rest => do
    let s ← takeOperand s o ws
    takeOperands s rest

/-! ## Taking switches -/

/-- Takes a switch with its values. -/
def takeSwitch (s : Sorted) (switch : Switch) (values : List String) : Except UsageFault Sorted :=
  match values with
  | value :: _ =>
    if switch.choices ≠ [] ∧ value ∉ switch.choices then
      .error (.invalidChoice switch.label value switch.choices)
    else .ok { s with given := s.given ++ [(switch.key, values)] }
  | [] => .ok { s with given := s.given ++ [(switch.key, [])] }

/-- Takes one-letter switches that are written together, given the letters behind the first
one. The switches are taken only when all letters are read. -/
def takeLetters (g : Grammar) (s : Sorted) (taken : List Switch) (switch : Switch)
    (byEquals : Bool) (attached : List Char) : Except UsageFault Sorted :=
  let all (last : List Switch) : Except UsageFault Sorted :=
    (taken ++ last).foldlM (fun s switch => takeSwitch s switch []) s
  if switch.takesValue then do
    let s ← all []
    takeSwitch s switch [String.ofList attached]
  else
    match attached with
    | [] => .error (.needlessValue switch.label "")
    | c :: rest =>
      if byEquals || c == '-' then
        .error (.needlessValue switch.label (String.ofList attached))
      else
        match g.names.lookup (String.ofList ['-', c]) with
        | none =>
          (all [switch]).map fun s =>
            { s with extras := s.extras ++ [String.ofList ('-' :: attached)] }
        | some next =>
          match rest with
          | [] =>
            if next.takesValue then .error (.noValue next.label) else all [switch, next]
          | '=' :: value => takeLetters g s (taken ++ [switch]) next true value
          | rest => takeLetters g s (taken ++ [switch]) next false rest
termination_by attached.length

/-- Takes the switch at the front; the words behind it are given and returned. -/
def takeFront (g : Grammar) (s : Sorted) (word : String) (r : Reading) (rest : List Word) :
    Except UsageFault (Sorted × List Word) :=
  match r.switch, r.attached with
  | none, _ => .ok ({ s with extras := s.extras ++ [word] }, rest)
  | some switch, some value =>
    if switch.takesValue then (takeSwitch s switch [value]).map (·, rest)
    else if r.name.startsWith "--" || value == "" then
      .error (.needlessValue switch.label value)
    else (takeLetters g s [] switch r.byEquals value.toList).map (·, rest)
  | some switch, none =>
    if switch.takesValue then
      match rest with
      | .operand value :: rest => (takeSwitch s switch [value]).map (·, rest)
      | _ => .error (.noValue switch.label)
    else (takeSwitch s switch []).map (·, rest)

/-! ## Sorting -/

/-- Sorts the words, with the operands that are not yet filled. Every round takes a word; the
number bounds the rounds. -/
def sortWords (g : Grammar) :
    Nat → Sorted → List Operand → List Word → Except UsageFault (Sorted × List Operand)
  | 0, s, os, _ => .ok (s, os)
  | n + 1, s, os, ws =>
    if ws.any Word.isSwitch then
      match ws with
      | .switch word r :: rest => do
        let (s, rest) ← takeFront g s word r rest
        sortWords g n s os rest
      | _ => do
        let (filled, left, rest) := fill os ws
        let s ← takeOperands s filled
        if rest.length < ws.length then sortWords g n s left rest
        else
          let extra := ws.takeWhile fun w => !w.isSwitch
          let s := { s with extras := s.extras ++ extra.map Word.text }
          sortWords g n s left (ws.drop extra.length)
    else do
      let (filled, left, rest) := fill os ws
      let s ← takeOperands s filled
      return ({ s with extras := s.extras ++ rest.map Word.text }, left)

/-- Sorts the words behind a command. Operands that may not be left out have to be given. -/
def sort (g : Grammar) (args : List String) : Except UsageFault Sorted := do
  let ws ← g.words args
  let (s, left) ← sortWords g (2 * ws.length + 1) {} g.operands ws
  let missing := left.filter (·.arity ≠ .atMostOne)
  if missing.isEmpty then return s else .error (.missing (missing.map Operand.name))

end Grammar

end Narrowing.CommandLine
