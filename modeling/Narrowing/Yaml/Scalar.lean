import Narrowing.Value

/-!
# Plain scalars of YAML

What an unquoted text in a YAML document stands for: a constant, a number in one
of five notations, or itself.

## Main definitions

* `int?`, `isDecimal` — the notations of numbers
* `scalarOf` — the value of a plain scalar
-/

namespace Narrowing.Yaml

/-- The spellings of yes. -/
def yesWords : List String :=
  ["yes", "Yes", "YES", "true", "True", "TRUE", "on", "On", "ON"]

/-- The spellings of no. -/
def noWords : List String :=
  ["no", "No", "NO", "false", "False", "FALSE", "off", "Off", "OFF"]

/-- The spellings of nothing. -/
def nullWords : List String := ["", "~", "null", "Null", "NULL"]

/-- A text without its sign, and whether it is negative. -/
def splitSign : List Char → Bool × List Char
  | '-' :: r => (true, r)
  | '+' :: r => (false, r)
  | s => (false, s)

/-- The value of a digit in a base up to sixteen. -/
def digitValue (c : Char) : Nat :=
  if c.isDigit then c.toNat - '0'.toNat else c.toLower.toNat - 'a'.toNat + 10

/-- A digit of the base, which is two, eight, ten or sixteen. -/
def isDigitOf (base : Nat) (c : Char) : Bool :=
  (c.isDigit || ('a' ≤ c.toLower && c.toLower ≤ 'f')) && digitValue c < base

/-- The number that digits write in a base. Underscores between them do not count. -/
def natOf (base : Nat) (digits : List Char) : Nat :=
  (digits.filter (· != '_')).foldl (fun n c => base * n + digitValue c) 0

/-- Digits of the base and underscores, at least one of them. -/
def areDigits (base : Nat) (s : List Char) : Bool :=
  !s.isEmpty && s.all fun c => isDigitOf base c || c == '_'

/-- The parts of a text between colons. -/
def colonParts (s : List Char) : List (List Char) :=
  s.foldr (fun c parts =>
    if c = ':' then [] :: parts
    else
      match parts with
      | [] => [[c]]
      | p :: ps => (c :: p) :: ps) [[]]

/-- A part of a number in base sixty behind its first one. -/
def isSixtieth (s : List Char) : Bool :=
  match s with
  | [a] => a.isDigit
  | [a, b] => '0' ≤ a && a ≤ '5' && b.isDigit
  | _ => false

/-- The number without a sign that a text writes in binary, octal, decimal, hexadecimal or base
sixty. -/
def nat? (s : List Char) : Option Nat :=
  match s with
  | ['0'] => some 0
  | '0' :: 'b' :: r => if areDigits 2 r then some (natOf 2 r) else none
  | '0' :: 'x' :: r => if areDigits 16 r then some (natOf 16 r) else none
  | '0' :: r => if areDigits 8 r then some (natOf 8 r) else none
  | c :: _ =>
    if !c.isDigit then none
    else
      match colonParts s with
      | [all] => if areDigits 10 all then some (natOf 10 all) else none
      | first :: rest =>
        if areDigits 10 first && rest.all isSixtieth then
          some (rest.foldl (fun n part => 60 * n + natOf 10 part) (natOf 10 first))
        else none
      | [] => none
  | [] => none

/-- The whole number that a text writes. -/
def int? (s : List Char) : Option Int :=
  let (negative, digits) := splitSign s
  (nat? digits).map fun n => if negative then -n else n

/-- An exponent with its sign, or nothing. -/
def isExponent (s : List Char) : Bool :=
  match s with
  | [] => true
  | e :: sign :: digits =>
    (e == 'e' || e == 'E') && (sign == '-' || sign == '+') && !digits.isEmpty
      && digits.all Char.isDigit
  | _ => false

/-- The text writes a number with a point. -/
def isDecimal (s : List Char) : Bool :=
  let (_, digits) := splitSign s
  let digitOrGap (c : Char) : Bool := c.isDigit || c == '_'
  let exponentBehind (r : List Char) : Bool := isExponent (r.dropWhile digitOrGap)
  String.ofList digits ∈ [".inf", ".Inf", ".INF"] || String.ofList s ∈ [".nan", ".NaN", ".NAN"]
    || (match s with
      | '.' :: c :: r => c.isDigit && exponentBehind r
      | _ => false)
    || (match digits, (digits.dropWhile fun c => digitOrGap c || c == ':') with
      | c :: _, '.' :: r =>
        c.isDigit &&
          (match colonParts (digits.takeWhile (· != '.')) with
          | [_] => exponentBehind r
          | _ :: rest => rest.all isSixtieth && r.all digitOrGap
          | [] => false)
      | _, _ => false)

/-- The value of a plain scalar. -/
def scalarOf (s : String) : Value :=
  if s ∈ nullWords then .null
  else if s ∈ yesWords then .bool true
  else if s ∈ noWords then .bool false
  else
    match int? s.toList with
    | some i => .int i
    | none => if isDecimal s.toList then .decimal s else .text s

end Narrowing.Yaml
