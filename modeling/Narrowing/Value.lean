import Narrowing.KeyedList
import Narrowing.Text.Quoted

/-!
# Plain values

The values of a configuration and of a marker's options: constants, numbers,
texts, lists and mappings. Of other values only what messages need is kept.

## Main definitions

* `Value` — a plain value
* `Value.typeName` — the name of its type in messages
* `Value.isEmpty` — it counts as not given
* `Value.written`, `Value.shown` — its spelling as a literal and as a text
-/

namespace Narrowing

/-- What is known of a value that is neither a constant nor a number, a text or a collection, such
as a date: the name of its type, its spelling as a literal and as a text, and whether it counts as
not given. -/
structure Foreign where
  typeName : String
  written : String
  shown : String
  isEmpty : Bool := false
deriving DecidableEq, Repr, Inhabited

/-- A plain value. A mapping holds pairs in written order. -/
inductive Value where
  | null
  | bool (b : Bool)
  | int (i : Int)
  /-- A number with a point or an exponent, by its spelling. -/
  | decimal (text : String)
  | foreign (object : Foreign)
  | text (s : String)
  | list (elements : List Value)
  | mapping (entries : List (Value × Value))
deriving Repr, Inhabited

namespace Value

mutual

/-- Two values are the same: of one kind, with the same parts in the same order. -/
def same : Value → Value → Bool
  | null, null => true
  | bool a, bool b => a == b
  | int a, int b => a == b
  | decimal a, decimal b => a == b
  | foreign a, foreign b => a == b
  | text a, text b => a == b
  | list a, list b => sameAll a b
  | mapping a, mapping b => sameEntries a b
  | _, _ => false

/-- Two lists hold the same values. -/
def sameAll : List Value → List Value → Bool
  | [], [] => true
  | v :: vs, u :: us => same v u && sameAll vs us
  | _, _ => false

/-- Two mappings hold the same entries. -/
def sameEntries : List (Value × Value) → List (Value × Value) → Bool
  | [], [] => true
  | (key, value) :: es, (otherKey, otherValue) :: others =>
    same key otherKey && same value otherValue && sameEntries es others
  | _, _ => false

end

instance : BEq Value := ⟨same⟩

mutual

/-- What is the same is equal. -/
theorem eq_of_same {v u : Value} (alike : same v u = true) : v = u := by
  cases v <;> cases u <;> simp_all [same]
  · exact eq_of_sameAll alike
  · exact eq_of_sameEntries alike

/-- Lists of the same values are equal. -/
theorem eq_of_sameAll {vs us : List Value} (alike : sameAll vs us = true) : vs = us := by
  cases vs with
  | nil => cases us <;> simp_all [sameAll]
  | cons v vs =>
      cases us with
      | nil => simp [sameAll] at alike
      | cons u us =>
          simp only [sameAll, Bool.and_eq_true] at alike
          rw [eq_of_same alike.1, eq_of_sameAll alike.2]

/-- Mappings with the same entries are equal. -/
theorem eq_of_sameEntries {es others : List (Value × Value)}
    (alike : sameEntries es others = true) : es = others := by
  cases es with
  | nil => cases others <;> simp_all [sameEntries]
  | cons e es =>
      cases others with
      | nil => simp [sameEntries] at alike
      | cons other others =>
          obtain ⟨key, value⟩ := e
          obtain ⟨otherKey, otherValue⟩ := other
          simp only [sameEntries, Bool.and_eq_true] at alike
          rw [eq_of_same alike.1.1, eq_of_same alike.1.2, eq_of_sameEntries alike.2]

end

mutual

/-- A value is the same as itself. -/
theorem same_self (v : Value) : same v v = true := by
  cases v with
  | null => rfl
  | list elements => exact sameAll_self elements
  | mapping entries => exact sameEntries_self entries
  | _ => exact beq_self_eq_true _

theorem sameAll_self (vs : List Value) : sameAll vs vs = true := by
  cases vs with
  | nil => rfl
  | cons v vs => rw [sameAll, same_self v, sameAll_self vs, Bool.and_self]

theorem sameEntries_self (es : List (Value × Value)) : sameEntries es es = true := by
  cases es with
  | nil => rfl
  | cons e es =>
      obtain ⟨key, value⟩ := e
      rw [sameEntries, same_self key, same_self value, sameEntries_self es, Bool.and_self,
        Bool.and_self]

end

instance : LawfulBEq Value where
  rfl {v} := same_self v
  eq_of_beq := eq_of_same

/-- The name of the type of a value in messages. -/
def typeName : Value → String
  | null => "NoneType"
  | bool _ => "bool"
  | int _ => "int"
  | decimal _ => "float"
  | foreign object => object.typeName
  | text _ => "str"
  | list _ => "list"
  | mapping _ => "dict"

/-- All digits in front of the exponent of a number are zero. -/
def isZeroText (s : String) : Bool :=
  let digits := s.toList.takeWhile fun c => c != 'e' && c != 'E'
  digits.any Char.isDigit && digits.all fun c => !c.isDigit || c == '0'

/-- The value counts as not given: nothing, no, zero, or empty. -/
def isEmpty : Value → Bool
  | null => true
  | bool b => !b
  | int i => i == 0
  | decimal s => isZeroText s
  | foreign object => object.isEmpty
  | text s => s == ""
  | list elements => elements.isEmpty
  | mapping entries => entries.isEmpty

mutual

/-- The spelling of a value as a literal. -/
def written : Value → String
  | null => "None"
  | bool b => if b then "True" else "False"
  | int i => toString i
  | decimal s => s
  | foreign object => object.written
  | text s => Text.quoted s
  | list elements => "[" ++ ", ".intercalate (writtenAll elements) ++ "]"
  | mapping entries => "\x7b" ++ ", ".intercalate (writtenEntries entries) ++ "\x7d"

/-- The spellings of some values. -/
def writtenAll : List Value → List String
  | [] => []
  | v :: rest => written v :: writtenAll rest

/-- The spellings of the entries of a mapping. -/
def writtenEntries : List (Value × Value) → List String
  | [] => []
  | (key, value) :: rest => (written key ++ ": " ++ written value) :: writtenEntries rest

end

/-- The spelling of a value as a text: a text is spelled as it is. -/
def shown : Value → String
  | text s => s
  | foreign object => object.shown
  | v => written v

/-- The value of an entry whose key is the given text. Of entries with the same key the last
one counts. -/
def valueAt? (key : String) (entries : List (Value × Value)) : Option Value :=
  (entries.reverse.find? fun e =>
    match e.1 with
    | text s => s == key
    | _ => false).map Prod.snd

end Value

end Narrowing
