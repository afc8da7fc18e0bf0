import Mathlib.Algebra.BigOperators.Group.List.Basic
import Narrowing.Proofs.ClassSource.StringValue
import Narrowing.Text.Word

/-!
# Reading emitted code back

What an emitted function does is said of its statements, and what is emitted is a text.
To tie the two, the text is read back.  A `Scanner` reads the front of a text: literals,
names, shown texts and lines, one after the other.  None of the readers here looks at
what the code was emitted from.

Each reader has one rule, which says what it leaves of a text that begins with what it
reads.  A name ends where a literal that is no part of a name begins, so the rule for
names is about a name with such a literal behind it (`run_name`).  A repetition ends
where one more turn is impossible (`run_many`).

## Main statements

* `Scanner.run_name` — a name in front of a literal
* `Scanner.run_shown` — a shown text in front of a literal
* `Scanner.run_entry` — a line of a list, with what is set and what it is set to
* `Scanner.run_many` — things written one after the other
-/

namespace Narrowing.Code

/-- Reads the front of a text and leaves the rest, or fails. -/
abbrev Scanner := StateT (List Char) Option

namespace Scanner

variable {α β : Type}

/-- Takes a text as it is. -/
def literal (t : String) : Scanner Unit := fun s => (s.dropPrefix? t.toList).map ((), ·)

/-- Takes a text as it is at the end of a line. -/
def lineEnd (t : String) : Scanner Unit := do
  literal t
  literal "\n"

/-- Takes characters of names as long as there are any, at least one. -/
def name (isPart : Char → Bool) : Scanner String := fun s =>
  match s.takeWhile isPart with
  | [] => none
  | word => some (String.ofList word, s.dropWhile isPart)

/-- Takes a string literal, which stands for the given text. -/
def shown (named : List Char → Option Nat) : Scanner String := fun s =>
  (ClassSource.readString named s).map fun p => (String.ofList (p.1.map Char.ofNat), p.2)

/-- Takes a line with its end. -/
def line : Scanner Unit := fun s =>
  match s.dropWhile (· != '\n') with
  | [] => none
  | _ :: rest => some ((), rest)

/-- Takes an operand: a field of the argument `value`, or a variable. -/
def operand (isPart : Char → Bool) (field var : String → α) : Scanner α := do
  let first ← name isPart
  if first = "value" then
    literal "."
    return field (← name isPart)
  else return var first

/-- Takes a line with what is set and what it is set to, and with a comma at the end. -/
def entry (isPart : Char → Bool) (indent separator : String) (p : Scanner α) : Scanner (String × α) := do
  literal indent
  let key ← name isPart
  literal separator
  let a ← p
  lineEnd ","
  return (key, a)

/-- Takes a thing as often as possible, at most the given number of times. -/
def manyUpTo (p : Scanner α) : Nat → Scanner (List α)
  | 0 => pure []
  | n + 1 => (do
      let a ← p
      let others ← manyUpTo p n
      return a :: others) <|> pure []

/-- Takes a thing as often as possible. -/
def many (p : Scanner α) : Scanner (List α) := fun s => manyUpTo p s.length s

/-- What reads a whole text. -/
def whole? (p : Scanner α) (text : String) : Option α :=
  match p text.toList with
  | some (a, []) => some a
  | _ => none

/-- The text is a name. -/
def IsName (isPart : Char → Bool) (n : String) : Prop :=
  n.toList ≠ [] ∧ n.toList.all isPart = true

instance (isPart : Char → Bool) (n : String) : Decidable (IsName isPart n) :=
  inferInstanceAs (Decidable (_ ∧ _))

theorem IsName.append {isPart : Char → Bool} {a b : String} (isName : IsName isPart a)
    (parts : b.toList.all isPart = true) : IsName isPart (a ++ b) := by
  rw [IsName, String.toList_append, List.all_append, Bool.and_eq_true]
  exact ⟨List.append_ne_nil_of_left_ne_nil isName.1 _, isName.2, parts⟩

/-- The text begins with a character that is not of the given kind. -/
def Apart (kind : Char → Bool) (t : String) : Prop := t.toList.head?.map kind = some false

instance (kind : Char → Bool) (t : String) : Decidable (Apart kind t) :=
  inferInstanceAs (Decidable (_ = _))

theorem Apart.exists_cons {kind : Char → Bool} {t : String} (apart : Apart kind t) :
    ∃ c r, t.toList = c :: r ∧ kind c = false := by
  obtain ⟨c, first, other⟩ := Option.map_eq_some_iff.mp apart
  obtain ⟨r, chars⟩ := List.head?_eq_some_iff.mp first
  exact ⟨c, r, chars, other⟩

/-! ## Steps -/

theorem bind_apply {p : Scanner α} {f : α → Scanner β} {s t : List Char} {a : α}
    (taken : p s = some (a, t)) : (p >>= f) s = f a t := by
  show (p s).bind _ = _
  rw [taken]
  rfl

@[simp] theorem pure_apply (a : α) (s : List Char) : (pure a : Scanner α) s = some (a, s) := rfl

theorem orElse_apply (p q : Scanner α) (s : List Char) : (p <|> q) s = (p s <|> q s) := rfl

theorem run_literal (t : String) (s : List Char) : literal t (t.toList ++ s) = some ((), s) := by
  have dropped : (t.toList ++ s).dropPrefix? t.toList = some s :=
    List.dropPrefix?_eq_some_iff.mpr ⟨t.toList, rfl, beq_self_eq_true _⟩
  rw [literal, dropped]
  rfl

theorem run_lineEnd (t : String) (s : List Char) : lineEnd t (t.toList ++ '\n' :: s) = some ((), s) := by
  rw [lineEnd, bind_apply (run_literal ..)]
  exact run_literal "\n" s

theorem run_name {isPart : Char → Bool} {n t : String} (isName : IsName isPart n)
    (ends : Apart isPart t) (s : List Char) :
    name isPart (n.toList ++ (t.toList ++ s)) = some (n, t.toList ++ s) := by
  obtain ⟨nonempty, parts⟩ := isName
  obtain ⟨c, r, chars, stops⟩ := ends.exists_cons
  rw [List.all_eq_true] at parts
  -- both halves of the cut stop at the first character of the literal
  rw [name, List.takeWhile_append_of_pos parts, List.dropWhile_append_of_pos parts, chars,
    List.cons_append, List.takeWhile_cons_of_neg (by simp [stops]),
    List.dropWhile_cons_of_neg (by simp [stops]), List.append_nil]
  cases word : n.toList with
  | nil => exact absurd word nonempty
  | cons d w => simp only [← word, String.ofList_toList]

theorem map_ofNat_map_toNat (s : List Char) : (s.map Char.toNat).map Char.ofNat = s := by
  rw [List.map_map]
  exact (List.map_congr_left fun c _ => Char.ofNat_toNat c).trans (List.map_id s)

theorem run_shown {named : List Char → Option Nat} {t : String} (ends : Apart Directive.isQuote t)
    (text : String) (s : List Char) :
    shown named (Text.quotedChars text.toList ++ (t.toList ++ s)) = some (text, t.toList ++ s) := by
  obtain ⟨c, r, chars, unquoted⟩ := ends.exists_cons
  have apart : (t.toList ++ s).head? ≠ some (Text.quoteFor text.toList) := by
    rw [chars]
    rintro same
    rw [Option.some.inj same, ClassSource.isQuote_quoteFor] at unquoted
    cases unquoted
  rw [shown, ClassSource.readString_quotedChars apart, Option.map_some, map_ofNat_map_toNat,
    String.ofList_toList]

theorem run_line {l : List Char} (single : '\n' ∉ l) (s : List Char) :
    line (l ++ '\n' :: s) = some ((), s) := by
  have kept : ∀ c ∈ l, (c != '\n') = true := fun c member =>
    bne_iff_ne.mpr fun feed => single (feed ▸ member)
  rw [line, List.dropWhile_append_of_pos kept]
  rfl

section Entries

variable {isPart : Char → Bool} {field var : String → α} {n t : String}

theorem run_operand_field (value : IsName isPart "value") (dot : Apart isPart ".")
    (isName : IsName isPart n) (ends : Apart isPart t) (s : List Char) :
    operand isPart field var (s!"value.{n}".toList ++ (t.toList ++ s)) =
      some (field n, t.toList ++ s) := by
  have text : s!"value.{n}".toList ++ (t.toList ++ s) =
      "value".toList ++ (".".toList ++ (n.toList ++ (t.toList ++ s))) := by
    simp [toString]
  rw [text, operand, bind_apply (run_name value dot _), if_pos rfl, bind_apply (run_literal ..),
    bind_apply (run_name isName ends _)]
  rfl

theorem run_operand_variable (isName : IsName isPart n) (other : n ≠ "value")
    (ends : Apart isPart t) (s : List Char) :
    operand isPart field var (n.toList ++ (t.toList ++ s)) = some (var n, t.toList ++ s) := by
  rw [operand, bind_apply (run_name isName ends _), if_neg other]
  rfl

theorem run_entry {indent separator key text : String} {p : Scanner α} {a : α}
    (isName : IsName isPart key) (apart : Apart isPart separator)
    (reads : ∀ s, p (text.toList ++ (",".toList ++ s)) = some (a, ",".toList ++ s)) (s : List Char) :
    entry isPart indent separator p (s!"{indent}{key}{separator}{text},".toList ++ '\n' :: s) =
      some ((key, a), s) := by
  have parts : s!"{indent}{key}{separator}{text},".toList ++ '\n' :: s = indent.toList ++
      (key.toList ++ (separator.toList ++ (text.toList ++ (",".toList ++ '\n' :: s)))) := by
    simp [toString]
  rw [parts, entry, bind_apply (run_literal ..), bind_apply (run_name isName apart _),
    bind_apply (run_literal ..), bind_apply (reads _), bind_apply (run_lineEnd ..)]
  rfl

end Entries

/-! ## Repetitions -/

section Many

variable {p : Scanner α} {write : α → List Char} {as : List α}
  (reads : ∀ a ∈ as, ∀ s, p (write a ++ s) = some (a, s))

include reads in
theorem run_manyUpTo {s : List Char} (ends : p s = none) {n : Nat} (enough : as.length ≤ n) :
    manyUpTo p n (as.flatMap write ++ s) = some (as, s) := by
  induction as generalizing n with
  | nil =>
      -- turns are left over here, and the next one must fail
      cases n with
      | zero => rfl
      | succ n =>
          have fails : (p >>= fun a => manyUpTo p n >>= fun others => pure (a :: others)) s =
              none := by
            show (p s).bind _ = none
            rw [ends]
            rfl
          rw [List.flatMap_nil, List.nil_append, manyUpTo, orElse_apply, fails]
          rfl
  | cons a as ih =>
      obtain ⟨n, rfl⟩ := Nat.exists_eq_add_of_lt enough
      have others := ih (fun b member => reads b (List.mem_cons_of_mem a member))
        (n := as.length + n) (Nat.le_add_right ..)
      rw [List.flatMap_cons, List.append_assoc, manyUpTo, orElse_apply,
        bind_apply (reads a List.mem_cons_self _), bind_apply others]
      rfl

include reads in
/-- **Things written one after the other are read one after the other.** -/
theorem run_many {s : List Char} (ends : p s = none) :
    many p (as.flatMap write ++ s) = some (as, s) := by
  -- where nothing is written for a thing, it would be read where nothing can be
  have written : ∀ a ∈ as, 1 ≤ (write a).length := by
    intro a member
    refine List.length_pos_iff.mpr fun nothing => ?_
    have read := reads a member s
    rw [nothing, List.nil_append, ends] at read
    cases read
  have enough : as.length ≤ (as.flatMap write ++ s).length := by
    rw [List.length_append, List.length_flatMap]
    have each := List.length_le_sum_of_one_le (as.map fun a => (write a).length)
      (by simpa using written)
    rw [List.length_map] at each
    omega
  exact run_manyUpTo reads ends enough

end Many

end Scanner

end Narrowing.Code
