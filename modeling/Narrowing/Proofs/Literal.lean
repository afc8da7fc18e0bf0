import Mathlib.Algebra.Group.Nat.Defs
import Mathlib.Data.List.Infix
import Narrowing.Text.Quoted

/-!
# What a literal stands for

Between the quotes of a string literal most characters stand for themselves, and a backslash
begins an escape.  Languages differ in their escapes only, so they are a parameter here: `Escapes`
gives what an escape stands for and how many characters it takes behind its backslash.

### Texts that are copied into a literal

A text that is put between quotes as it is comes back unchanged exactly when it is `Verbatim`: no
character of it begins an escape that the language knows.  One direction is plain.  The other one
is a matter of lengths.  In a language whose escapes are `Shortening`, an escape stands for less
than it is written with, so whatever is read as an escape leaves the value too short to be the
text (`verbatim_of_read`).  No escape has to be looked at on its own for that, and an escape that
happens to be written like a part of the text cannot restore what an earlier one has taken.

## Main statements

* `read_of_verbatim`, `verbatim_of_read` — the texts that a literal returns unchanged
* `readHex_hexDigits` — hexadecimal digits give their number back
-/

namespace Narrowing.Literal

/-! ## Reading a body -/

/-- How a language reads its escapes: what an escape stands for and how many characters it takes,
given the text behind its backslash. -/
abbrev Escapes (α : Type) := List Char → Option (List α × Nat)

section Read

variable {α : Type} (escapes : Escapes α) (plain : Char → Option α)

/-- What the body of a literal stands for, behind the first `skip` characters of it: those belong
to an escape that has been read.  A character outside escapes stands for what `plain` says, if it
may occur at all. -/
def readFrom : Nat → List Char → Option (List α)
  | _, [] => some []
  | skip + 1, _ :: r => readFrom skip r
  | 0, c :: r =>
    if c = '\\' then
      match escapes r with
      | none => none
      | some (out, taken) => (readFrom taken r).map (out ++ ·)
    else
      match plain c with
      | none => none
      | some a => (readFrom 0 r).map (a :: ·)

/-- What the body of a literal stands for. -/
def read (body : List Char) : Option (List α) := readFrom escapes plain 0 body

variable {escapes plain}

theorem readFrom_eq (skip : Nat) (s : List Char) :
    readFrom escapes plain skip s = read escapes plain (s.drop skip) := by
  induction s generalizing skip with
  | nil =>
      rw [List.drop_nil]
      cases skip <;> rfl
  | cons c r ih =>
      cases skip with
      | zero => rfl
      | succ skip => exact ih skip

theorem read_cons {c : Char} {a : α} (other : c ≠ '\\') (stands : plain c = some a)
    (r : List Char) :
    read escapes plain (c :: r) = (read escapes plain r).map (a :: ·) := by
  rw [read, readFrom, if_neg other, stands]
  rfl

theorem read_escape {out : List α} {taken : Nat} {r : List Char}
    (escape : escapes r = some (out, taken)) :
    read escapes plain ('\\' :: r) = (read escapes plain (r.drop taken)).map (out ++ ·) := by
  rw [read, readFrom, if_pos rfl, escape]
  dsimp only
  rw [readFrom_eq]

end Read

/-! ## Texts that stand for themselves -/

section Verbatim

variable {α : Type} (code : Char → α) (escapes : Escapes α) (plain : Char → Option α)

/-- A backslash in front of the character is no escape: both stand for themselves. -/
def Kept (c : Char) : Prop := ∀ r, escapes (c :: r) = some ([code '\\', code c], 1)

/-- **The text stands for itself in a literal.** -/
inductive Verbatim : List Char → Prop
  | nil : Verbatim []
  | plain {c : Char} {s : List Char} (other : c ≠ '\\') (stands : plain c = some (code c))
      (rest : Verbatim s) : Verbatim (c :: s)
  | kept {c : Char} {s : List Char} (keeps : Kept code escapes c) (rest : Verbatim s) :
      Verbatim ('\\' :: c :: s)

/-- **An escape stands for no more than the characters behind its backslash**, and those are
there; or else it is none. -/
structure Shortening : Prop where
  plain {c : Char} {a : α} : plain c = some a → a = code c
  escape {r : List Char} {out : List α} {taken : Nat} : escapes r = some (out, taken) →
    taken ≤ r.length ∧ out.length ≤ taken ∨
      ∃ c rest, r = c :: rest ∧ Kept code escapes c ∧ out = [code '\\', code c] ∧ taken = 1

variable {code escapes plain}

theorem read_of_verbatim {s : List Char} (verbatim : Verbatim code escapes plain s) :
    read escapes plain s = some (s.map code) := by
  induction verbatim with
  | nil => rfl
  | plain other stands _ ih => rw [read_cons other stands, ih, Option.map_some, List.map_cons]
  | @kept c s keeps _ ih =>
      rw [read_escape (keeps s), List.drop_one, List.tail_cons, ih]
      rfl

/-- A value is no longer than the text it is read from, and as long only where the text stands for
itself. -/
theorem length_le_and_verbatim (shortening : Shortening code escapes plain) {skip : Nat}
    {s : List Char} {value : List α} (h : readFrom escapes plain skip s = some value) :
    value.length ≤ (s.drop skip).length ∧
      ((s.drop skip).length ≤ value.length →
        value = (s.drop skip).map code ∧ Verbatim code escapes plain (s.drop skip)) := by
  fun_induction readFrom escapes plain skip s generalizing value with
  | case1 skip =>
      cases h
      rw [List.drop_nil]
      exact ⟨le_rfl, fun _ => ⟨rfl, .nil⟩⟩
  | case2 skip c r ih => exact ih h
  | case3 | case5 => cases h
  | case4 r out taken escape ih =>
      obtain ⟨others, found, rfl⟩ := Option.map_eq_some_iff.mp h
      obtain ⟨bound, equal⟩ := ih found
      rw [List.length_drop] at bound
      rcases shortening.escape escape with ⟨inside, short⟩ | ⟨c, rest, rfl, keeps, rfl, rfl⟩
      · -- the backslash itself makes the text longer than the value
        simp only [List.length_append, List.drop_zero, List.length_cons]
        exact ⟨by omega, fun long => by omega⟩
      · simp only [List.drop_one, List.tail_cons] at bound equal ⊢
        simp only [List.length_append, List.length_cons, List.length_nil, List.drop_zero] at bound ⊢
        refine ⟨by omega, fun long => ?_⟩
        obtain ⟨rfl, verbatim⟩ := equal (by omega)
        exact ⟨rfl, .kept keeps verbatim⟩
  | case6 c r other a stands ih =>
      obtain ⟨others, found, rfl⟩ := Option.map_eq_some_iff.mp h
      obtain ⟨bound, equal⟩ := ih found
      obtain rfl := shortening.plain stands
      simp only [List.drop_zero, List.length_cons] at bound equal ⊢
      refine ⟨by omega, fun long => ?_⟩
      obtain ⟨rfl, verbatim⟩ := equal (by omega)
      exact ⟨rfl, .plain other stands verbatim⟩

/-- **A text that is read from something no longer than itself stands for itself.** -/
theorem verbatim_of_read (shortening : Shortening code escapes plain)
    (injective : Function.Injective code) {s t : List Char}
    (h : read escapes plain t = some (s.map code)) (short : t.length ≤ s.length) :
    t = s ∧ Verbatim code escapes plain s := by
  obtain ⟨-, equal⟩ := length_le_and_verbatim shortening h
  rw [List.length_map] at equal
  obtain ⟨same, verbatim⟩ := equal short
  obtain rfl : s = t := injective.list_map same
  exact ⟨rfl, verbatim⟩

end Verbatim

/-! ## Hexadecimal digits -/

/-- The number that hexadecimal digits of either case write. -/
def readHex (digits : List Char) : Nat :=
  digits.foldl (fun n c =>
    16 * n + (if c.isDigit then c.toNat - 48 else c.toLower.toNat - 87)) 0

theorem readHex_concat_digitChar (digits : List Char) {d : Nat} (h : d < 16) :
    readHex (digits ++ [Nat.digitChar d]) = 16 * readHex digits + d := by
  have value : ∀ d < 16, (if (Nat.digitChar d).isDigit then (Nat.digitChar d).toNat - 48
      else (Nat.digitChar d).toLower.toNat - 87) = d := by decide
  rw [readHex, List.foldl_append, List.foldl_cons, List.foldl_nil, value d h]
  rfl

/-- **Hexadecimal digits give their number back**, up to what their count can hold. -/
theorem readHex_hexDigits (width n : Nat) :
    readHex (Text.hexDigits width n) = n % 16 ^ width := by
  induction width generalizing n with
  | zero => rw [Nat.pow_zero, Nat.mod_one]; rfl
  | succ width ih =>
      rw [Text.hexDigits, readHex_concat_digitChar _ (Nat.mod_lt n (by decide)), ih,
        Nat.pow_succ', Nat.mod_mul]
      omega

theorem length_hexDigits (width n : Nat) : (Text.hexDigits width n).length = width := by
  induction width generalizing n with
  | zero => rfl
  | succ width ih => rw [Text.hexDigits, List.length_append, ih, List.length_singleton]

theorem exists_of_mem_hexDigits {width n : Nat} {c : Char} (member : c ∈ Text.hexDigits width n) :
    ∃ d < 16, c = Nat.digitChar d := by
  induction width generalizing n with
  | zero => cases member
  | succ width ih =>
      rw [Text.hexDigits, List.mem_append, List.mem_singleton] at member
      rcases member with member | rfl
      · exact ih member
      · exact ⟨n % 16, Nat.mod_lt n (by decide), rfl⟩

end Narrowing.Literal
