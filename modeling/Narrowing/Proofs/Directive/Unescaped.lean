import Mathlib.Algebra.Group.Nat.Even
import Mathlib.Data.List.DropRight
import Mathlib.Order.Bounds.Image
import Narrowing.Directive.Token

/-!
# Unescaped quotes

Whether a quote ends a string is seen from the backslashes directly in front of it: they
pair up, each pair standing for one backslash, and an odd one is left over for the quote.
`unescaped` says this of every place of a text by itself.  It mentions neither the strings
that end before that place nor a way to go through the text.

`splitQuoted` goes through the text from the left and skips the character behind every
backslash.  Both agree because one step of that walk moves the unescaped quotes without
changing them: by one place behind a plain character, and by two places behind a backslash
and the character after it (`unescaped_cons`, `unescaped_escape`).  The second is the only
place where a run of backslashes grows, and it grows by a pair.

## Main statements

* `splitQuoted_eq_none_iff` — no closing quote is found exactly when none is unescaped
* `isLeast_of_splitQuoted` — the closing quote that is found is the first unescaped one
-/

namespace Narrowing.Directive

/-- The number of backslashes in a row that a text ends in. -/
def trailingBackslashes (s : List Char) : Nat := (s.rtakeWhile (· == '\\')).length

/-- **The unescaped quotes of a text**: the places where the quote stands behind an even number of
backslashes in a row. -/
def unescaped (quote : Char) (s : List Char) : Set Nat :=
  {i | s[i]? = some quote ∧ Even (trailingBackslashes (s.take i))}

theorem trailingBackslashes_le (s : List Char) : trailingBackslashes s ≤ s.length :=
  (List.rtakeWhile_suffix _ s).length_le

/-- A character in front of a text counts only if it is a backslash with nothing else behind it. -/
theorem trailingBackslashes_cons (c : Char) (s : List Char) :
    trailingBackslashes (c :: s) =
      if trailingBackslashes s = s.length ∧ c = '\\' then trailingBackslashes s + 1
      else trailingBackslashes s := by
  simp only [trailingBackslashes, List.rtakeWhile, List.length_reverse, List.reverse_cons,
    List.takeWhile_append, List.takeWhile_cons, List.takeWhile_nil]
  grind

/-- A plain character is no backslash. -/
theorem trailingBackslashes_cons_of_ne {c : Char} (plain : c ≠ '\\') (s : List Char) :
    trailingBackslashes (c :: s) = trailingBackslashes s := by
  rw [trailingBackslashes_cons, if_neg fun both => plain both.2]

/-- A backslash and the character after it are a pair of backslashes, or end the run. -/
theorem even_trailingBackslashes_escape (c : Char) (s : List Char) :
    Even (trailingBackslashes ('\\' :: c :: s)) ↔ Even (trailingBackslashes s) := by
  have bound := trailingBackslashes_le s
  simp only [trailingBackslashes_cons, List.length_cons, Nat.even_iff, and_true]
  split_ifs <;> omega

/-! ## One step of the walk -/

section Step

variable {quote : Char}

theorem unescaped_nil : unescaped quote [] = ∅ := by simp [unescaped]

/-- A quote at the very front is unescaped. -/
theorem zero_mem_unescaped (s : List Char) : 0 ∈ unescaped quote (quote :: s) := by
  simp [unescaped, trailingBackslashes]

/-- **Behind a plain character** stand the unescaped quotes of the text after it. -/
theorem unescaped_cons {c : Char} (other : c ≠ quote) (plain : c ≠ '\\') (s : List Char) :
    unescaped quote (c :: s) = (· + 1) '' unescaped quote s := by
  ext i
  cases i with
  | zero => simp [unescaped, other]
  | succ i => simp [unescaped, trailingBackslashes_cons_of_ne plain]

/-- **Behind a backslash and the character after it** stand the unescaped quotes of the text after
both. -/
theorem unescaped_escape (unquoted : '\\' ≠ quote) (c : Char) (s : List Char) :
    unescaped quote ('\\' :: c :: s) = (· + 2) '' unescaped quote s := by
  ext i
  match i with
  | 0 => simp [unescaped, unquoted]
  | 1 =>
      have odd : ¬ Even (trailingBackslashes ['\\']) := by decide
      simp [unescaped, odd]
  | i + 2 => simp [unescaped, even_trailingBackslashes_escape]

/-- A text keeps its unescaped quotes when it grows. -/
theorem unescaped_subset_append (s t : List Char) :
    unescaped quote s ⊆ unescaped quote (s ++ t) := by
  rintro i ⟨found, even⟩
  obtain ⟨inside, -⟩ := List.getElem?_eq_some_iff.mp found
  refine ⟨?_, ?_⟩
  · rwa [List.getElem?_append_left inside]
  · rwa [List.take_append_of_le_length inside.le]

end Step

/-! ## The closing quote -/

/-- **No closing quote is found exactly when none is unescaped.** -/
theorem splitQuoted_eq_none_iff {quote : Char} {s : List Char} :
    splitQuoted quote s = none ↔ unescaped quote s = ∅ := by
  fun_induction splitQuoted quote s with
  | case1 => simp [unescaped_nil]
  | case2 r =>
      refine iff_of_false (Option.some_ne_none _) ?_
      exact Set.Nonempty.ne_empty ⟨0, zero_mem_unescaped r⟩
  | case3 unquoted => simp [unescaped, List.getElem?_cons, unquoted]
  | case4 d r unquoted ih =>
      rw [Option.map_eq_none_iff, unescaped_escape unquoted, Set.image_eq_empty, ih]
  | case5 c r unquoted plain ih =>
      rw [Option.map_eq_none_iff, unescaped_cons unquoted plain, Set.image_eq_empty, ih]

/-- **The closing quote that is found is the first unescaped one.** -/
theorem isLeast_of_splitQuoted {quote : Char} {s body rest : List Char}
    (h : splitQuoted quote s = some (body, rest)) : IsLeast (unescaped quote s) body.length := by
  fun_induction splitQuoted quote s generalizing body rest with
  | case1 => cases h
  | case2 r =>
      cases h
      exact ⟨zero_mem_unescaped _, fun i _ => Nat.zero_le i⟩
  | case3 => cases h
  | case4 d r unquoted ih =>
      obtain ⟨⟨body, rest⟩, found, same⟩ := Option.map_eq_some_iff.mp h
      cases same
      rw [unescaped_escape unquoted]
      exact Monotone.map_isLeast (fun _ _ le => Nat.add_le_add_right le 2) (ih found)
  | case5 c r unquoted plain ih =>
      obtain ⟨⟨body, rest⟩, found, same⟩ := Option.map_eq_some_iff.mp h
      cases same
      rw [unescaped_cons unquoted plain]
      exact Monotone.map_isLeast (fun _ _ le => Nat.add_le_add_right le 1) (ih found)

end Narrowing.Directive
