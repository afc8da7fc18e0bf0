import Narrowing.Proofs.Text
import Narrowing.Text.Word

/-!
# Words and blanks

A word may hold letters of any script, given by tables.  What matters of these tables is
what they leave out: no character of a word is blank.  The blank characters are a table as
well (`blankRanges`), and two tables that are apart have no character in common.
-/

namespace Narrowing.Text

namespace CodeRanges

/-- No range of one table meets one of the other. -/
def apart (table other : CodeRanges) : Bool :=
  table.all fun r => other.all fun s => r.2 < s.1 || s.2 < r.1

/-- A character lies in one of two tables at most if they are apart. -/
theorem not_contains_of_apart {table other : CodeRanges} (separate : table.apart other = true)
    {c : Char} (inside : table.contains c = true) : other.contains c = false := by
  obtain ⟨r, member, bounds⟩ := List.any_eq_true.mp inside
  have others := List.all_eq_true.mp separate r member
  refine List.any_eq_false.mpr fun s member' => ?_
  have away := List.all_eq_true.mp others s member'
  simp only [Bool.and_eq_true, Bool.or_eq_true, decide_eq_true_eq] at bounds away ⊢
  omega

end CodeRanges

/-- The code points of the blank characters. -/
def blankRanges : CodeRanges :=
  [(9, 13), (28, 32), (0x85, 0x85), (0xA0, 0xA0), (0x1680, 0x1680), (0x2000, 0x200A),
   (0x2028, 0x2029), (0x202F, 0x202F), (0x205F, 0x205F), (0x3000, 0x3000)]

theorem contains_blankRanges (c : Char) : blankRanges.contains c = isBlank c := by
  rw [Bool.eq_iff_iff]
  simp only [CodeRanges.contains, blankRanges, isBlank, List.any_cons, List.any_nil,
    Bool.or_eq_true, Bool.and_eq_true, decide_eq_true_eq, beq_iff_eq, Bool.false_eq_true, or_false]
  constructor
  all_goals
    intro
    omega

/-- **A character of a word is a name character**, or it lies beyond ASCII and is not blank. -/
theorem isNameChar_or_of_isWordPart {c : Char} (part : isWordPart c = true) :
    isNameChar c = true ∨ isBlank c = false ∧ 0x80 ≤ c.toNat := by
  rw [isWordPart] at part
  split at part
  · exact .inl part
  · next wide =>
      have separate : identifierContinueRanges.apart blankRanges = true := by decide +kernel
      rw [← contains_blankRanges]
      exact .inr ⟨CodeRanges.not_contains_of_apart separate part, Nat.le_of_not_lt wide⟩

/-- The same for the first character of a word. -/
theorem isNameStart_or_of_isWordStart {c : Char} (start : isWordStart c = true) :
    isNameStart c = true ∨ isBlank c = false ∧ 0x80 ≤ c.toNat := by
  rw [isWordStart] at start
  split at start
  · exact .inl start
  · next wide =>
      have separate : identifierStartRanges.apart blankRanges = true := by decide +kernel
      rw [← contains_blankRanges]
      exact .inr ⟨CodeRanges.not_contains_of_apart separate start, Nat.le_of_not_lt wide⟩

/-- A character beyond ASCII is not any of ASCII. -/
theorem ne_of_wide {c d : Char} (wide : 0x80 ≤ c.toNat) (ascii : d.toNat < 0x80) : c ≠ d := by
  rintro rfl
  omega

end Narrowing.Text
