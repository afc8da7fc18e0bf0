import Mathlib
import Narrowing.Directive.Options
import Narrowing.Proofs.Directive.Token

/-!
# Tokens cover a text

`Proofs.Directive.Token` follows the scanner from one token to the next.  This module says
what the tokens of a text are without any order of reading, by the columns alone: they are
parts of the text, one behind the other, and everything outside them is blank (`Cover`).
Together with where a string ends and what no name may touch, this determines them
(`scan_eq_ok_iff`): a text has no other cover than the tokens that are read.

### Where a cover fails

A text without tokens has a longest part in front that has some, and it is the place behind
that part which is reported (`ofText_eq_error_iff`).  The word *longest* is load-bearing.
In `a1$` the part `a` has tokens as well, and no token starts with the digit behind it; but
`a1` has a token too, so the place to blame is the third one.

## Main statements

* `scan_eq_ok_iff` — the tokens of a text are its one cover
* `ofText_eq_error_iff` — the place to blame in a text that has no cover
* `ofText_outcome` — both, and that every text has one or the other
-/

namespace Narrowing.Directive

open Text

/-! ## Parts of a text -/

/-- A string ends at the first unescaped quote behind its body, and nowhere else. -/
theorem isLeast_unescaped_iff {quote : Char} (quoted : isQuote quote = true)
    {body rest : List Char} :
    IsLeast (unescaped quote (body ++ quote :: rest)) body.length ↔
      ∃ text, Escaped quote body text := by
  constructor
  · intro least
    cases found : splitQuoted quote (body ++ quote :: rest) with
    | none =>
        rw [splitQuoted_eq_none_iff] at found
        rw [found] at least
        exact absurd least.1 (Set.notMem_empty _)
    | some parts =>
        obtain ⟨body', rest'⟩ := parts
        obtain ⟨whole, escaped⟩ := escaped_of_splitQuoted found
        have length := least.unique (isLeast_of_splitQuoted found)
        obtain ⟨rfl, -⟩ := List.append_inj whole length
        exact ⟨_, escaped⟩
  · rintro ⟨text, escaped⟩
    exact isLeast_of_splitQuoted (escaped.splitQuoted_append quoted rest)

/-- Where a text is split twice, the longer front is the shorter one and what is between. -/
theorem exists_between {front rest before after : List Char}
    (whole : front ++ rest = before ++ after) (shorter : front.length ≤ before.length) :
    ∃ between, before = front ++ between ∧ rest = between ++ after := by
  rcases List.append_eq_append_iff.mp whole with found | ⟨between, rfl, rfl⟩
  · exact found
  · rw [List.length_append] at shorter
    obtain rfl : between = [] := List.length_eq_zero_iff.mp (by omega)
    exact ⟨[], by simp, rfl⟩

/-- **How a lexeme is taken from between two parts of a text**: a string ends at the first
unescaped quote of the kind that opens it, and a name is an identifier that could be extended to
neither side. -/
def Lexeme.TakenFrom (before rest : List Char) : Lexeme → Prop
  | .string quote body =>
      isQuote quote = true ∧ IsLeast (unescaped quote (body ++ quote :: rest)) body.length
  | .name chars =>
      isIdentifier chars = true ∧ (∀ c ∈ before.getLast?, isNameChar c = false) ∧
        ∀ c ∈ rest.head?, isNameChar c = false
  | .equals | .comma => True

/-- A lexeme is taken from between two parts exactly when it is one, and is parted from both. -/
theorem Lexeme.takenFrom_iff {before rest : List Char} {l : Lexeme} :
    l.TakenFrom before rest ↔ l.Proper ∧ l.EndsBefore rest ∧ Parted before l.spelling := by
  cases l with
  | string quote body =>
      constructor
      · rintro ⟨quoted, least⟩
        obtain ⟨text, escaped⟩ := (isLeast_unescaped_iff quoted).mp least
        refine ⟨.string quoted escaped, trivial, ?_⟩
        simp [Parted, spelling, not_isNameChar_of_isQuote quoted]
      · rintro ⟨proper, -, -⟩
        cases proper with
        | string quoted escaped => exact ⟨quoted, (isLeast_unescaped_iff quoted).mpr ⟨_, escaped⟩⟩
  | name chars =>
      have parted_iff (identifier : isIdentifier chars = true) :
          Parted before chars ↔ ∀ c ∈ before.getLast?, isNameChar c = false := by
        have nonempty := ne_nil_of_isIdentifier identifier
        have name := isNameChar_of_isIdentifier identifier _ (List.head_mem nonempty)
        rw [Parted, List.head?_eq_some_head nonempty]
        simp [name]
      constructor
      · rintro ⟨identifier, left, right⟩
        exact ⟨.name identifier, right, (parted_iff identifier).mpr left⟩
      · rintro ⟨proper, right, parted⟩
        cases proper with
        | name identifier => exact ⟨identifier, (parted_iff identifier).mp parted, right⟩
  | equals => exact iff_of_true trivial ⟨.equals, trivial, by simp [Parted, spelling, isNameChar]⟩
  | comma => exact iff_of_true trivial ⟨.comma, trivial, by simp [Parted, spelling, isNameChar]⟩

/-! ## Covers -/

namespace Token

/-- The column behind the token. -/
def stop (t : Token) : Nat := t.column + t.lexeme.spelling.length

/-- **Tokens cover a text** that starts at the given column. -/
structure Cover (column : Nat) (s : List Char) (tokens : List Token) : Prop where
  /-- Every token is the part of the text at its column. -/
  slices : ∀ t ∈ tokens, ∃ before rest, s = before ++ (t.lexeme.spelling ++ rest) ∧
    t.column = column + before.length ∧ t.lexeme.TakenFrom before rest
  /-- A token begins behind all tokens in front of it. -/
  ordered : tokens.Pairwise fun t u => t.stop ≤ u.column
  /-- Every character outside the tokens is blank. -/
  outside : ∀ before c rest, s = before ++ c :: rest →
    (∀ t ∈ tokens, column + before.length ∉ Set.Ico t.column t.stop) → isBlank c = true
  /-- A run of blanks between tokens could not be extended into one of them. -/
  edges : ∀ t ∈ tokens, (∀ c ∈ t.lexeme.spelling.head?, isBlank c = false) ∧
    ∀ c ∈ t.lexeme.spelling.getLast?, isBlank c = false

/-- Blank texts, and only these, are covered without tokens. -/
theorem cover_nil_iff {column : Nat} {s : List Char} : Cover column s [] ↔ allBlank s = true := by
  rw [allBlank, List.all_eq_true]
  constructor
  · intro cover c member
    obtain ⟨before, rest, whole⟩ := List.append_of_mem member
    exact cover.outside before c rest whole (by simp)
  · intro blank
    refine ⟨by simp, .nil, ?_, by simp⟩
    rintro before c rest rfl -
    exact blank c (by simp)

section Cons

variable {column : Nat} {gap rest : List Char} {t : Token} {ts : List Token}
  (placed : t.column = column + gap.length)

include placed

/-- Places behind a token are counted from its end. -/
theorem stop_add_length (between : List Char) :
    t.stop + between.length = column + (gap ++ (t.lexeme.spelling ++ between)).length := by
  simp only [stop, placed, List.length_append, Nat.add_assoc]

/-- What stands in front of the first token of a cover is blank. -/
theorem Cover.allBlank_gap (cover : Cover column (gap ++ (t.lexeme.spelling ++ rest)) (t :: ts)) :
    allBlank gap = true := by
  obtain ⟨ahead, -⟩ := List.pairwise_cons.mp cover.ordered
  rw [allBlank, List.all_eq_true]
  intro c member
  obtain ⟨before, after, rfl⟩ := List.append_of_mem member
  have early : column + before.length < t.column := by
    rw [placed, List.length_append, List.length_cons]
    omega
  refine cover.outside before c (after ++ (t.lexeme.spelling ++ rest)) (by simp) ?_
  rw [List.forall_mem_cons]
  refine ⟨fun inside => absurd inside.1 (Nat.not_le.mpr early), fun u among inside => ?_⟩
  have later := ahead u among
  rw [stop] at later
  exact absurd inside.1 (by omega)

/-- The text behind the first token of a cover is covered by the others. -/
theorem Cover.tail (cover : Cover column (gap ++ (t.lexeme.spelling ++ rest)) (t :: ts)) :
    Cover t.stop rest ts := by
  obtain ⟨-, slices⟩ := List.forall_mem_cons.mp cover.slices
  obtain ⟨ahead, ordered⟩ := List.pairwise_cons.mp cover.ordered
  refine ⟨fun u member => ?_, ordered, fun before c after whole uncovered => ?_,
    (List.forall_mem_cons.mp cover.edges).2⟩
  · obtain ⟨before, after, whole, placedAt, taken⟩ := slices u member
    have later := ahead u member
    rw [placedAt, stop, placed] at later
    rw [← List.append_assoc] at whole
    obtain ⟨between, rfl, rfl⟩ := exists_between whole (by rw [List.length_append]; omega)
    obtain ⟨proper, ends, parted⟩ := Lexeme.takenFrom_iff.mp taken
    refine ⟨between, after, rfl, ?_,
      Lexeme.takenFrom_iff.mpr ⟨proper, ends, parted.of_append_left⟩⟩
    rw [placedAt, stop_add_length placed, List.append_assoc]
  · subst whole
    refine cover.outside (gap ++ (t.lexeme.spelling ++ before)) c after (by simp) ?_
    rw [← stop_add_length placed, List.forall_mem_cons]
    exact ⟨fun inside => absurd inside.2 (by omega), uncovered⟩

/-- **A cover is extended** by a token in front of it, with blanks in front of that. -/
theorem Cover.cons (cover : Cover t.stop rest ts) (blank : allBlank gap = true)
    (proper : t.lexeme.Proper) (ends : t.lexeme.EndsBefore rest) :
    Cover column (gap ++ (t.lexeme.spelling ++ rest)) (t :: ts) := by
  refine ⟨?_, ?_, fun before c after whole uncovered => ?_, ?_⟩
  · rw [List.forall_mem_cons]
    refine ⟨⟨gap, rest, rfl, placed, ?_⟩, fun u member => ?_⟩
    · exact Lexeme.takenFrom_iff.mpr ⟨proper, ends, parted_of_allBlank blank _⟩
    · obtain ⟨between, after, rfl, placedAt, taken⟩ := cover.slices u member
      obtain ⟨properAt, endsAt, partedAt⟩ := Lexeme.takenFrom_iff.mp taken
      rw [← proper.parted_iff, ← List.append_assoc] at ends
      have touching := partedAt.append_left ends.of_append_right
      refine ⟨gap ++ (t.lexeme.spelling ++ between), after, by simp, ?_, ?_⟩
      · rw [placedAt, stop_add_length placed]
      · exact Lexeme.takenFrom_iff.mpr
          ⟨properAt, endsAt, touching.append_left (parted_of_allBlank blank _)⟩
  · rw [List.pairwise_cons]
    refine ⟨fun u member => ?_, cover.ordered⟩
    obtain ⟨between, after, -, placedAt, -⟩ := cover.slices u member
    rw [placedAt]
    exact Nat.le_add_right _ _
  · rw [List.forall_mem_cons] at uncovered
    rcases Nat.lt_or_ge before.length gap.length with early | late
    · have whole' : (before ++ [c]) ++ after = gap ++ (t.lexeme.spelling ++ rest) := by
        rw [whole, List.append_assoc, List.singleton_append]
      obtain ⟨between, rfl, -⟩ := exists_between whole' (by rwa [List.length_append])
      rw [allBlank, List.all_eq_true] at blank
      exact blank c (by simp)
    · have behind : t.stop ≤ column + before.length :=
        Nat.not_lt.mp fun inside => uncovered.1 ⟨by omega, inside⟩
      rw [stop, placed] at behind
      rw [← List.append_assoc] at whole
      obtain ⟨between, rfl, rfl⟩ := exists_between whole (by rw [List.length_append]; omega)
      rw [List.append_assoc, ← stop_add_length placed] at uncovered
      exact cover.outside between c after rfl uncovered.2
  · rw [List.forall_mem_cons]
    exact ⟨proper.visible_ends, cover.edges⟩

end Cons

/-- **A text is covered with a first token** exactly when it is blanks, the spelling of that token
and a text covered by the other tokens. -/
theorem cover_cons_iff {column : Nat} {s : List Char} {t : Token} {ts : List Token} :
    Cover column s (t :: ts) ↔
      ∃ gap rest, s = gap ++ (t.lexeme.spelling ++ rest) ∧ allBlank gap = true ∧
        t.lexeme.Proper ∧ t.lexeme.EndsBefore rest ∧ t.column = column + gap.length ∧
        Cover t.stop rest ts := by
  constructor
  · intro cover
    obtain ⟨gap, rest, rfl, placed, taken⟩ := cover.slices t List.mem_cons_self
    obtain ⟨proper, ends, -⟩ := Lexeme.takenFrom_iff.mp taken
    exact ⟨gap, rest, rfl, cover.allBlank_gap placed, proper, ends, placed, cover.tail placed⟩
  · rintro ⟨gap, rest, rfl, blank, proper, ends, placed, cover⟩
    exact cover.cons placed blank proper ends

/-- **The tokens of a text are its one cover.** -/
theorem scan_eq_ok_iff {column : Nat} {s : List Char} {tokens : List Token} :
    scan column s = .ok tokens ↔ Cover column s tokens := by
  induction tokens generalizing column s with
  | nil => rw [scan_eq_ok_nil_iff, cover_nil_iff]
  | cons t ts ih =>
      rw [scan_eq_ok_cons_iff, cover_cons_iff, stop]
      simp only [ih]

/-! ## The place to blame -/

/-- **The place to blame in a text**: behind the longest part in front that has tokens stands a
character at which no token starts. -/
structure Blamed (s front : List Char) (c : Char) (rest : List Char) (fault : LexicalFault) :
    Prop where
  whole : s = front ++ c :: rest
  /-- The text before the place has tokens. -/
  tokens : ∃ tokens, ofText front = .ok tokens
  /-- No longer part in front has tokens. -/
  longest : ∀ other, other <+: s → (∃ tokens, ofText other = .ok tokens) → other <+: front
  /-- The column is that of the place, counted from one. -/
  stuck : Stuck (front.length + 1) (c :: rest) fault
  /-- The report tells a quote that is never closed from other characters. -/
  wording : fault.message =
    if isQuote c = true then s!"unterminated string starting at column {front.length + 1}"
    else s!"unexpected character {quoted (String.singleton c)} at column {front.length + 1}"

theorem Stuck.message_eq {column : Nat} {c : Char} {rest : List Char} {fault : LexicalFault}
    (stuck : Stuck column (c :: rest) fault) :
    fault.message =
      if isQuote c = true then s!"unterminated string starting at column {column}"
      else s!"unexpected character {quoted (String.singleton c)} at column {column}" := by
  cases stuck with
  | unterminated quote => exact (if_pos quote).symm
  | unexpected visible alien =>
      rw [Lexeme.begins_iff, not_or] at alien
      exact (if_neg alien.1).symm

/-- No part in front of a text that goes beyond the place where reading halts has tokens. -/
theorem HaltsBetween.longest {front rest other : List Char} {fault : LexicalFault}
    (halts : HaltsBetween 1 front rest fault) (within : other <+: front ++ rest)
    (tokens : ∃ tokens, ofText other = .ok tokens) : other <+: front := by
  rcases List.prefix_or_prefix_of_prefix within (List.prefix_append front rest) with
    shorter | ⟨more, rfl⟩
  · exact shorter
  · rw [List.prefix_append_right_inj] at within
    obtain ⟨back, rfl⟩ := within
    cases more with
    | nil => exact ⟨[], by simp⟩
    | cons c r =>
        have failed := (halts.of_append (List.cons_ne_nil c r)).scan_eq
        obtain ⟨found, read⟩ := tokens
        rw [ofText, failed] at read
        cases read

/-- **There is one place to blame in a text**, and one report about it. -/
theorem Blamed.unique {s front front' rest rest' : List Char} {c c' : Char}
    {fault fault' : LexicalFault} (blamed : Blamed s front c rest fault)
    (blamed' : Blamed s front' c' rest' fault') : front = front' ∧ fault = fault' := by
  have before : front <+: s := ⟨c :: rest, blamed.whole.symm⟩
  have before' : front' <+: s := ⟨c' :: rest', blamed'.whole.symm⟩
  have shorter := blamed'.longest front before blamed.tokens
  have longer := blamed.longest front' before' blamed'.tokens
  obtain rfl := shorter.eq_of_length_le longer.length_le
  have same := List.append_cancel_left (blamed.whole.symm.trans blamed'.whole)
  have stuck := blamed.stuck.scan_eq
  rw [same, blamed'.stuck.scan_eq] at stuck
  cases stuck
  exact ⟨rfl, rfl⟩

/-- The place that is reported is to blame. -/
theorem exists_blamed {s : List Char} {fault : LexicalFault} (failed : ofText s = .error fault) :
    ∃ front c rest, Blamed s front c rest fault := by
  obtain ⟨front, rest, rfl, halts⟩ := scan_eq_error_iff.mp failed
  have stuck := halts.stuck
  rw [Nat.add_comm] at stuck
  obtain ⟨c, rest, rfl⟩ := List.exists_cons_of_ne_nil stuck.ne_nil
  exact ⟨front, c, rest, rfl, halts.tokens, fun other => halts.longest, stuck, stuck.message_eq⟩

/-- **The place that is reported is the place to blame.** -/
theorem ofText_eq_error_iff {s : List Char} {fault : LexicalFault} :
    ofText s = .error fault ↔ ∃ front c rest, Blamed s front c rest fault := by
  refine ⟨exists_blamed, ?_⟩
  rintro ⟨front, c, rest, blamed⟩
  cases outcome : ofText s with
  | ok tokens =>
      -- A text with tokens would be a longer part of itself.
      have whole := blamed.longest s (List.prefix_refl s) ⟨tokens, outcome⟩
      have longer := whole.length_le
      rw [blamed.whole, List.length_append, List.length_cons] at longer
      omega
  | error found =>
      obtain ⟨front', c', rest', blamed'⟩ := exists_blamed outcome
      rw [(blamed.unique blamed').2]

/-- **The tokens of a text lose nothing, and a text without tokens is blamed at the right column.**
Every text has tokens or a place to blame.

1. It has tokens exactly when these cover it, columns counted from one: they are parts of the text,
   one behind the other, with blanks outside; names could be extended to neither side, and blanks
   not into a token; strings end at their first unescaped quote.
2. It fails exactly where it is to blame: the part before the reported column has tokens and none
   longer has, and at that column stands a quote without an unescaped quote behind it, or a
   visible character that no lexeme begins with.
3. It has no tokens at all exactly when it is blank. -/
theorem ofText_outcome (s : List Char) :
    ((∃ tokens, Cover 1 s tokens) ∨ ∃ fault front c rest, Blamed s front c rest fault) ∧
    (∀ tokens, ofText s = .ok tokens ↔ Cover 1 s tokens) ∧
    (∀ fault, ofText s = .error fault ↔ ∃ front c rest, Blamed s front c rest fault) ∧
    (ofText s = .ok [] ↔ allBlank s = true) := by
  refine ⟨?_, fun tokens => scan_eq_ok_iff, fun fault => ofText_eq_error_iff, scan_eq_ok_nil_iff⟩
  cases outcome : ofText s with
  | ok tokens => exact .inl ⟨tokens, scan_eq_ok_iff.mp outcome⟩
  | error fault => exact .inr ⟨fault, ofText_eq_error_iff.mp outcome⟩

/-- The tokens of a text with backslashes in rows of three and of two, and a wide blank. -/
def escapedTokens : List Token :=
  [⟨.name ['k'], 1⟩, ⟨.equals, 3⟩, ⟨.string '"' "a\\\\\\\"b\\\\".toList, 5⟩, ⟨.comma, 15⟩,
    ⟨.name ['x', '1'], 16⟩]

/-- Strings that end behind escaped backslashes and quotes, a string that never ends because its
last quote is escaped, and a place to blame behind a digit at which no token starts either. -/
theorem ofText_outcome_escaped :
    Cover 1 "k\u2003= \"a\\\\\\\"b\\\\\",x1".toList escapedTokens ∧
      (∃ front c rest, Blamed "x = 'it\\'".toList front c rest (.unterminated 5)) ∧
      (∃ front c rest, Blamed "a1$".toList front c rest (.unexpected '$' 3)) ∧
      ofText "\u2003\t".toList = .ok [] := by
  have read : ofText "k\u2003= \"a\\\\\\\"b\\\\\",x1".toList = .ok escapedTokens := by cbv
  have unterminated : ofText "x = 'it\\'".toList = .error (.unterminated 5) := by cbv
  have unexpected : ofText "a1$".toList = .error (.unexpected '$' 3) := by cbv
  exact ⟨((ofText_outcome _).2.1 _).mp read, ((ofText_outcome _).2.2.1 _).mp unterminated,
    ((ofText_outcome _).2.2.1 _).mp unexpected, (ofText_outcome _).2.2.2.mpr (by decide)⟩

end Token

end Narrowing.Directive
