import Narrowing.Proofs.Reference.Spelling

/-!
# Nested delimiters

`splitArguments` follows the brackets of an argument list with a stack.  What it
guarantees is said here without one: `delimiters` lists the brackets of a text, the
`>` of an arrow left out, and `Nested` says of such a list that every bracket has its
partner.

### From the stack to nesting

A stack of awaited closers is a promise about the rest of the text: nested brackets up
to the first closer, nested brackets up to the next one, and so on (`Closes`).  One
character keeps that promise (`Closes.cons_of_await`), and an empty stack promises
nesting, so a list that is cut is nested (`nested_of_splitArguments`).

### The last character

A list ends where the text ends, and its last character is compared with the closer
alone.  An arrow is not looked for at that place, so a list in angle brackets may end
with an arrow whose `>` is no delimiter.  That is the only way in which the brackets of
an accepted reference fail to enclose its argument list.

## Main statements

* `nested_of_splitArguments` — the brackets of a list that is cut are nested
* `enclosed_of_ofText` — the argument list of a reference that was read is enclosed by
  its brackets, unless its last character belongs to an arrow
* `ofText_final_arrow` — a reference that is read although its list ends in an arrow
-/

namespace Narrowing.Reference

open Text

/-! ## Delimiters and nesting -/

/-- The brackets of a text, in order; `previous` is the character before it.  The `>` of an arrow
is none of them. -/
def delimiters (previous : Option Char) : List Char → List Char
  | [] => []
  | c :: r =>
    if (closerOf? c).isSome ∨ isCloser c ∧ ¬ (c = '>' ∧ previous = some '-') then
      c :: delimiters (some c) r
    else delimiters (some c) r

/-- **Properly nested brackets**: none at all, or an opening bracket, nested brackets, the bracket
that closes it and nested brackets. -/
inductive Nested : List Char → Prop
  | nil : Nested []
  | enclose {opener closer : Char} {inside after : List Char}
      (pair : closerOf? opener = some closer) (nestedInside : Nested inside)
      (nestedAfter : Nested after) : Nested (opener :: (inside ++ closer :: after))

theorem Nested.append {s t : List Char} (left : Nested s) (right : Nested t) :
    Nested (s ++ t) := by
  induction left with
  | nil => exact right
  | enclose pair nestedInside _ _ ih =>
      rw [List.cons_append, List.append_assoc, List.cons_append]
      exact .enclose pair nestedInside ih

/-- Nested brackets come in pairs. -/
theorem Nested.even_length {s : List Char} (nested : Nested s) : s.length % 2 = 0 := by
  induction nested with
  | nil => rfl
  | enclose _ _ _ inside after =>
      simp only [List.length_cons, List.length_append]
      omega

/-- The delimiters of two texts one after the other. -/
theorem delimiters_append (previous : Option Char) (s t : List Char) :
    delimiters previous (s ++ t) =
      delimiters previous s ++ delimiters (s.getLast?.or previous) t := by
  induction s generalizing previous with
  | nil => simp [delimiters]
  | cons c r ih =>
      rw [List.cons_append, delimiters, delimiters, ih, List.getLast?_cons, Option.or_some,
        Option.some_or]
      split
      · rfl
      · rfl

/-- A text after anything but a hyphen has the delimiters that it has at the beginning. -/
theorem delimiters_eq_of_ne {previous : Option Char} (other : previous ≠ some '-')
    (s : List Char) : delimiters previous s = delimiters none s := by
  cases s with
  | nil => rfl
  | cons c r => simp [delimiters, other]

/-! ## From the stack to nesting -/

/-- **The brackets close everything that is awaited**: nested brackets stand before the first
awaited closer, and the rest closes the others; when none is awaited, they are nested. -/
def Closes : List Char → List Char → Prop
  | [], brackets => Nested brackets
  | closer :: pending, brackets => ∃ inside after, brackets = inside ++ closer :: after ∧
      Nested inside ∧ Closes pending after

/-- Nested brackets in front change nothing. -/
theorem Closes.append {pending s t : List Char} (left : Nested s) (right : Closes pending t) :
    Closes pending (s ++ t) := by
  cases pending with
  | nil => exact left.append right
  | cons closer pending =>
      obtain ⟨inside, after, rfl, nested, closes⟩ := right
      exact ⟨s ++ inside, after, by rw [List.append_assoc], left.append nested, closes⟩

/-- **One character keeps the promise**: what closes the brackets awaited after it closes, with it
in front, those awaited before it. -/
theorem Closes.cons_of_await {pending next : List Char} {previous : Option Char} {c : Char}
    (step : await pending previous c = some next) {r : List Char}
    (closes : Closes next (delimiters (some c) r)) :
    Closes pending (delimiters previous (c :: r)) := by
  unfold await at step
  rw [delimiters]
  cases pair : closerOf? c with
  | some closer =>
      rw [pair] at step
      cases step
      obtain ⟨inside, after, brackets, nested, closes⟩ := closes
      have whole : c :: (inside ++ closer :: after) = c :: (inside ++ [closer]) ++ after := by
        simp
      rw [if_pos (.inl rfl), brackets, whole]
      exact closes.append (.enclose pair nested .nil)
  | none =>
      rw [pair] at step
      dsimp only at step
      by_cases closing : isCloser c ∧ ¬ (c = '>' ∧ previous = some '-')
      · rw [if_pos closing] at step
        rw [if_pos (.inr closing)]
        cases pending with
        | nil => cases step
        | cons awaited pending =>
            dsimp only at step
            split at step
            · next same =>
                cases step
                cases same
                exact ⟨[], _, rfl, .nil, closes⟩
            · cases step
      · rw [if_neg closing] at step
        cases step
        rw [if_neg (by simpa using closing)]
        exact closes

/-- **What is cut closes the brackets awaited in front of it.** -/
theorem closes_of_splitFrom {pending : List Char} {previous : Option Char} {s : List Char}
    {pieces : List (List Char)} (h : splitFrom pending previous s = some pieces) :
    Closes pending (delimiters previous s) := by
  induction s generalizing pending previous pieces with
  | nil =>
      cases pending with
      | nil => exact .nil
      | cons awaited pending => cases h
  | cons c r ih =>
      rw [splitFrom_cons] at h
      obtain ⟨next, step, h⟩ := Option.bind_eq_some_iff.mp h
      obtain ⟨cut, found, -⟩ := Option.map_eq_some_iff.mp h
      exact (ih found).cons_of_await step

/-- **The brackets of a list that is cut are nested.** -/
theorem nested_of_splitArguments {inner : List Char} {pieces : List (List Char)}
    (h : splitArguments inner = some pieces) : Nested (delimiters none inner) :=
  closes_of_splitFrom h

/-! ## Enclosed lists -/

/-- **The text is enclosed by its first and its last character**: they are delimiters and a pair,
and the delimiters between them are nested. -/
def Enclosed (s : List Char) : Prop :=
  ∃ opener inner closer, s = opener :: (inner ++ [closer]) ∧ closerOf? opener = some closer ∧
    delimiters none s = opener :: (delimiters none inner ++ [closer]) ∧
    Nested (delimiters none inner)

/-- The delimiters of an enclosed text are nested. -/
theorem Enclosed.nested {s : List Char} (enclosed : Enclosed s) : Nested (delimiters none s) := by
  obtain ⟨opener, inner, closer, -, pair, whole, nested⟩ := enclosed
  rw [whole]
  exact .enclose pair nested .nil

/-- An opening bracket is a delimiter, and the text behind it is read as at the beginning. -/
theorem delimiters_cons_of_closerOf? {opener closer : Char}
    (pair : closerOf? opener = some closer) (previous : Option Char) (s : List Char) :
    delimiters previous (opener :: s) = opener :: delimiters none s := by
  have other : some opener ≠ some '-' := by
    rintro ⟨⟩
    cases pair
  rw [delimiters, if_pos (.inl (by rw [pair]; rfl)), delimiters_eq_of_ne other]

/-- A closing bracket is a delimiter unless it belongs to an arrow. -/
theorem delimiters_singleton_of_closerOf? {opener closer : Char}
    (pair : closerOf? opener = some closer) (previous : Option Char) :
    delimiters previous [closer] =
      if closer = '>' ∧ previous = some '-' then [] else [closer] := by
  have closing : closerOf? closer = none ∧ isCloser closer = true := by
    unfold closerOf? at pair
    split at pair <;> cases pair <;> decide
  by_cases arrow : closer = '>' ∧ previous = some '-'
  · rw [if_pos arrow]
    obtain ⟨rfl, rfl⟩ := arrow
    rfl
  · rw [if_neg arrow]
    simp [delimiters, closing, arrow]

/-- A text ends in an arrow when its last two characters are one. -/
theorem arrow_suffix_concat_iff {s : List Char} {c : Char} :
    "->".toList <:+ s ++ [c] ↔ c = '>' ∧ s.getLast? = some '-' := by
  have arrow : "->".toList = ['-'] ++ ['>'] := rfl
  rw [arrow]
  constructor
  · rintro ⟨front, whole⟩
    rw [← List.append_assoc] at whole
    obtain ⟨rfl, same⟩ := List.append_inj' whole rfl
    cases same
    exact ⟨rfl, List.getLast?_concat⟩
  · rintro ⟨rfl, last⟩
    refine ⟨s.dropLast, ?_⟩
    rw [← List.append_assoc, List.dropLast_append_getLast? '-' last]

/-- **A list of nested delimiters is enclosed by its brackets unless it ends in an arrow.** -/
theorem enclosed_iff {opener closer : Char} (pair : closerOf? opener = some closer)
    {inner : List Char} (nested : Nested (delimiters none inner)) :
    Enclosed (opener :: (inner ++ [closer])) ↔
      ¬ "->".toList <:+ opener :: (inner ++ [closer]) := by
  rw [← List.cons_append, arrow_suffix_concat_iff]
  have whole : delimiters none (opener :: inner ++ [closer]) =
      opener :: (delimiters none inner ++
        if closer = '>' ∧ (opener :: inner).getLast? = some '-' then [] else [closer]) := by
    rw [delimiters_append, delimiters_cons_of_closerOf? pair, Option.or_none,
      delimiters_singleton_of_closerOf? pair, List.cons_append]
  constructor
  · rintro ⟨opener', inner', closer', same, -, counted, -⟩ arrow
    obtain ⟨rfl, tail⟩ := List.cons.inj same
    obtain ⟨rfl, -⟩ := List.append_inj' tail rfl
    have length := congrArg List.length (whole.symm.trans counted)
    rw [if_pos arrow] at length
    simp at length
  · intro closing
    refine ⟨opener, inner, closer, rfl, pair, ?_, nested⟩
    rw [whole, if_neg closing]

/-- The argument list of a source text: what follows its name. -/
def listText (text : String) : List Char :=
  (strip text.toList).dropWhile fun c => !isListOpener c

/-- **The argument list of a reference that was read is enclosed by its brackets, unless it ends
in an arrow.**  It starts with an opening bracket, ends with the character that closes that kind
of bracket, and the delimiters between them are nested in any case. -/
theorem enclosed_of_ofText {text : String} {r : Reference} (h : ofText text = .ok r)
    (listed : r.args ≠ []) :
    (∃ opener inner closer, listText text = opener :: (inner ++ [closer]) ∧
      closerOf? opener = some closer ∧ Nested (delimiters none inner)) ∧
      (Enclosed (listText text) ↔ ¬ "->".toList <:+ listText text) := by
  obtain ⟨pieces, cut, -, read⟩ := exists_cut_of_ofText h
  have nonempty : pieces ≠ [] := by
    rintro rfl
    exact listed (Except.ok.inj read).symm
  obtain ⟨opener, rest, list, isOpener, pieced⟩ := exists_list_of_splitName cut nonempty
  obtain ⟨closer, pair⟩ : ∃ closer, closerOf? opener = some closer := by
    simp only [isListOpener, Bool.or_eq_true, beq_iff_eq] at isOpener
    rcases isOpener with rfl | rfl
    · exact ⟨'>', rfl⟩
    · exact ⟨']', rfl⟩
  obtain ⟨closed, splits⟩ := splitArguments_of_readList pieced
  rw [pair] at closed
  have whole : listText text = opener :: (rest.dropLast ++ [closer]) := by
    rw [List.dropLast_append_getLast? closer closed]
    exact list
  have nested := nested_of_splitArguments splits
  refine ⟨⟨opener, rest.dropLast, closer, whole, pair, nested⟩, ?_⟩
  rw [whole]
  exact enclosed_iff pair nested

/-- An argument list with an arrow, brackets of two kinds and blanks around the reference. -/
theorem enclosed_mixed :
    ofText " crate::model::Bar <#T, fn(u8) -> Vec<[T; 2]>> " =
        .ok ⟨"crate::model::Bar", [.free "T", .bound "fn(u8) -> Vec<[T; 2]>"]⟩ ∧
      Enclosed (listText " crate::model::Bar <#T, fn(u8) -> Vec<[T; 2]>> ") := by
  have read : ofText " crate::model::Bar <#T, fn(u8) -> Vec<[T; 2]>> " =
      .ok ⟨"crate::model::Bar", [.free "T", .bound "fn(u8) -> Vec<[T; 2]>"]⟩ := by
    decide
  exact ⟨read, (enclosed_of_ofText read (by simp)).2.mpr (by decide)⟩

/-- **A reference that is read although nothing closes its argument list**: the last character is
the `>` of an arrow. -/
theorem ofText_final_arrow :
    ofText "Bar<fn(u8) ->" = .ok ⟨"Bar", [.bound "fn(u8) -"]⟩ ∧
      listText "Bar<fn(u8) ->" = "<fn(u8) ->".toList ∧
      delimiters none "<fn(u8) ->".toList = "<()".toList ∧
      ¬ Nested "<()".toList ∧ ¬ Enclosed "<fn(u8) ->".toList := by
  have brackets : delimiters none "<fn(u8) ->".toList = "<()".toList := by decide
  have unbalanced : ¬ Nested "<()".toList := by
    intro nested
    have even := nested.even_length
    revert even
    decide
  refine ⟨by decide, by decide +kernel, brackets, unbalanced, ?_⟩
  intro enclosed
  exact unbalanced (brackets ▸ enclosed.nested)

end Narrowing.Reference
