import Narrowing.Proofs.Text
import Narrowing.Reference.Arguments

/-!
# Cutting an argument list

`splitArguments` cuts at the commas outside all brackets and checks the brackets on
the way.  Its only state is the stack of closing brackets that are still awaited and
the character before, which decides whether a `>` is an arrow's.  This module says
once what one character does to the stack (`await`), follows it through a text that
stays inside one piece (`awaitAll`), and derives both directions of cutting:

* every piece of a list that is cut stays inside itself (`isPiece_of_mem`),
* and pieces that stay inside themselves are recovered from the list that joins them
  (`splitFrom_join`).

### The character before

The character before matters only as far as it is a hyphen or not (`await_congr`).
A piece that starts after a comma, after a blank or at the beginning of the list is
therefore read alike, which is why a list may be joined with other blanks than it was
written with.
-/

namespace Narrowing.Reference

open Text

/-! ## One character -/

/-- The closing brackets that are awaited after one more character, or nothing when it is a
closing bracket that is not the next one awaited. -/
def await (pending : List Char) (previous : Option Char) (c : Char) : Option (List Char) :=
  match closerOf? c with
  | some closer => some (closer :: pending)
  | none =>
    if isCloser c ∧ ¬ (c = '>' ∧ previous = some '-') then
      match pending with
      | [] => none
      | awaited :: pending => if awaited = c then some pending else none
    else some pending

/-- A character that is neither a bracket nor a comma. -/
structure IsPlain (c : Char) : Prop where
  opener : closerOf? c = none
  closer : isCloser c = false
  comma : c ≠ ','

theorem await_of_isPlain {c : Char} (plain : IsPlain c) (pending : List Char)
    (previous : Option Char) : await pending previous c = some pending := by
  simp [await, plain.opener, plain.closer]

theorem await_comma (pending : List Char) (previous : Option Char) :
    await pending previous ',' = some pending := by
  simp [await, closerOf?, isCloser]

/-- The character before matters only as far as it is a hyphen or not. -/
theorem await_congr {previous previous' : Option Char}
    (same : previous = some '-' ↔ previous' = some '-') (pending : List Char) (c : Char) :
    await pending previous c = await pending previous' c := by
  simp only [await, same]

/-- One unrolling of `splitFrom`: the stack moves, and an outer comma starts a new piece. -/
theorem splitFrom_cons (pending : List Char) (previous : Option Char) (c : Char)
    (r : List Char) :
    splitFrom pending previous (c :: r) =
      (await pending previous c).bind fun next =>
        (splitFrom next (some c) r).map
          (if c = ',' ∧ pending = [] then ([] :: ·) else consFirst c) := by
  unfold await
  rw [splitFrom.eq_def]
  dsimp only
  -- A bracket that moves the stack is not a comma, so only the last case can cut.
  cases opener : closerOf? c with
  | some closer =>
      have other : c ≠ ',' := by
        rintro rfl
        cases opener
      simp [other]
  | none =>
      by_cases closing : isCloser c ∧ ¬ (c = '>' ∧ previous = some '-')
      · have other : c ≠ ',' := by
          rintro rfl
          exact absurd closing.1 (by decide)
        simp only [if_pos closing]
        cases pending with
        | nil => rfl
        | cons awaited pending =>
            by_cases same : awaited = c
            · simp [same, other]
            · simp [same]
      · simp only [if_neg closing, Option.bind_some]
        by_cases outer : c = ',' ∧ pending = []
        · rw [if_pos outer, if_pos outer]
        · rw [if_neg outer, if_neg outer]

/-! ## A text that stays inside one piece -/

/-- The closing brackets that are awaited after a text, or nothing when one of its brackets is
wrong or one of its commas is an outer one. -/
def awaitAll (pending : List Char) (previous : Option Char) : List Char → Option (List Char)
  | [] => some pending
  | c :: r =>
    if c = ',' ∧ pending = [] then none
    else (await pending previous c).bind fun next => awaitAll next (some c) r

/-- The text stays inside one piece: its brackets nest and no comma of it is an outer one. -/
def IsPiece (s : List Char) : Prop := awaitAll [] none s = some []

theorem awaitAll_congr {previous previous' : Option Char}
    (same : previous = some '-' ↔ previous' = some '-') (pending s : List Char) :
    awaitAll pending previous s = awaitAll pending previous' s := by
  cases s with
  | nil => rfl
  | cons c r => rw [awaitAll, awaitAll, await_congr same]

/-- A text after anything but a hyphen is read as at the beginning. -/
theorem awaitAll_eq_of_ne {previous : Option Char} (other : previous ≠ some '-')
    (pending s : List Char) : awaitAll pending previous s = awaitAll pending none s :=
  awaitAll_congr ⟨fun h => absurd h other, fun h => by cases h⟩ pending s

theorem awaitAll_append (pending : List Char) (previous : Option Char) (s t : List Char) :
    awaitAll pending previous (s ++ t) =
      (awaitAll pending previous s).bind fun next =>
        awaitAll next (s.getLast?.or previous) t := by
  induction s generalizing pending previous with
  | nil => simp [awaitAll]
  | cons c r ih =>
      rw [List.cons_append, awaitAll, awaitAll]
      by_cases outer : c = ',' ∧ pending = []
      · rw [if_pos outer, if_pos outer, Option.bind_none]
      · rw [if_neg outer, if_neg outer, Option.bind_assoc]
        congr 1
        funext next
        rw [ih, List.getLast?_cons, Option.or_some, Option.some_or]

/-- Plain characters leave the stack alone. -/
theorem awaitAll_of_forall_isPlain {s : List Char} (plain : ∀ c ∈ s, IsPlain c)
    (pending : List Char) (previous : Option Char) :
    awaitAll pending previous s = some pending := by
  induction s generalizing previous with
  | nil => rfl
  | cons c r ih =>
      rw [List.forall_mem_cons] at plain
      rw [awaitAll, if_neg fun outer => plain.1.comma outer.1, await_of_isPlain plain.1,
        Option.bind_some, ih plain.2]

theorem isPiece_of_forall_isPlain {s : List Char} (plain : ∀ c ∈ s, IsPlain c) : IsPiece s :=
  awaitAll_of_forall_isPlain plain [] none

/-- A class of characters without brackets and without the comma has only plain characters. -/
theorem isPlain_of_class {p : Char → Bool} (avoids : "<[(>]),".toList.any p = false)
    {c : Char} (h : p c = true) : IsPlain c := by
  have other : ∀ d ∈ "<[(>]),".toList, c ≠ d := by
    rintro d member rfl
    exact List.any_eq_false.mp avoids c member h
  refine ⟨?_, ?_, other ',' (by decide)⟩
  · unfold closerOf?
    split
    · exact absurd rfl (other '<' (by decide))
    · exact absurd rfl (other '[' (by decide))
    · exact absurd rfl (other '(' (by decide))
    · rfl
  · simp only [isCloser, Bool.or_eq_false_iff, beq_eq_false_iff_ne]
    exact ⟨⟨other '>' (by decide), other ']' (by decide)⟩, other ')' (by decide)⟩

theorem isPlain_of_isBlank {c : Char} (blank : isBlank c = true) : IsPlain c :=
  isPlain_of_class (by decide) blank

theorem isPlain_of_isNameChar {c : Char} (name : isNameChar c = true) : IsPlain c :=
  isPlain_of_class (by decide) name

/-- A leading blank does not matter to a piece. -/
theorem isPiece_cons_iff_of_isBlank {c : Char} (blank : isBlank c = true) (s : List Char) :
    IsPiece (c :: s) ↔ IsPiece s := by
  have plain := isPlain_of_isBlank blank
  have other : some c ≠ some '-' := by
    rintro ⟨⟩
    exact absurd blank (by decide)
  rw [IsPiece, awaitAll, if_neg fun outer => plain.comma outer.1, await_of_isPlain plain,
    Option.bind_some, awaitAll_eq_of_ne other, IsPiece]

/-- **The stripped part of a piece is a piece.** -/
theorem IsPiece.strip {s : List Char} (piece : IsPiece s) : IsPiece (strip s) := by
  obtain ⟨before, after, whole, blankBefore, blankAfter⟩ := exists_blanks_around_strip s
  -- No blank is a hyphen, so a `>` at the start of the stripped part closes there as it did.
  have other : before.getLast?.or none ≠ some '-' := by
    rw [Option.or_none]
    intro last
    exact absurd (blankBefore _ (List.mem_of_mem_getLast? last)) (by decide)
  rw [IsPiece, whole, awaitAll_append,
    awaitAll_of_forall_isPlain fun c member => isPlain_of_isBlank (blankBefore c member),
    Option.bind_some, awaitAll_eq_of_ne other, awaitAll_append] at piece
  obtain ⟨next, read, rest⟩ := Option.bind_eq_some_iff.mp piece
  rw [awaitAll_of_forall_isPlain fun c member => isPlain_of_isBlank (blankAfter c member)] at rest
  rw [IsPiece, read, rest]

/-! ## Cutting -/

/-- A text put in front of the first piece. -/
theorem foldr_consFirst (s piece : List Char) (pieces : List (List Char)) :
    s.foldr consFirst (piece :: pieces) = (s ++ piece) :: pieces := by
  induction s with
  | nil => rfl
  | cons c r ih => rw [List.foldr_cons, ih, consFirst, List.cons_append]

/-- A text that stays inside one piece goes in front of the first piece of what follows it. -/
theorem splitFrom_append {pending next : List Char} {previous : Option Char} {s : List Char}
    (read : awaitAll pending previous s = some next) (t : List Char) :
    splitFrom pending previous (s ++ t) =
      (splitFrom next (s.getLast?.or previous) t).map (s.foldr consFirst ·) := by
  induction s generalizing pending previous with
  | nil =>
      cases read
      simp
  | cons c r ih =>
      rw [awaitAll] at read
      by_cases outer : c = ',' ∧ pending = []
      · rw [if_pos outer] at read
        cases read
      · rw [if_neg outer] at read
        obtain ⟨moved, step, rest⟩ := Option.bind_eq_some_iff.mp read
        -- The character before `t` is the last one of `c :: r`, which is `c` when `r` is empty.
        rw [List.cons_append, splitFrom_cons, step, Option.bind_some, if_neg outer, ih rest,
          Option.map_map, List.getLast?_cons, Option.or_some, Option.some_or]
        rfl

/-- **Cutting a joined list gives the pieces back.** -/
theorem splitFrom_join {previous : Option Char} (other : previous ≠ some '-')
    {piece : List Char} {pieces : List (List Char)} (inside : IsPiece piece)
    (insides : ∀ p ∈ pieces, IsPiece p) :
    splitFrom [] previous (piece ++ pieces.flatMap (',' :: ·)) = some (piece :: pieces) := by
  have read : awaitAll [] previous piece = some [] :=
    (awaitAll_eq_of_ne other [] piece).trans inside
  induction pieces generalizing previous piece with
  | nil =>
      rw [List.flatMap_nil, splitFrom_append read, splitFrom]
      simp [foldr_consFirst]
  | cons q pieces ih =>
      rw [List.forall_mem_cons] at insides
      have afterComma : some ',' ≠ some '-' := by decide
      rw [List.flatMap_cons, List.cons_append, splitFrom_append read, splitFrom_cons, await_comma,
        Option.bind_some, if_pos ⟨rfl, rfl⟩,
        ih afterComma insides.1 insides.2 ((awaitAll_eq_of_ne afterComma [] q).trans insides.1)]
      simp [foldr_consFirst]

/-- What is cut consists of texts that stay inside one piece: the first one is read with the
brackets awaited so far, the others from their comma on. -/
theorem awaitAll_of_splitFrom {s : List Char} :
    ∀ {pending : List Char} {previous : Option Char} {pieces : List (List Char)},
      splitFrom pending previous s = some pieces →
        ∃ first rest, pieces = first :: rest ∧ awaitAll pending previous first = some [] ∧
          ∀ p ∈ rest, IsPiece p := by
  induction s with
  | nil =>
      intro pending previous pieces h
      cases pending with
      | nil =>
          cases h
          exact ⟨[], [], rfl, rfl, by simp⟩
      | cons awaited pending => cases h
  | cons c r ih =>
      intro pending previous pieces h
      rw [splitFrom_cons] at h
      obtain ⟨next, step, h⟩ := Option.bind_eq_some_iff.mp h
      obtain ⟨cut, found, rfl⟩ := Option.map_eq_some_iff.mp h
      obtain ⟨first, rest, rfl, read, insides⟩ := ih found
      -- An outer comma ends the piece that was being read; the next one starts from scratch.
      by_cases outer : c = ',' ∧ pending = []
      · obtain ⟨rfl, rfl⟩ := outer
        rw [await_comma] at step
        cases step
        have inside : IsPiece first :=
          (awaitAll_eq_of_ne (by decide) [] first).symm.trans read
        refine ⟨[], first :: rest, by rw [if_pos ⟨rfl, rfl⟩], rfl, ?_⟩
        rw [List.forall_mem_cons]
        exact ⟨inside, insides⟩
      · refine ⟨c :: first, rest, by rw [if_neg outer, consFirst], ?_, insides⟩
        rw [awaitAll, if_neg outer, step, Option.bind_some, read]

/-- **Every piece of a list that is cut stays inside itself.** -/
theorem isPiece_of_mem {inner : List Char} {pieces : List (List Char)}
    (h : splitArguments inner = some pieces) : ∀ p ∈ pieces, IsPiece p := by
  obtain ⟨first, rest, rfl, read, insides⟩ := awaitAll_of_splitFrom h
  rw [List.forall_mem_cons]
  exact ⟨read, insides⟩

end Narrowing.Reference
