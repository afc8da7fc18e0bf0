import Narrowing.Proofs.Reference.Nesting

/-!
# The decomposition of an argument list

`Proofs.Reference.Nesting` says what the brackets of a list that is cut look like.  This
module says the converse, that a list with nested brackets is cut, and what into: the
pieces are determined by what they are, without a stack and without a scan.

### What a piece is

`Surrounded` says of a place in a text that a pair of brackets goes around it, and
`Undivided` of a text that its brackets are nested and every comma of it is surrounded.
The scan knows neither: it tells an outer comma by the empty stack, that is by the
brackets in front of it being nested.  Inside nested brackets the two come to the same
(`Nested.surrounded_iff`), which is where the pieces that the scan leaves meet the ones
that are meant (`isPiece_iff_undivided`).

### Why the stack never fails nested brackets

`Closes` is the promise that a stack makes about the rest of the text.  A stack holds
closing brackets only, and for such a stack one character keeps the promise *exactly*:
it moves the stack if and only if the promise can be kept
(`closes_delimiters_cons_iff`).  Both directions of cutting follow by induction on the
text.

## Main statements

* `exists_splitFrom_iff` — which lists are cut
* `isPiece_iff_undivided` — which texts stay inside one piece
* `splitArguments_eq_some_iff` — the pieces of a list, exactly
* `splitArguments_decomposes` — cutting finds the one decomposition that there is
-/

namespace Narrowing.Reference

/-! ## Brackets around a place -/

/-- **A pair of brackets goes around a place**: among the brackets before it and those after it are
two that close each other, with nested brackets between them. -/
def Surrounded (before after : List Char) : Prop :=
  ∃ left opener inside inside' closer right,
    before = left ++ opener :: inside ∧ after = inside' ++ closer :: right ∧
      closerOf? opener = some closer ∧ Nested (inside ++ inside')

/-- **A text that is one piece**: its brackets are nested, and a pair of them goes around each of
its commas. -/
structure Undivided (s : List Char) : Prop where
  nested : Nested (delimiters none s)
  surrounded : ∀ before after, s = before ++ ',' :: after →
    Surrounded (delimiters none before) (delimiters none after)

/-- No closing bracket is an opening one. -/
theorem closerOf?_closer {opener closer : Char} (pair : closerOf? opener = some closer) :
    closerOf? closer = none := by
  unfold closerOf? at pair
  split at pair <;> cases pair <;> rfl

/-- The front of brackets that a pair encloses ends before them, inside them or behind them. -/
theorem front_cases {opener closer : Char} {inside after front back : List Char}
    (whole : opener :: (inside ++ closer :: after) = front ++ back) :
    front = [] ∨
      (∃ inner rest, front = opener :: inner ∧ inside = inner ++ rest ∧
        back = rest ++ closer :: after) ∨
      ∃ more, front = opener :: (inside ++ closer :: more) ∧ after = more ++ back := by
  cases front with
  | nil => exact .inl rfl
  | cons c front =>
      obtain ⟨rfl, tails⟩ := List.cons.inj whole
      rcases List.append_eq_append_iff.mp tails with ⟨more, rfl, tail⟩ | ⟨rest, rfl, rfl⟩
      · rcases List.cons_eq_append_iff.mp tail with ⟨rfl, rfl⟩ | ⟨more, rfl, rfl⟩
        · exact .inr (.inl ⟨inside, [], by simp, by simp, rfl⟩)
        · exact .inr (.inr ⟨more, rfl, rfl⟩)
      · exact .inr (.inl ⟨front, rest, rfl, rfl, rfl⟩)

/-- How many of some brackets are opening ones. -/
def countOpen (s : List Char) : Nat := s.countP fun c => (closerOf? c).isSome

/-- How many of some brackets are closing ones. -/
def countClose (s : List Char) : Nat := s.countP fun c => (closerOf? c).isNone

section Count

variable {opener closer : Char} (pair : closerOf? opener = some closer) (inside after : List Char)

include pair

theorem countOpen_cons : countOpen (opener :: after) = countOpen after + 1 :=
  List.countP_cons_of_pos (by simp [pair])

theorem countClose_cons : countClose (opener :: after) = countClose after :=
  List.countP_cons_of_neg (by simp [pair])

theorem countOpen_enclose :
    countOpen (opener :: (inside ++ closer :: after)) = countOpen inside + countOpen after + 1 := by
  have other : countOpen (closer :: after) = countOpen after :=
    List.countP_cons_of_neg (by simp [closerOf?_closer pair])
  rw [countOpen_cons pair, countOpen, List.countP_append, ← countOpen, ← countOpen, other]

theorem countClose_enclose :
    countClose (opener :: (inside ++ closer :: after)) =
      countClose inside + countClose after + 1 := by
  have one : countClose (closer :: after) = countClose after + 1 :=
    List.countP_cons_of_pos (by simp [closerOf?_closer pair])
  rw [countClose_cons pair, countClose, List.countP_append, ← countClose, ← countClose, one,
    Nat.add_assoc]

end Count

/-- No front of nested brackets closes more than it opens. -/
theorem Nested.countClose_le {front back : List Char} (nested : Nested (front ++ back)) :
    countClose front ≤ countOpen front := by
  generalize whole : front ++ back = s at nested
  induction nested generalizing front back with
  | nil =>
      rw [(List.append_eq_nil_iff.mp whole).1]
      exact Nat.le_refl 0
  | @enclose _ _ inside _ pair _ _ ihInside ihAfter =>
      rcases front_cases whole.symm with rfl | ⟨inner, rest, rfl, rfl, -⟩ | ⟨more, rfl, rfl⟩
      · exact Nat.le_refl 0
      · rw [countOpen_cons pair, countClose_cons pair]
        exact Nat.le_succ_of_le (ihInside rfl)
      · rw [countOpen_enclose pair, countClose_enclose pair]
        exact Nat.succ_le_succ (Nat.add_le_add (ihInside (List.append_nil inside)) (ihAfter rfl))

/-- Nested brackets close what they open. -/
theorem Nested.countClose_eq {s : List Char} (nested : Nested s) : countClose s = countOpen s := by
  induction nested with
  | nil => rfl
  | enclose pair _ _ ihInside ihAfter =>
      rw [countOpen_enclose pair, countClose_enclose pair, ihInside, ihAfter]

/-- **Where nested brackets are not nested up to a place, a pair of them goes around it.** -/
theorem Nested.surrounded_of_not {before after : List Char} (nested : Nested (before ++ after))
    (opened : ¬ Nested before) : Surrounded before after := by
  generalize whole : before ++ after = s at nested
  induction nested generalizing before with
  | nil =>
      rw [(List.append_eq_nil_iff.mp whole).1] at opened
      exact absurd .nil opened
  | @enclose opener closer inside behind pair nestedInside _ ihInside ihAfter =>
      rcases front_cases whole.symm with rfl | ⟨inner, rest, rfl, rfl, rfl⟩ | ⟨more, rfl, rfl⟩
      · exact absurd .nil opened
      · exact ⟨[], opener, inner, rest, closer, behind, rfl, rfl, pair, nestedInside⟩
      · have open' : ¬ Nested more := fun closed => opened (.enclose pair nestedInside closed)
        obtain ⟨left, o, i, i', c, right, rfl, rfl, pair', between⟩ := ihAfter open' rfl
        exact ⟨opener :: (inside ++ closer :: left), o, i, i', c, right, by simp, rfl, pair',
          between⟩

/-- **A place in nested brackets is surrounded** exactly when the brackets before it are not nested
by themselves. -/
theorem Nested.surrounded_iff {before after : List Char} (nested : Nested (before ++ after)) :
    Surrounded before after ↔ ¬ Nested before := by
  refine ⟨?_, nested.surrounded_of_not⟩
  -- The opening bracket of a pair around the place is closed by nothing before it.
  rintro ⟨left, opener, inside, inside', closer, right, rfl, -, pair, between⟩ closed
  have total : countClose left + countClose (opener :: inside) =
      countOpen left + countOpen (opener :: inside) := by
    simpa only [countClose, countOpen, List.countP_append] using closed.countClose_eq
  rw [countOpen_cons pair, countClose_cons pair] at total
  have front := closed.countClose_le
  have inner := between.countClose_le
  omega

/-! ## The promise of a stack, exactly -/

/-- A stack of awaited closers. -/
def IsPending (pending : List Char) : Prop := ∀ c ∈ pending, closerOf? c = none

theorem isPending_nil : IsPending [] := by simp [IsPending]

/-- A stack stays one. -/
theorem IsPending.await {pending next : List Char} {previous : Option Char} {c : Char}
    (closers : IsPending pending) (step : await pending previous c = some next) :
    IsPending next := by
  unfold Reference.await at step
  cases pair : closerOf? c with
  | some closer =>
      rw [pair] at step
      cases step
      exact List.forall_mem_cons.mpr ⟨closerOf?_closer pair, closers⟩
  | none =>
      rw [pair] at step
      dsimp only at step
      split at step
      · cases pending with
        | nil => cases step
        | cons awaited pending =>
            dsimp only at step
            split at step
            · cases step
              exact (List.forall_mem_cons.mp closers).2
            · cases step
      · cases step
        exact closers

/-- Nested brackets start with an opening one, whose partner ends what it encloses. -/
theorem Nested.exists_of_cons {c : Char} {rest : List Char} (nested : Nested (c :: rest)) :
    ∃ closer inside after, closerOf? c = some closer ∧ rest = inside ++ closer :: after ∧
      Nested inside ∧ Nested after := by
  cases nested with
  | enclose pair nestedInside nestedAfter => exact ⟨_, _, _, pair, rfl, nestedInside, nestedAfter⟩

/-- Behind an opening bracket its partner is awaited first. -/
theorem Closes.of_opener {pending brackets : List Char} {opener closer : Char}
    (closers : IsPending pending) (pair : closerOf? opener = some closer)
    (closes : Closes pending (opener :: brackets)) : Closes (closer :: pending) brackets := by
  cases pending with
  | nil =>
      obtain ⟨closer', inside, after, pair', rfl, nestedInside, nestedAfter⟩ :=
        Nested.exists_of_cons closes
      obtain rfl : closer = closer' := Option.some.inj (pair.symm.trans pair')
      exact ⟨inside, after, rfl, nestedInside, nestedAfter⟩
  | cons awaited pending =>
      obtain ⟨front, back, whole, nested, closes⟩ := closes
      rcases List.cons_eq_append_iff.mp whole with ⟨-, same⟩ | ⟨front, rfl, rfl⟩
      · -- The bracket at the front is no awaited closer, since it opens.
        obtain ⟨rfl, -⟩ := List.cons.inj same
        have closing := closers awaited List.mem_cons_self
        rw [pair] at closing
        cases closing
      · obtain ⟨closer', inside, after, pair', rfl, nestedInside, nestedAfter⟩ :=
          nested.exists_of_cons
        obtain rfl : closer = closer' := Option.some.inj (pair.symm.trans pair')
        exact ⟨inside, after ++ awaited :: back, by simp, nestedInside, after, back, rfl,
          nestedAfter, closes⟩

/-- A closing bracket at the front is the one awaited first. -/
theorem Closes.of_closer {pending brackets : List Char} {c : Char} (closing : closerOf? c = none)
    (closes : Closes pending (c :: brackets)) :
    ∃ next, pending = c :: next ∧ Closes next brackets := by
  have unopened {rest : List Char} (nested : Nested (c :: rest)) : False := by
    obtain ⟨closer, -, -, pair, -⟩ := nested.exists_of_cons
    rw [closing] at pair
    cases pair
  cases pending with
  | nil => exact (unopened closes).elim
  | cons awaited pending =>
      obtain ⟨front, back, whole, nested, closes⟩ := closes
      rcases List.cons_eq_append_iff.mp whole with ⟨-, same⟩ | ⟨front, rfl, -⟩
      · obtain ⟨rfl, rfl⟩ := List.cons.inj same
        exact ⟨pending, rfl, closes⟩
      · exact (unopened nested).elim

/-- **One character keeps the promise of a stack exactly**: it moves the stack to one that the rest
of the text closes, if the whole text closes the stack, and only then. -/
theorem closes_delimiters_cons_iff {pending : List Char} (closers : IsPending pending)
    (previous : Option Char) (c : Char) (r : List Char) :
    Closes pending (delimiters previous (c :: r)) ↔
      ∃ next, await pending previous c = some next ∧ Closes next (delimiters (some c) r) := by
  refine ⟨fun closes => ?_, fun ⟨next, step, closes⟩ => closes.cons_of_await step⟩
  rw [delimiters] at closes
  unfold await
  cases pair : closerOf? c with
  | some closer =>
      rw [if_pos (.inl (by rw [pair]; rfl))] at closes
      exact ⟨_, rfl, closes.of_opener closers pair⟩
  | none =>
      dsimp only
      by_cases closing : isCloser c ∧ ¬ (c = '>' ∧ previous = some '-')
      · rw [if_pos (.inr closing)] at closes
        obtain ⟨next, rfl, rest⟩ := closes.of_closer pair
        exact ⟨next, by simp [closing], rest⟩
      · rw [if_neg (by simpa [pair] using closing)] at closes
        exact ⟨pending, if_neg closing, closes⟩

/-- Nothing is left to await at the end of a text. -/
theorem closes_nil_iff {pending : List Char} : Closes pending [] ↔ pending = [] := by
  cases pending with
  | nil => exact ⟨fun _ => rfl, fun _ => .nil⟩
  | cons awaited pending =>
      constructor
      · rintro ⟨front, back, whole, -⟩
        simp at whole
      · intro none
        cases none

/-- **A list is cut exactly when its brackets close what is awaited.** -/
theorem exists_splitFrom_iff {pending : List Char} (closers : IsPending pending)
    (previous : Option Char) (s : List Char) :
    (∃ pieces, splitFrom pending previous s = some pieces) ↔
      Closes pending (delimiters previous s) := by
  induction s generalizing pending previous with
  | nil =>
      rw [delimiters, closes_nil_iff, splitFrom]
      cases pending <;> simp
  | cons c r ih =>
      rw [splitFrom_cons, closes_delimiters_cons_iff closers]
      cases step : await pending previous c with
      | none => simp
      | some next =>
          have rest := ih (closers.await step) (some c)
          simp only [Option.bind_some, Option.map_eq_some_iff, Option.some.injEq,
            exists_eq_left', ← rest]
          constructor
          · rintro ⟨_, pieces, found, -⟩
            exact ⟨pieces, found⟩
          · rintro ⟨pieces, found⟩
            exact ⟨_, pieces, found, rfl⟩

/-! ## The pieces -/

/-- A text stays inside one piece when its brackets close what is awaited, but those in front of no
comma of it do. -/
theorem awaitAll_eq_nil_iff {pending : List Char} (closers : IsPending pending)
    (previous : Option Char) (s : List Char) :
    awaitAll pending previous s = some [] ↔
      Closes pending (delimiters previous s) ∧
        ∀ before after, s = before ++ ',' :: after →
          ¬ Closes pending (delimiters previous before) := by
  induction s generalizing pending previous with
  | nil =>
      rw [awaitAll, delimiters, closes_nil_iff, Option.some.injEq]
      simp
  | cons c r ih =>
      rw [awaitAll, closes_delimiters_cons_iff closers]
      by_cases outer : c = ',' ∧ pending = []
      · rw [if_pos outer]
        obtain ⟨rfl, rfl⟩ := outer
        constructor
        · intro none
          cases none
        · rintro ⟨-, inner⟩
          exact absurd .nil (inner [] r rfl)
      · rw [if_neg outer]
        cases step : await pending previous c with
        | none => simp
        | some next =>
            rw [Option.bind_some, ih (closers.await step)]
            simp only [Option.some.injEq, exists_eq_left']
            refine and_congr_right fun _ => ⟨fun inner before after whole => ?_,
              fun inner before after whole => ?_⟩
            · -- A comma of the whole text is the first character or a comma behind it.
              cases before with
              | nil =>
                  obtain ⟨rfl, -⟩ := List.cons.inj whole
                  rw [delimiters, closes_nil_iff]
                  exact fun none => outer ⟨rfl, none⟩
              | cons d before =>
                  obtain ⟨rfl, rest⟩ := List.cons.inj whole
                  rw [closes_delimiters_cons_iff closers, step]
                  rintro ⟨_, ⟨⟩, closes⟩
                  exact inner before after rest closes
            · intro closes
              refine inner (c :: before) after (by rw [whole, List.cons_append]) ?_
              exact closes.cons_of_await step

/-- The brackets on both sides of a comma. -/
theorem delimiters_append_comma (before after : List Char) :
    delimiters none (before ++ ',' :: after) =
      delimiters none before ++ delimiters none after := by
  rw [delimiters_append]
  congr 1
  rw [delimiters, if_neg (by simp [closerOf?, isCloser]), delimiters_eq_of_ne (by decide)]

/-- **A text stays inside one piece exactly when it is undivided.** -/
theorem isPiece_iff_undivided {s : List Char} : IsPiece s ↔ Undivided s := by
  rw [IsPiece, awaitAll_eq_nil_iff isPending_nil]
  -- Whatever the brackets of the whole text are, they are those before a comma and those after it.
  have sides {before after : List Char} (nested : Nested (delimiters none s))
      (whole : s = before ++ ',' :: after) :
      Surrounded (delimiters none before) (delimiters none after) ↔
        ¬ Nested (delimiters none before) := by
    rw [whole, delimiters_append_comma] at nested
    exact nested.surrounded_iff
  constructor
  · rintro ⟨nested, inner⟩
    exact ⟨nested, fun before after whole => (sides nested whole).mpr (inner before after whole)⟩
  · rintro ⟨nested, surrounded⟩
    exact ⟨nested, fun before after whole =>
      (sides nested whole).mp (surrounded before after whole)⟩

/-- A list with commas between its elements. -/
theorem intercalate_comma (first : List Char) (rest : List (List Char)) :
    [','].intercalate (first :: rest) = first ++ rest.flatMap (',' :: ·) := by
  induction rest generalizing first with
  | nil => simp
  | cons second rest ih => rw [List.intercalate_cons_cons, ih]; simp

/-- **Cutting loses nothing**: the pieces with commas between them are the text. -/
theorem intercalate_of_splitFrom {pending : List Char} {previous : Option Char} {s : List Char}
    {pieces : List (List Char)} (h : splitFrom pending previous s = some pieces) :
    pieces ≠ [] ∧ [','].intercalate pieces = s := by
  induction s generalizing pending previous pieces with
  | nil =>
      cases pending with
      | nil =>
          cases h
          exact ⟨List.cons_ne_nil _ _, rfl⟩
      | cons awaited pending => cases h
  | cons c r ih =>
      rw [splitFrom_cons] at h
      obtain ⟨next, -, h⟩ := Option.bind_eq_some_iff.mp h
      obtain ⟨cut, found, rfl⟩ := Option.map_eq_some_iff.mp h
      obtain ⟨nonempty, joined⟩ := ih found
      obtain ⟨first, rest, rfl⟩ := List.exists_cons_of_ne_nil nonempty
      split
      · next outer =>
          refine ⟨List.cons_ne_nil _ _, ?_⟩
          rw [List.intercalate_cons_cons, joined, outer.1]
          rfl
      · -- The character joins the first piece, so no comma is put in front of it.
        rw [consFirst]
        refine ⟨List.cons_ne_nil _ _, ?_⟩
        rw [intercalate_comma, List.cons_append, ← intercalate_comma, joined]

/-- **The pieces of a list, exactly**: texts that are one piece each and that are the list when
commas are put between them. -/
theorem splitArguments_eq_some_iff {s : List Char} {pieces : List (List Char)} :
    splitArguments s = some pieces ↔
      pieces ≠ [] ∧ [','].intercalate pieces = s ∧ ∀ p ∈ pieces, Undivided p := by
  constructor
  · intro cut
    obtain ⟨nonempty, joined⟩ := intercalate_of_splitFrom cut
    exact ⟨nonempty, joined, fun p member => isPiece_iff_undivided.mp (isPiece_of_mem cut p member)⟩
  · rintro ⟨nonempty, rfl, undivided⟩
    obtain ⟨first, rest, rfl⟩ := List.exists_cons_of_ne_nil nonempty
    rw [List.forall_mem_cons] at undivided
    rw [intercalate_comma]
    have atStart : (none : Option Char) ≠ some '-' := by decide
    exact splitFrom_join atStart (isPiece_iff_undivided.mpr undivided.1) fun p member =>
      isPiece_iff_undivided.mpr (undivided.2 p member)

/-- **Cutting an argument list finds the one decomposition that there is.**  There is none exactly
when the brackets of the list are not nested.  What is found are pieces that give the list back
when they are joined with commas, each of them with nested brackets and without a comma outside
all of its brackets; and any such pieces are found again in the list that joins them. -/
theorem splitArguments_decomposes (s : List Char) :
    (splitArguments s = none ↔ ¬ Nested (delimiters none s)) ∧
    (∀ pieces, splitArguments s = some pieces →
      pieces ≠ [] ∧ [','].intercalate pieces = s ∧ ∀ p ∈ pieces, Undivided p) ∧
    (∀ pieces, pieces ≠ [] → (∀ p ∈ pieces, Undivided p) →
      splitArguments ([','].intercalate pieces) = some pieces) := by
  refine ⟨?_, fun pieces => splitArguments_eq_some_iff.mp, fun pieces nonempty undivided =>
    splitArguments_eq_some_iff.mpr ⟨nonempty, rfl, undivided⟩⟩
  have cut := exists_splitFrom_iff isPending_nil none s
  rw [← splitArguments] at cut
  rw [← Option.not_isSome_iff_eq_none, Option.isSome_iff_exists]
  exact not_congr cut

/-- Pieces with commas in brackets of all three kinds, with an arrow beside brackets and with one
at the end. -/
def nestedPieces : List (List Char) :=
  ["#T".toList, " fn(u8, [T; 2]) -> Vec<(A, B)>".toList, "Fn() ->".toList]

theorem splitArguments_nestedPieces :
    splitArguments "#T, fn(u8, [T; 2]) -> Vec<(A, B)>,Fn() ->".toList = some nestedPieces ∧
      nestedPieces ≠ [] ∧ (∀ p ∈ nestedPieces, Undivided p) ∧
      splitArguments ([','].intercalate nestedPieces) = some nestedPieces ∧
      ¬ Nested (delimiters none "Vec<(u8>)".toList) := by
  have cut : splitArguments "#T, fn(u8, [T; 2]) -> Vec<(A, B)>,Fn() ->".toList =
      some nestedPieces := by decide
  obtain ⟨-, found, again⟩ :=
    splitArguments_decomposes "#T, fn(u8, [T; 2]) -> Vec<(A, B)>,Fn() ->".toList
  obtain ⟨nonempty, -, undivided⟩ := found _ cut
  exact ⟨cut, nonempty, undivided, again _ nonempty undivided,
    (splitArguments_decomposes _).1.mp (by decide)⟩

end Narrowing.Reference
