import Mathlib.Data.List.Induction
import Mathlib.Data.List.Infix
import Narrowing.Proofs.ClassSource.StringValue

/-!
# Texts between triple quotes

A text that is copied between triple quotes as it is may be changed by what it holds: `Alters` lists
the four kinds of parts that do so, and a text without them is `Faithful`.  A backslash in front of
any other character stands for itself, so a faithful text may have backslashes in it, but not at its
end, where one would take a closing quote along.

A faithful text stands for itself and ends at the quotes behind it.  For the other direction the
value is compared with the text: what is read unchanged has no escape in it (`verbatim_of_read`),
and then only the text's own quotes could have ended it.

## Main statements

* `faithful_append_cons_iff` — a text is faithful part by part
* `readString_tripled_iff` — the texts that triple quotes return unchanged
-/

namespace Narrowing.ClassSource

open Literal Text

variable {named : List Char → Option Nat}

/-! ## Faithful texts -/

/-- **A part of a text that triple quotes do not return as it is**: a carriage return, which is read
as a line feed, a null character, three quotes, or a backslash with which an escape begins. -/
inductive Alters : List Char → Prop
  | carriageReturn : Alters ['\r']
  | null : Alters ['\x00']
  | quotes : Alters ['"', '"', '"']
  | escape {c : Char} (letter : isEscapeLetter c = true) : Alters ['\\', c]

/-- The text has no part that triple quotes would alter. -/
def Faithful (s : List Char) : Prop := ∀ x, Alters x → ¬ x <:+: s

/-- A character that is in no such part keeps the parts on its two sides from each other. -/
def Separates (c : Char) : Prop := ∀ x, Alters x → c ∉ x

theorem separates_of {c : Char} (plain : c ∉ ['\r', '\x00', '"', '\\'])
    (other : isEscapeLetter c = false) : Separates c := by
  simp only [List.mem_cons, List.not_mem_nil, or_false, not_or] at plain
  intro x alters
  cases alters with
  | carriageReturn => simp [plain]
  | null => simp [plain]
  | quotes => simp [plain]
  | @escape d letter =>
      rw [List.mem_cons, List.mem_singleton]
      rintro (rfl | rfl)
      · exact plain.2.2.2 rfl
      · rw [letter] at other
        cases other

theorem infix_append_cons_iff {α : Type} {x s t : List α} {c : α} (apart : c ∉ x) :
    x <:+: s ++ c :: t ↔ x <:+: s ∨ x <:+: t := by
  have eq_nil_of_front {y : List α} (free : c ∉ y) (h : y <+: c :: t) : y = [] := by
    rcases List.prefix_cons_iff.mp h with rfl | ⟨others, rfl, -⟩
    · rfl
    · exact absurd List.mem_cons_self free
  constructor
  · intro h
    rcases List.infix_append_iff.mp h with left | right | ⟨l, r, rfl, suffix, pre⟩
    · exact .inl left
    · rcases List.infix_cons_iff.mp right with pre | inside
      · rw [eq_nil_of_front apart pre]
        exact .inl List.nil_infix
      · exact .inr inside
    · rw [List.mem_append, not_or] at apart
      rw [eq_nil_of_front apart.2 pre, List.append_nil]
      exact .inl suffix.isInfix
  · rintro (left | right)
    · exact List.infix_append_of_infix_left left
    · exact List.infix_append_of_infix_right (List.infix_cons right)

theorem faithful_append_cons_iff {s t : List Char} {c : Char} (separates : Separates c) :
    Faithful (s ++ c :: t) ↔ Faithful s ∧ Faithful t := by
  have split : Faithful (s ++ c :: t) ↔ ∀ x, Alters x → ¬ x <:+: s ∧ ¬ x <:+: t :=
    forall₂_congr fun x alters => by rw [infix_append_cons_iff (separates x alters), not_or]
  rw [split]
  exact ⟨fun h => ⟨fun x alters => (h x alters).1, fun x alters => (h x alters).2⟩,
    fun h x alters => ⟨h.1 x alters, h.2 x alters⟩⟩

theorem Faithful.tail {c : Char} {s : List Char} (faithful : Faithful (c :: s)) : Faithful s :=
  fun x alters inside => faithful x alters (List.infix_cons inside)

theorem Faithful.notMem {s : List Char} {c : Char} (faithful : Faithful s) (alters : Alters [c]) :
    c ∉ s :=
  mt (List.singleton_infix_iff c s).mpr (faithful [c] alters)

/-- A text without backslashes, carriage returns, null characters and triple quotes is faithful. -/
theorem faithful_of_any {s : List Char}
    (plain : s.any (fun c => c == '\r' || c == '\x00' || c == '\\') = false)
    (apart : ¬ ['"', '"', '"'] <:+: s) : Faithful s := by
  rw [List.any_eq_false] at plain
  intro x alters inside
  cases alters with
  | carriageReturn => exact plain _ (inside.subset List.mem_cons_self) rfl
  | null => exact plain _ (inside.subset List.mem_cons_self) rfl
  | quotes => exact apart inside
  | escape => exact plain _ (inside.subset List.mem_cons_self) rfl

/-- **A faithful text stands for itself**, unless it ends in a backslash. -/
theorem Faithful.verbatim {s : List Char} (faithful : Faithful s) (ends : s.getLast? ≠ some '\\') :
    Verbatim Char.toNat (escapes named) plainCode s := by
  induction s using List.twoStepInduction with
  | nil => exact .nil
  | singleton c =>
      have other : c ≠ '\\' := by
        rintro rfl
        exact ends rfl
      exact .plain other rfl .nil
  | cons_cons c d s ih ihTail =>
      rw [List.getLast?_cons_cons] at ends
      by_cases other : c = '\\'
      · subst other
        have letter : isEscapeLetter d = false := by
          rw [← Bool.not_eq_true]
          intro letter
          exact faithful _ (.escape letter) ⟨[], s, rfl⟩
        refine .kept (kept_iff.mpr letter) (ih faithful.tail.tail fun last => ends ?_)
        rw [List.getLast?_cons, last]
        rfl
      · exact .plain other rfl (ihTail d faithful.tail ends)

/-- A text that stands for itself has no escape in it. -/
theorem not_infix_of_verbatim {s : List Char} {c : Char} (letter : isEscapeLetter c = true)
    (verbatim : Verbatim Char.toNat (escapes named) plainCode s) : ¬ ['\\', c] <:+: s := by
  induction verbatim with
  | nil => simp
  | @plain d s other stands rest ih =>
      rw [List.infix_cons_iff, List.cons_prefix_cons]
      rintro (⟨same, -⟩ | inside)
      · exact other same.symm
      · exact ih inside
  | @kept d s keeps rest ih =>
      have kept := kept_iff.mp keeps
      rw [List.infix_cons_iff, List.infix_cons_iff, List.cons_prefix_cons, List.cons_prefix_cons,
        List.cons_prefix_cons]
      rintro (⟨-, rfl, -⟩ | ⟨rfl, -⟩ | inside)
      · rw [letter] at kept
        cases kept
      · cases kept
      · exact ih inside

/-- A text that stands for itself ends at the quotes behind it exactly when these are the first
three. -/
theorem scanString_tripled_iff {s : List Char}
    (verbatim : Verbatim Char.toNat (escapes named) plainCode s) (noReturn : '\r' ∉ s)
    (rest : List Char) :
    scanString '"' true (s ++ '"' :: '"' :: '"' :: rest) = some rest ↔
      ¬ ['"', '"', '"'] <:+: s ++ ['"', '"'] := by
  induction verbatim with
  | nil =>
      refine iff_of_true rfl fun inside => ?_
      exact absurd inside.length_le (by decide)
  | @plain c s other stands verbatim ih =>
      rw [List.mem_cons, not_or] at noReturn
      have step : scanString '"' true (c :: (s ++ '"' :: '"' :: '"' :: rest)) =
          if c = '"' ∧ (s ++ '"' :: '"' :: '"' :: rest).take 2 = ['"', '"'] then
            some ((s ++ '"' :: '"' :: '"' :: rest).drop 2)
          else scanString '"' true (s ++ '"' :: '"' :: '"' :: rest) := by
        rw [scanString, if_pos rfl]
        · exact fun _ backslash => absurd backslash other
        · exact fun _ _ backslash => absurd backslash other
      have front : (s ++ '"' :: '"' :: '"' :: rest).take 2 = (s ++ ['"', '"']).take 2 := by
        have parts : s ++ '"' :: '"' :: '"' :: rest = s ++ ['"', '"'] ++ '"' :: rest := by simp
        rw [parts, List.take_append_of_le_length]
        simp
      rw [List.cons_append, List.cons_append, step, front, List.infix_cons_iff,
        List.cons_prefix_cons, List.prefix_iff_eq_take]
      by_cases quotes : c = '"' ∧ (s ++ ['"', '"']).take 2 = ['"', '"']
      · -- it ends here, and more than the rest is left
        rw [if_pos quotes]
        refine iff_of_false (fun same => ?_) (not_not_intro (.inl ⟨quotes.1.symm, quotes.2.symm⟩))
        have lengths := congrArg List.length (Option.some.inj same)
        simp only [List.length_drop, List.length_append, List.length_cons] at lengths
        omega
      · rw [if_neg quotes, ih noReturn.2, not_or]
        refine ⟨fun free => ⟨fun start => quotes ⟨start.1.symm, start.2.symm⟩, free⟩, And.right⟩
  | @kept c s keeps verbatim ih =>
      rw [List.mem_cons, List.mem_cons, not_or, not_or] at noReturn
      have unquoted : '"' ≠ c := by
        rintro rfl
        exact absurd (kept_iff.mp keeps) (by decide)
      rw [List.cons_append, List.cons_append, scanString_escape (Ne.symm noReturn.2.1),
        ih noReturn.2.2, List.cons_append, List.cons_append, List.infix_cons_iff,
        List.infix_cons_iff, List.cons_prefix_cons, List.cons_prefix_cons]
      simp [unquoted]

/-! ## Reading between triple quotes -/

/-- Quotes behind a text that ends in none are not taken for its own. -/
theorem quotes_infix_append_iff {s : List Char} (separates : ∀ c ∈ s.getLast?, Separates c) :
    ['"', '"', '"'] <:+: s ++ ['"', '"'] ↔ ['"', '"', '"'] <:+: s := by
  refine ⟨fun inside => ?_, List.infix_append_of_infix_left⟩
  have short : ¬ ['"', '"', '"'] <:+: ['"', '"'] := fun inside =>
    absurd inside.length_le (by decide)
  rcases List.eq_nil_or_concat' s with rfl | ⟨front, last, rfl⟩
  · exact absurd inside short
  · have apart := separates last List.getLast?_concat
    rw [List.append_assoc, List.singleton_append, infix_append_cons_iff (apart _ .quotes)] at inside
    exact List.infix_append_of_infix_left (inside.resolve_right short)

theorem scanQuoted_tripled (s rest : List Char) :
    scanQuoted ('"' :: '"' :: '"' :: (s ++ '"' :: '"' :: '"' :: rest)) =
      scanString '"' true (s ++ '"' :: '"' :: '"' :: rest) := by
  rw [scanQuoted, if_pos ⟨rfl, rfl⟩]

/-- What stands between triple quotes that are the ones that end the literal. -/
theorem readString_tripled {s rest : List Char}
    (scanned : scanString '"' true (s ++ '"' :: '"' :: '"' :: rest) = some rest) :
    readString named ('"' :: '"' :: '"' :: (s ++ '"' :: '"' :: '"' :: rest)) =
      if '\x00' ∈ s then none
      else (read (escapes named) plainCode (unifyLines s)).map (·, rest) := by
  have shape : '"' :: '"' :: '"' :: (s ++ '"' :: '"' :: '"' :: rest) =
      ('"' :: '"' :: '"' :: (s ++ ['"', '"', '"'])) ++ rest := by simp
  have member : '\x00' ∈ '"' :: '"' :: '"' :: (s ++ ['"', '"', '"']) ↔ '\x00' ∈ s := by simp
  rw [← scanQuoted_tripled, shape] at scanned
  rw [shape, readString_append scanned, body_triple]
  exact if_congr member rfl rfl

/-- **A text between triple quotes comes back unchanged**, with the literal ending at the quotes
behind it, exactly when it is faithful.  Its last character has to be apart from the quotes. -/
theorem readString_tripled_iff {s : List Char} (separates : ∀ c ∈ s.getLast?, Separates c)
    (rest : List Char) :
    readString named ('"' :: '"' :: '"' :: (s ++ '"' :: '"' :: '"' :: rest)) =
      some (s.map Char.toNat, rest) ↔ Faithful s := by
  constructor
  · intro h
    have scanned := scanQuoted_of_readString h
    rw [scanQuoted_tripled] at scanned
    rw [readString_tripled scanned] at h
    split at h
    · cases h
    next noNull =>
    obtain ⟨value, found, equal⟩ := Option.map_eq_some_iff.mp h
    cases equal
    -- line breaks and escapes only shorten, and the value is as long as the text
    obtain ⟨lines, verbatim⟩ := verbatim_of_read shortening (fun _ _ => Char.toNat_inj.mp) found
      (length_unifyLines_le s)
    have noReturn := unifyLines_eq_self_iff.mp lines
    rw [scanString_tripled_iff verbatim noReturn, quotes_infix_append_iff separates] at scanned
    intro x alters
    cases alters with
    | carriageReturn => exact mt (List.singleton_infix_iff _ _).mp noReturn
    | null => exact mt (List.singleton_infix_iff _ _).mp noNull
    | quotes => exact scanned
    | escape letter => exact not_infix_of_verbatim letter verbatim
  · intro faithful
    have noReturn := faithful.notMem .carriageReturn
    have verbatim : Verbatim Char.toNat (escapes named) plainCode s := by
      refine faithful.verbatim fun last => ?_
      exact separates _ last _ (.escape (c := 'n') rfl) List.mem_cons_self
    have scanned : scanString '"' true (s ++ '"' :: '"' :: '"' :: rest) = some rest := by
      rw [scanString_tripled_iff verbatim noReturn, quotes_infix_append_iff separates]
      exact faithful _ .quotes
    rw [readString_tripled scanned, if_neg (faithful.notMem .null),
      unifyLines_eq_self_iff.mpr noReturn, read_of_verbatim verbatim]
    rfl

end Narrowing.ClassSource
