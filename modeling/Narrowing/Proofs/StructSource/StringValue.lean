import Narrowing.Proofs.Literal
import Narrowing.StructSource.Token

/-!
# What a Rust string literal stands for

A string literal runs to the first quote that no backslash takes along.  Between the quotes a pair
of a carriage return and a line feed is one line feed, a carriage return on its own is an error,
and a backslash begins an escape.  Cutting a file into tokens asks only where a literal ends, and
asks less of its escapes; here they have the values that the language gives them.

Rust has no backslash that stands for itself.  So a text may be put between quotes as it is exactly
when it is `Bare` (`readString_append_iff`): without a quote, a backslash and a carriage return.

## Main statements

* `length_of_escapes` — an escape stands for one character at most
* `readString_append_iff` — the texts that a literal returns unchanged
-/

namespace Narrowing.StructSource

open Literal

/-! ## Where a literal ends -/

/-- The body of a string literal and the text behind it, given the text behind its opening
quote. -/
def closeString : List Char → Option (List Char × List Char)
  | [] => none
  | '"' :: r => some ([], r)
  | '\\' :: c :: r => (closeString r).map fun p => ('\\' :: c :: p.1, p.2)
  | c :: r => (closeString r).map fun p => (c :: p.1, p.2)

/-- The body of a literal and its closing quote are the text in front of the rest.  Only a backslash
takes a quote into the body. -/
theorem eq_append_of_closeString {s body rest : List Char}
    (closed : closeString s = some (body, rest)) :
    s = body ++ '"' :: rest ∧ ('\\' ∉ body → '"' ∉ body) := by
  fun_induction closeString s generalizing body with
  | case1 => cases closed
  | case2 r =>
      cases closed
      exact ⟨rfl, fun _ => List.not_mem_nil⟩
  | case3 c r ih =>
      obtain ⟨⟨inner, after⟩, found, equal⟩ := Option.map_eq_some_iff.mp closed
      cases equal
      obtain ⟨rfl, -⟩ := ih found
      exact ⟨rfl, fun free => absurd List.mem_cons_self free⟩
  | case4 c r noQuote noPair ih =>
      obtain ⟨⟨inner, after⟩, found, equal⟩ := Option.map_eq_some_iff.mp closed
      cases equal
      obtain ⟨rfl, quoteFree⟩ := ih found
      refine ⟨rfl, fun free => ?_⟩
      rw [List.mem_cons, not_or] at free ⊢
      exact ⟨fun quote => noQuote quote.symm, quoteFree free.2⟩

/-- A body without quotes and backslashes ends at the first quote. -/
theorem closeString_append {body : List Char} (quoteFree : '"' ∉ body) (free : '\\' ∉ body)
    (rest : List Char) : closeString (body ++ '"' :: rest) = some (body, rest) := by
  induction body with
  | nil => rfl
  | cons c r ih =>
      rw [List.mem_cons, not_or] at quoteFree free
      rw [List.cons_append, closeString, ih quoteFree.2 free.2]
      · rfl
      · exact fun quote => quoteFree.1 quote.symm
      · exact fun _ _ backslash => absurd backslash.symm free.1

/-! ## Line breaks -/

/-- A text with every pair of a carriage return and a line feed written as a line feed. -/
def joinReturns : List Char → List Char
  | [] => []
  | '\r' :: '\n' :: r => '\n' :: joinReturns r
  | c :: r => c :: joinReturns r

theorem length_joinReturns_le (s : List Char) : (joinReturns s).length ≤ s.length := by
  fun_induction joinReturns s with
  | case1 => exact le_rfl
  | case2 r ih => exact Nat.le_succ_of_le (Nat.succ_le_succ ih)
  | case3 c r noPair ih => exact Nat.succ_le_succ ih

theorem joinReturns_of_notMem {s : List Char} (free : '\r' ∉ s) : joinReturns s = s := by
  induction s with
  | nil => rfl
  | cons c r ih =>
      rw [List.mem_cons, not_or] at free
      rw [joinReturns, ih free.2]
      exact fun _ pair => absurd pair.symm free.1

/-! ## Escapes -/

/-- The characters that letters behind a backslash stand for. -/
def letterValue? : Char → Option Char
  | 'n' => some '\n'
  | 'r' => some '\r'
  | 't' => some '\t'
  | '\\' => some '\\'
  | '0' => some '\x00'
  | '\'' => some '\''
  | '"' => some '"'
  | _ => none

/-- A character that a line break behind a backslash takes along. -/
def isJoinedBlank (c : Char) : Bool := c == ' ' || c == '\t' || c == '\n' || c == '\r'

/-- The escapes of a string literal: joined lines, a character by two digits that make no more than
127, a character by up to six digits in braces, and letters. -/
def escapes : Escapes Char
  | '\n' :: r => some ([], 1 + (r.takeWhile isJoinedBlank).length)
  | 'x' :: a :: b :: _ =>
    if '0' ≤ a ∧ a ≤ '7' ∧ isHex b then some ([Char.ofNat (readHex [a, b])], 3) else none
  | 'u' :: '\x7b' :: r =>
    let inside := r.takeWhile (· != '\x7d')
    let digits := inside.filter (· != '_')
    if inside.length < r.length ∧ inside.head?.any isHex ∧ digits.length ≤ 6 ∧ digits.all isHex
        ∧ (readHex digits).isValidChar then
      some ([Char.ofNat (readHex digits)], inside.length + 3)
    else none
  | c :: _ => (letterValue? c).map fun value => ([value], 1)
  | [] => none

/-- What stands for itself outside escapes: every character but the carriage return. -/
def plainChar (c : Char) : Option Char := if c = '\r' then none else some c

/-- **An escape stands for one character at most**, and takes a character that is there. -/
theorem length_of_escapes {r out : List Char} {taken : Nat} (h : escapes r = some (out, taken)) :
    out.length ≤ 1 ∧ 1 ≤ taken ∧ taken ≤ r.length := by
  unfold escapes at h
  split at h
  case h_1 r =>
    cases h
    have bound := (List.takeWhile_prefix isJoinedBlank (l := r)).length_le
    rw [List.length_cons]
    exact ⟨Nat.zero_le 1, by omega, by omega⟩
  case h_2 =>
    split at h
    · cases h
      exact ⟨le_rfl, by decide, by simp only [List.length_cons]; omega⟩
    · cases h
  case h_3 r =>
    dsimp only at h
    split at h
    case isTrue inside =>
      cases h
      have bound := inside.1
      simp only [List.length_cons] at bound ⊢
      exact ⟨le_rfl, by omega, by omega⟩
    case isFalse => cases h
  case h_4 =>
    obtain ⟨value, -, equal⟩ := Option.map_eq_some_iff.mp h
    cases equal
    exact ⟨le_rfl, le_rfl, by rw [List.length_cons]; omega⟩
  case h_5 => cases h

theorem shortening : Shortening id escapes plainChar where
  plain {c a} stands := by
    rw [plainChar] at stands
    split at stands
    · cases stands
    · exact (Option.some.inj stands).symm
  escape h := by
    obtain ⟨short, positive, inside⟩ := length_of_escapes h
    exact .inl ⟨inside, short.trans positive⟩

/-! ## Reading a literal -/

/-- The value of a string literal and the text behind it, given the text behind its opening
quote. -/
def readString (s : List Char) : Option (List Char × List Char) :=
  (closeString s).bind fun p => (read escapes plainChar (joinReturns p.1)).map (·, p.2)

/-- The text has no character that means something between quotes. -/
def Bare (s : List Char) : Prop := ∀ c ∈ s, c ≠ '"' ∧ c ≠ '\\' ∧ c ≠ '\r'

instance (s : List Char) : Decidable (Bare s) :=
  decidable_of_iff (s.all (fun c => c != '"' && c != '\\' && c != '\r') = true) <| by
    simp only [Bare, List.all_eq_true, Bool.and_eq_true, bne_iff_ne, and_assoc]

theorem Bare.notMem {s : List Char} (bare : Bare s) : '"' ∉ s ∧ '\\' ∉ s ∧ '\r' ∉ s :=
  ⟨fun member => (bare _ member).1 rfl, fun member => (bare _ member).2.1 rfl,
    fun member => (bare _ member).2.2 rfl⟩

theorem Bare.verbatim {s : List Char} (bare : Bare s) : Verbatim id escapes plainChar s := by
  induction s with
  | nil => exact .nil
  | cons c r ih =>
      obtain ⟨first, others⟩ := List.forall_mem_cons.mp bare
      exact .plain first.2.1 (if_neg first.2.2) (ih others)

/-- No backslash stands for itself, so a text that does has none. -/
theorem notMem_of_verbatim {s : List Char} (verbatim : Verbatim id escapes plainChar s) :
    '\\' ∉ s ∧ '\r' ∉ s := by
  induction verbatim with
  | nil => exact ⟨List.not_mem_nil, List.not_mem_nil⟩
  | @plain c s other stands _ ih =>
      have noReturn : c ≠ '\r' := by
        rintro rfl
        cases stands
      simp only [List.mem_cons, not_or]
      exact ⟨⟨other.symm, ih.1⟩, noReturn.symm, ih.2⟩
  | @kept c s keeps =>
      -- the two characters are more than an escape gives
      have short : 2 ≤ 1 := (length_of_escapes (keeps [])).1
      exact absurd short (by decide)

/-- **A text between quotes comes back unchanged**, with the literal ending at the quote behind it,
exactly when it has no quote, no backslash and no carriage return. -/
theorem readString_append_iff {s rest : List Char} :
    readString (s ++ '"' :: rest) = some (s, rest) ↔ Bare s := by
  constructor
  · intro h
    obtain ⟨⟨body, after⟩, closed, value⟩ := Option.bind_eq_some_iff.mp h
    obtain ⟨value, found, equal⟩ := Option.map_eq_some_iff.mp value
    cases equal
    obtain ⟨whole, quoteFree⟩ := eq_append_of_closeString closed
    obtain rfl := List.append_cancel_right whole
    have returned : read escapes plainChar (joinReturns s) = some (s.map id) := by
      rw [found, List.map_id]
    obtain ⟨-, verbatim⟩ := verbatim_of_read shortening Function.injective_id returned
      (length_joinReturns_le s)
    obtain ⟨free, noReturn⟩ := notMem_of_verbatim verbatim
    intro c member
    exact ⟨fun quote => quoteFree free (quote ▸ member), fun backslash => free (backslash ▸ member),
      fun cr => noReturn (cr ▸ member)⟩
  · intro bare
    obtain ⟨quoteFree, free, noReturn⟩ := bare.notMem
    rw [readString, closeString_append quoteFree free, Option.bind_some,
      joinReturns_of_notMem noReturn, read_of_verbatim bare.verbatim, List.map_id]
    rfl

example : readString "\\x41\\u\x7b42\x7d\\\n  \\tC\" rest".toList =
    some ("AB\tC".toList, " rest".toList) := by decide

end Narrowing.StructSource
