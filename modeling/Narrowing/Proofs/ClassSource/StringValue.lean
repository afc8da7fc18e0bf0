import Narrowing.ClassSource.Literal
import Narrowing.Proofs.Directive.Token
import Narrowing.Proofs.Literal
import Narrowing.Proofs.Text

/-!
# What a Python string literal stands for

A plain string literal is cut out of a module first (`scanQuoted`).  Then its line breaks are line
feeds, whatever they were, and the escapes of its body are read.  Its value is a list of code
points and not of characters, since an escape may give half of a surrogate pair; what `\N` escapes
stand for is a table, which is a parameter here.

### Shown texts

A text that is shown between quotes (`Text.quotedChars`) is read back, whatever it holds, unless the
quote that closes it stands behind it once more.  All of it follows from what one character is shown
as, which `Shown` says once: by a letter or a number behind a backslash, or as itself.

## Main statements

* `length_of_escapes`, `kept_iff` — what an escape stands for, and which backslashes are none
* `shown_escapeChar` — what a character is shown as
* `readString_quotedChars` — shown texts are read back
-/

namespace Narrowing.ClassSource

open Literal Text

/-! ## Escapes -/

/-- The code points that letters behind a backslash stand for. -/
def letterValue? : Char → Option Nat
  | '\\' => some 0x5C
  | '\'' => some 0x27
  | '"' => some 0x22
  | 'a' => some 0x07
  | 'b' => some 0x08
  | 'f' => some 0x0C
  | 'n' => some 0x0A
  | 'r' => some 0x0D
  | 't' => some 0x09
  | 'v' => some 0x0B
  | _ => none

/-- A digit of an octal number. -/
def isOctalDigit (c : Char) : Bool := '0' ≤ c && c ≤ '7'

/-- The number that octal digits write. -/
def readOctal (digits : List Char) : Nat := digits.foldl (fun n c => 8 * n + (c.toNat - 48)) 0

/-- An escape of so many hexadecimal digits, given the text behind its letter. -/
def hexEscape (width : Nat) (r : List Char) : Option (List Nat × Nat) :=
  if startsWithHex width r then some ([readHex (r.take width)], width + 1) else none

/-- An escape by the name of a character, given the text behind its letter. -/
def nameEscape (named : List Char → Option Nat) (r : List Char) : Option (List Nat × Nat) :=
  let name := (r.drop 1).takeWhile (· != '\x7d')
  if startsWithCharacterName r then (named name).map fun n => ([n], name.length + 3) else none

/-- An escape of up to three octal digits. -/
def octalEscape (c : Char) (r : List Char) : List Nat × Nat :=
  let others := (r.take 2).takeWhile isOctalDigit
  ([readOctal (c :: others)], others.length + 1)

/-- The escapes of a plain string literal: a joined line, a character by its hexadecimal digits or
its name, a letter, and octal digits.  A backslash in front of anything else stands for itself. -/
def escapes (named : List Char → Option Nat) : Escapes Nat
  | [] => none
  | '\n' :: _ => some ([], 1)
  | 'x' :: r => hexEscape 2 r
  | 'u' :: r => hexEscape 4 r
  | 'U' :: r => hexEscape 8 r
  | 'N' :: r => nameEscape named r
  | c :: r =>
    match letterValue? c with
    | some n => some ([n], 1)
    | none => some (if isOctalDigit c then octalEscape c r else (['\\'.toNat, c.toNat], 1))

/-- What stands for itself outside escapes: every character. -/
def plainCode (c : Char) : Option Nat := some c.toNat

/-- The value of a string literal and the text behind it, given the text from its opening quote
on.  A module may not hold null characters. -/
def readString (named : List Char → Option Nat) (s : List Char) :
    Option (List Nat × List Char) :=
  (scanQuoted s).bind fun rest =>
    let text := s.take (s.length - rest.length)
    if '\x00' ∈ text then none
    else
      (read (escapes named) plainCode (unifyLines (StringLiteral.ofText text).body)).map (·, rest)

/-- A character behind a backslash with which an escape begins. -/
def isEscapeLetter (c : Char) : Bool :=
  c ∈ ['\n', 'x', 'u', 'U', 'N'] || (letterValue? c).isSome || isOctalDigit c

variable {named : List Char → Option Nat}

theorem length_of_hexEscape {width : Nat} {r : List Char} {out : List Nat} {taken : Nat}
    (h : hexEscape width r = some (out, taken)) :
    out.length ≤ 1 ∧ 1 ≤ taken ∧ taken ≤ r.length + 1 := by
  rw [hexEscape] at h
  split at h
  · next digits =>
      cases h
      rw [startsWithHex, Bool.and_eq_true, Bool.and_eq_true, beq_iff_eq, List.length_take] at digits
      have equal := digits.1.1
      exact ⟨le_rfl, by omega, by omega⟩
  · cases h

theorem length_of_nameEscape {r : List Char} {out : List Nat} {taken : Nat}
    (h : nameEscape named r = some (out, taken)) :
    out.length ≤ 1 ∧ 1 ≤ taken ∧ taken ≤ r.length + 1 := by
  rw [nameEscape] at h
  split at h
  · next name =>
      obtain ⟨n, -, equal⟩ := Option.map_eq_some_iff.mp h
      cases equal
      unfold startsWithCharacterName at name
      split at name
      · next r =>
          -- the brace behind the name is still there
          have whole := congrArg List.length
            (List.takeWhile_append_dropWhile (p := (· != '\x7d')) (l := r))
          rw [List.length_append] at whole
          split at name
          · cases name
          · next others =>
              have rest := List.length_pos_iff.mpr others
              simp only [List.drop_one, List.tail_cons, List.length_cons]
              exact ⟨le_rfl, by omega, by omega⟩
      · cases name
  · cases h

theorem length_octalEscape (c : Char) (r : List Char) :
    (octalEscape c r).1.length ≤ 1 ∧ 1 ≤ (octalEscape c r).2 ∧
      (octalEscape c r).2 ≤ r.length + 1 := by
  have digits := ((List.takeWhile_prefix isOctalDigit).trans (List.take_prefix 2 r)).length_le
  exact ⟨le_rfl, Nat.le_add_left _ _, Nat.succ_le_succ digits⟩

/-- **An escape stands for one code point at most**, and takes a character that is there. -/
theorem length_of_escapes {c : Char} {r : List Char} {out : List Nat} {taken : Nat}
    (letter : isEscapeLetter c = true) (h : escapes named (c :: r) = some (out, taken)) :
    out.length ≤ 1 ∧ 1 ≤ taken ∧ taken ≤ r.length + 1 := by
  unfold escapes at h
  split at h
  case h_1 equal => cases equal
  case h_2 => cases h; exact ⟨Nat.zero_le 1, le_rfl, Nat.le_add_left _ _⟩
  case h_3 equal | h_4 equal | h_5 equal => cases equal; exact length_of_hexEscape h
  case h_6 equal => cases equal; exact length_of_nameEscape h
  case h_7 equal =>
    cases equal
    split at h
    case h_1 => cases h; exact ⟨le_rfl, le_rfl, Nat.le_add_left _ _⟩
    case h_2 noLetter =>
      split at h
      · cases h
        exact length_octalEscape c r
      · simp_all [isEscapeLetter]

/-- A backslash in front of another character stands for itself. -/
theorem escapes_of_other {c : Char} (other : isEscapeLetter c = false) (r : List Char) :
    escapes named (c :: r) = some (['\\'.toNat, c.toNat], 1) := by
  rw [isEscapeLetter, Bool.or_eq_false_iff, Bool.or_eq_false_iff, decide_eq_false_iff_not,
    Option.isSome_eq_false_iff, Option.isNone_iff_eq_none] at other
  obtain ⟨⟨notListed, noLetter⟩, notOctal⟩ := other
  rw [escapes, noLetter]
  · dsimp only
    rw [notOctal]
    rfl
  all_goals
    rintro rfl
    exact notListed (by decide)

theorem kept_iff {c : Char} :
    Kept Char.toNat (escapes named) c ↔ isEscapeLetter c = false := by
  constructor
  · intro keeps
    rw [← Bool.not_eq_true]
    intro letter
    -- an escape gives one code point, and a backslash that is none gives two
    have short : 2 ≤ 1 := (length_of_escapes letter (keeps [])).1
    exact absurd short (by decide)
  · exact escapes_of_other

theorem shortening : Shortening Char.toNat (escapes named) plainCode where
  plain stands := (Option.some.inj stands).symm
  escape {r out taken} h := by
    cases r with
    | nil => cases h
    | cons c r =>
        cases letter : isEscapeLetter c with
        | true =>
            obtain ⟨short, positive, inside⟩ := length_of_escapes letter h
            exact .inl ⟨inside, short.trans positive⟩
        | false =>
            rw [escapes_of_other letter, Option.some.injEq, Prod.mk.injEq] at h
            exact .inr ⟨c, r, rfl, kept_iff.mpr letter, h.1.symm, h.2.symm⟩

/-! ## Reading a literal -/

theorem scanQuoted_of_readString {s rest : List Char} {value : List Nat}
    (h : readString named s = some (value, rest)) : scanQuoted s = some rest := by
  obtain ⟨after, scanned, returned⟩ := Option.bind_eq_some_iff.mp h
  dsimp only at returned
  split at returned
  · cases returned
  · obtain ⟨codes, -, equal⟩ := Option.map_eq_some_iff.mp returned
    cases equal
    exact scanned

/-- The value of a literal, given its text and where it ends. -/
theorem readString_append {text rest : List Char}
    (scanned : scanQuoted (text ++ rest) = some rest) :
    readString named (text ++ rest) =
      if '\x00' ∈ text then none
      else
        (read (escapes named) plainCode (unifyLines (StringLiteral.ofText text).body)).map
          (·, rest) := by
  have taken : (text ++ rest).take ((text ++ rest).length - rest.length) = text := by
    rw [List.length_append, Nat.add_sub_cancel, List.take_left]
  rw [readString, scanned, Option.bind_some, taken]

/-- A string is a single one unless two more quotes follow the first. -/
theorem scanQuoted_single {quote : Char} {s : List Char} (apart : s.take 2 ≠ [quote, quote]) :
    scanQuoted (quote :: s) = scanString quote false s := by
  unfold scanQuoted
  split
  · next a b c r same =>
      cases same
      rw [if_neg]
      rintro ⟨rfl, rfl⟩
      exact apart rfl
  · next same => cases same; rfl
  · next same => cases same

theorem body_single {quote : Char} {body : List Char} (notAlpha : quote.isAlpha = false)
    (apart : (body ++ [quote]).take 2 ≠ [quote, quote]) :
    (StringLiteral.ofText (quote :: (body ++ [quote]))).body = body := by
  have quoted : (quote :: (body ++ [quote])).dropWhile Char.isAlpha = quote :: (body ++ [quote]) :=
    List.dropWhile_cons_of_neg (by rw [notAlpha]; exact Bool.false_ne_true)
  unfold StringLiteral.ofText
  simp only [quoted]
  split
  · next a b c r same =>
      obtain ⟨rfl, rest⟩ := List.cons.inj same
      rw [if_neg]
      · simp
      · rintro ⟨rfl, rfl, -⟩
        rw [rest] at apart
        exact apart rfl
  · simp

theorem body_triple (body : List Char) :
    (StringLiteral.ofText ('"' :: '"' :: '"' :: (body ++ ['"', '"', '"']))).body = body := by
  simp [StringLiteral.ofText]

/-! ## Shown characters -/

/-- **What a character is shown as** between two quotes: behind a backslash, as itself, or by its
number. -/
inductive Shown (quote c : Char) : List Char → Prop
  | letter {l : Char} (value : letterValue? l = some c.toNat) : Shown quote c ['\\', l]
  | plain (unquoted : c ≠ quote) (other : c ≠ '\\') (noFeed : c ≠ '\n') (noReturn : c ≠ '\r')
      (notNull : c ≠ '\x00') : Shown quote c [c]
  | number {l : Char} {width : Nat} (letter : (l, width) ∈ [('x', 2), ('u', 4), ('U', 8)])
      (bound : c.toNat < 16 ^ width) : Shown quote c ('\\' :: l :: hexDigits width c.toNat)

/-- The quotes are two characters. -/
theorem eq_of_isQuote {quote : Char} (quoted : Directive.isQuote quote = true) :
    quote = '"' ∨ quote = '\'' := by
  rwa [Directive.isQuote, Bool.or_eq_true, beq_iff_eq, beq_iff_eq] at quoted

theorem shown_escapeChar {quote : Char} (quoted : Directive.isQuote quote = true) (c : Char) :
    Shown quote c (escapeChar quote c) := by
  unfold escapeChar
  split_ifs with special feed carriageReturn tab printable
  · rcases special with rfl | rfl
    · rcases eq_of_isQuote quoted with rfl | rfl <;> exact .letter rfl
    · exact .letter rfl
  · subst feed
    exact .letter rfl
  · subst carriageReturn
    exact .letter rfl
  · subst tab
    exact .letter rfl
  · obtain ⟨unquoted, other⟩ := not_or.mp special
    refine .plain unquoted other feed carriageReturn ?_
    rintro rfl
    exact absurd printable (by decide)
  · unfold numericEscape
    dsimp only
    split_ifs with byte word
    · exact .number (by decide) byte
    · exact .number (by decide) word
    · exact .number (by decide) c.val.toNat_lt

/-- A character that means nothing inside a single string. -/
theorem scanString_cons_plain {quote c : Char} (unquoted : c ≠ quote) (other : c ≠ '\\')
    (noFeed : c ≠ '\n') (noReturn : c ≠ '\r') (t : List Char) :
    scanString quote false (c :: t) = scanString quote false t := by
  rw [scanString, if_neg Bool.false_ne_true, if_neg unquoted,
    if_neg (not_or.mpr ⟨noFeed, not_or.mpr ⟨noReturn, other⟩⟩)]
  · exact fun _ backslash => absurd backslash other
  · exact fun _ _ backslash => absurd backslash other

/-- An escape that does not join lines takes one character behind its backslash. -/
theorem scanString_escape {quote : Char} {triple : Bool} {l : Char} (noReturn : l ≠ '\r')
    (t : List Char) :
    scanString quote triple ('\\' :: l :: t) = scanString quote triple t := by
  rw [scanString]
  exact fun _ cr => absurd cr noReturn

/-- Hexadecimal digits mean nothing inside a string. -/
theorem apart_of_mem_hexDigits {width n : Nat} {d : Char} (member : d ∈ hexDigits width n) :
    Directive.isQuote d = false ∧ d ≠ '\\' ∧ d ≠ '\n' ∧ d ≠ '\r' ∧ d ≠ '\x00' := by
  obtain ⟨n, small, rfl⟩ := exists_of_mem_hexDigits member
  have apart : ∀ n < 16, Directive.isQuote (Nat.digitChar n) = false ∧ Nat.digitChar n ≠ '\\' ∧
    Nat.digitChar n ≠ '\n' ∧ Nat.digitChar n ≠ '\r' ∧ Nat.digitChar n ≠ '\x00' := by decide
  exact apart n small

theorem scanString_plain_append {quote : Char} {s : List Char}
    (plain : ∀ d ∈ s, d ≠ quote ∧ d ≠ '\\' ∧ d ≠ '\n' ∧ d ≠ '\r') (t : List Char) :
    scanString quote false (s ++ t) = scanString quote false t := by
  induction s with
  | nil => rfl
  | cons d s ih =>
      obtain ⟨⟨unquoted, other, noFeed, noReturn⟩, rest⟩ := List.forall_mem_cons.mp plain
      rw [List.cons_append, scanString_cons_plain unquoted other noFeed noReturn, ih rest]

/-- A shown character does not end a single string. -/
theorem Shown.scanString_append {quote c : Char} (quoted : Directive.isQuote quote = true)
    {shown : List Char} (h : Shown quote c shown) (t : List Char) :
    scanString quote false (shown ++ t) = scanString quote false t := by
  cases h with
  | @letter l value =>
      refine scanString_escape ?_ t
      rintro rfl
      cases value
  | plain unquoted other noFeed noReturn =>
      exact scanString_cons_plain unquoted other noFeed noReturn t
  | @number l width letter bound =>
      have noReturn : l ≠ '\r' := by
        rintro rfl
        simp at letter
      rw [List.cons_append, List.cons_append, scanString_escape noReturn]
      refine scanString_plain_append (fun d member => ?_) t
      obtain ⟨unquoted, other, noFeed, noReturn, -⟩ := apart_of_mem_hexDigits member
      refine ⟨?_, other, noFeed, noReturn⟩
      rintro rfl
      rw [quoted] at unquoted
      cases unquoted

/-- Hexadecimal digits are those of an escape. -/
theorem hexEscape_hexDigits {width : Nat} {c : Char} (bound : c.toNat < 16 ^ width)
    (t : List Char) :
    hexEscape width (hexDigits width c.toNat ++ t) = some ([c.toNat], width + 1) := by
  have taken : (hexDigits width c.toNat ++ t).take width = hexDigits width c.toNat :=
    List.take_left' (length_hexDigits width c.toNat)
  have value : readHex (hexDigits width c.toNat) = c.toNat := by
    rw [readHex_hexDigits, Nat.mod_eq_of_lt bound]
  have digits : (hexDigits width c.toNat).all isHexDigit = true := by
    rw [List.all_eq_true]
    intro d member
    obtain ⟨n, small, rfl⟩ := exists_of_mem_hexDigits member
    exact (by decide : ∀ n < 16, isHexDigit (Nat.digitChar n) = true) n small
  have code : c.toNat ≤ 0x10FFFF := by
    have valid : c.toNat < 0xD800 ∨ 0xDFFF < c.toNat ∧ c.toNat < 0x110000 := c.valid
    omega
  have starts : startsWithHex width (hexDigits width c.toNat ++ t) = true := by
    rw [startsWithHex, taken, length_hexDigits, beq_self_eq_true, digits]
    exact decide_eq_true (value.trans_le code)
  rw [hexEscape, if_pos starts, taken, value]

theorem Shown.read_append {quote c : Char} {shown : List Char} (h : Shown quote c shown)
    (t : List Char) :
    read (escapes named) plainCode (shown ++ t) =
      (read (escapes named) plainCode t).map (c.toNat :: ·) := by
  cases h with
  | @letter l value =>
      have escape : escapes named (l :: t) = some ([c.toNat], 1) := by
        rw [escapes, value]
        all_goals
          rintro rfl
          cases value
      rw [List.cons_append, List.cons_append, List.nil_append, read_escape escape]
      rfl
  | plain unquoted other =>
      have stands : plainCode c = some c.toNat := rfl
      exact read_cons other stands t
  | @number l width letter bound =>
      have escape : escapes named (l :: (hexDigits width c.toNat ++ t)) =
          some ([c.toNat], width + 1) := by
        rw [← hexEscape_hexDigits bound t]
        simp only [List.mem_cons, Prod.mk.injEq, List.not_mem_nil, or_false] at letter
        rcases letter with ⟨rfl, rfl⟩ | ⟨rfl, rfl⟩ | ⟨rfl, rfl⟩ <;> rfl
      rw [List.cons_append, List.cons_append, read_escape escape, List.drop_succ_cons,
        List.drop_left' (length_hexDigits width c.toNat)]
      rfl

/-- Neither a carriage return nor a null character is shown as it is. -/
theorem Shown.apart {quote c : Char} {shown : List Char} (h : Shown quote c shown) :
    ∀ d ∈ shown, d ≠ '\r' ∧ d ≠ '\x00' := by
  cases h with
  | @letter l value =>
      refine List.forall_mem_cons.mpr ⟨by decide, List.forall_mem_singleton.mpr ⟨?_, ?_⟩⟩
      all_goals
        rintro rfl
        cases value
  | plain unquoted other noFeed noReturn notNull =>
      exact List.forall_mem_singleton.mpr ⟨noReturn, notNull⟩
  | @number l width letter bound =>
      refine List.forall_mem_cons.mpr ⟨by decide, List.forall_mem_cons.mpr ⟨⟨?_, ?_⟩, ?_⟩⟩
      · rintro rfl
        simp at letter
      · rintro rfl
        simp at letter
      · exact fun d member => (apart_of_mem_hexDigits member).2.2.2

theorem Shown.exists_cons {quote c : Char} (quoted : Directive.isQuote quote = true)
    {shown : List Char} (h : Shown quote c shown) : ∃ d s, shown = d :: s ∧ d ≠ quote := by
  have backslash := (Directive.ne_backslash_of_isQuote quoted).symm
  cases h with
  | letter | number => exact ⟨_, _, rfl, backslash⟩
  | plain unquoted => exact ⟨_, _, rfl, unquoted⟩

/-! ## Shown texts -/

section Quoted

variable {quote : Char} (quoted : Directive.isQuote quote = true)

include quoted

theorem scanString_flatMap (s t : List Char) :
    scanString quote false (s.flatMap (escapeChar quote) ++ t) = scanString quote false t := by
  induction s with
  | nil => rfl
  | cons c r ih =>
      rw [List.flatMap_cons, List.append_assoc,
        (shown_escapeChar quoted c).scanString_append quoted, ih]

theorem read_flatMap (s : List Char) :
    read (escapes named) plainCode (s.flatMap (escapeChar quote)) = some (s.map Char.toNat) := by
  induction s with
  | nil => rfl
  | cons c r ih =>
      rw [List.flatMap_cons, (shown_escapeChar quoted c).read_append, ih]
      rfl

theorem apart_of_mem_flatMap {s : List Char} {d : Char}
    (member : d ∈ s.flatMap (escapeChar quote)) : d ≠ '\r' ∧ d ≠ '\x00' := by
  obtain ⟨c, -, shown⟩ := List.mem_flatMap.mp member
  exact (shown_escapeChar quoted c).apart d shown

/-- No two quotes follow the one that opens a single string, unless one stands behind it. -/
theorem take_two_flatMap (s : List Char) {rest : List Char} (apart : rest.head? ≠ some quote) :
    (s.flatMap (escapeChar quote) ++ quote :: rest).take 2 ≠ [quote, quote] := by
  cases s with
  | nil =>
      cases rest with
      | nil => simp
      | cons d rest =>
          intro equal
          refine apart ?_
          have second : [d] = [quote] := (List.cons.inj equal).2
          rw [List.head?_cons, (List.cons.inj second).1]
  | cons c r =>
      obtain ⟨d, t, shown, unquoted⟩ := (shown_escapeChar quoted c).exists_cons quoted
      rw [List.flatMap_cons, shown]
      exact fun equal => unquoted (List.cons.inj equal).1

end Quoted

theorem scanString_quote {quote : Char} (quoted : Directive.isQuote quote = true)
    (rest : List Char) : scanString quote false (quote :: rest) = some rest := by
  have other := Directive.ne_backslash_of_isQuote quoted
  rw [scanString, if_neg Bool.false_ne_true, if_pos rfl]
  · exact fun _ backslash => absurd backslash other
  · exact fun _ _ backslash => absurd backslash other

theorem isQuote_quoteFor (s : List Char) : Directive.isQuote (quoteFor s) = true := by
  rw [quoteFor]
  split <;> rfl

/-- **A shown text is read back**, unless the quote that closes it stands behind it once more. -/
theorem readString_quotedChars {s rest : List Char} (apart : rest.head? ≠ some (quoteFor s)) :
    readString named (quotedChars s ++ rest) = some (s.map Char.toNat, rest) := by
  have quoted := isQuote_quoteFor s
  rw [quotedChars]
  generalize quoteFor s = quote at apart quoted
  have ends : (s.flatMap (escapeChar quote) ++ [quote]).take 2 ≠ [quote, quote] :=
    take_two_flatMap quoted s nofun
  have scanned : scanQuoted (quote :: (s.flatMap (escapeChar quote) ++ [quote]) ++ rest) =
      some rest := by
    rw [List.cons_append, List.append_assoc, List.singleton_append,
      scanQuoted_single (take_two_flatMap quoted s apart), scanString_flatMap quoted,
      scanString_quote quoted]
  have notAlpha : quote.isAlpha = false := by rcases eq_of_isQuote quoted with rfl | rfl <;> rfl
  have notNull : '\x00' ≠ quote := by rcases eq_of_isQuote quoted with rfl | rfl <;> decide
  have noNull : '\x00' ∉ quote :: (s.flatMap (escapeChar quote) ++ [quote]) := by
    rw [List.mem_cons, List.mem_append, List.mem_singleton]
    rintro (null | null | null)
    · exact notNull null
    · exact (apart_of_mem_flatMap quoted null).2 rfl
    · exact notNull null
  have noReturn : '\r' ∉ s.flatMap (escapeChar quote) := fun member =>
    (apart_of_mem_flatMap quoted member).1 rfl
  rw [List.cons_append, readString_append scanned, if_neg noNull, body_single notAlpha ends,
    unifyLines_eq_self_iff.mpr noReturn, read_flatMap quoted]
  rfl

example : readString (fun _ => none) "'\\x41\\102\\\n\\u0043 \\d' rest".toList =
    some ("ABC \\d".toList.map Char.toNat, " rest".toList) := by decide

end Narrowing.ClassSource
