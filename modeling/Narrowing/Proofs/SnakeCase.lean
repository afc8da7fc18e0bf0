import Mathlib
import Narrowing.Proofs.Text
import Narrowing.Text.SnakeCase

/-!
# Where words are set apart

The words of a name are set apart in two passes over the text, and a pass never looks
again at a character that it has used.  This module shows that the two passes together
follow a rule that looks at three neighbouring characters only: `startsWord`.

### Why nothing is missed

The first pass uses up a capitalised word with all its lower-case letters, so it cannot
set apart a capital right behind such a word.  But then a lower-case letter stands before
that capital, and this is what the second pass looks for (`breakHumps_append_lower`).  The
second pass in turn uses up a capital, behind which it has nothing to do
(`breakHumps_cons`); and it finds nothing behind an underscore of the first pass, so no two
underscores are set in one place.

## Main statements

* `separateWords_eq_insertBreaks` — both passes as one rule for each position
* `snakeCase_eq_insertBreaks` — the same for a name in snake case
* `separateWords_snakeCase` — what this says of identifiers
-/

namespace Narrowing.Text

/-! ## The rule -/

/-- **A word starts at this position**: a capital that is not the first character, behind a
lower-case letter or a digit, or else in front of a lower-case letter and not on a new line. -/
def startsWord (s : List Char) (i : Nat) : Bool :=
  decide (1 ≤ i) && s[i]?.any Char.isUpper &&
    (s[i - 1]?.any (fun b => b.isLower || b.isDigit) ||
      (s[i + 1]?.any Char.isLower && s[i - 1]? != some '\n'))

/-- The text with one underscore in front of every position with a break.  The positions of the
text are counted from `i`. -/
def insertBreaks (breaks : Nat → Bool) : Nat → List Char → List Char
  | _, [] => []
  | i, c :: r => (if breaks i then ['_', c] else [c]) ++ insertBreaks breaks (i + 1) r

/-- The text without the character in front of every position with a break, where positions are
those of the text that is left. -/
def deleteBreaks (breaks : Nat → Bool) : Nat → List Char → List Char
  | _, [] => []
  | i, [c] => if breaks i then [] else [c]
  | i, c :: d :: r =>
    if breaks i then d :: deleteBreaks breaks (i + 1) r
    else c :: deleteBreaks breaks (i + 1) (d :: r)

/-- Deleting the inserted underscores gives the text back. -/
theorem deleteBreaks_insertBreaks (breaks : Nat → Bool) (i : Nat) (s : List Char) :
    deleteBreaks breaks i (insertBreaks breaks i s) = s := by
  induction s generalizing i with
  | nil => rfl
  | cons c r ih =>
      rw [insertBreaks]
      by_cases here : breaks i = true
      · rw [if_pos here, List.cons_append, List.singleton_append, deleteBreaks, if_pos here, ih]
      · rw [if_neg here, List.singleton_append]
        have rest := ih (i + 1)
        cases behind : insertBreaks breaks (i + 1) r with
        | nil =>
            rw [behind, deleteBreaks] at rest
            rw [deleteBreaks, if_neg here, ← rest]
        | cons d t =>
            rw [behind] at rest
            rw [deleteBreaks, if_neg here, rest]

/-- Characters that are mapped one by one keep their breaks. -/
theorem map_insertBreaks {f : Char → Char} (underscore : f '_' = '_') (breaks : Nat → Bool)
    (i : Nat) (s : List Char) :
    (insertBreaks breaks i s).map f = insertBreaks breaks i (s.map f) := by
  induction s generalizing i with
  | nil => rfl
  | cons c r ih =>
      rw [insertBreaks, List.map_append, ih, List.map_cons, insertBreaks]
      split
      · rw [List.map_cons, List.map_singleton, underscore]
      · rw [List.map_singleton]

/-- Nothing but underscores is inserted. -/
theorem mem_insertBreaks {breaks : Nat → Bool} {i : Nat} {s : List Char} {c : Char}
    (member : c ∈ insertBreaks breaks i s) : c = '_' ∨ c ∈ s := by
  induction s generalizing i with
  | nil => cases member
  | cons d r ih =>
      rw [insertBreaks, List.mem_append] at member
      rcases member with here | behind
      · split at here
        · rw [List.mem_cons, List.mem_singleton] at here
          exact here.imp_right fun same => List.mem_cons.mpr (.inl same)
        · exact .inr (List.mem_cons.mpr (.inl (List.mem_singleton.mp here)))
      · exact (ih behind).imp_right (List.mem_cons_of_mem d)

/-- Without breaks the text stays as it is. -/
theorem insertBreaks_of_forall {breaks : Nat → Bool} (none : ∀ i, breaks i = false) (i : Nat)
    (s : List Char) : insertBreaks breaks i s = s := by
  induction s generalizing i with
  | nil => rfl
  | cons c r ih =>
      rw [insertBreaks, none, if_neg Bool.false_ne_true, ih]
      rfl

/-! ## The rule as a scan -/

/-- The rule for a capital, from the character before it and the text behind it. -/
def breaksBefore (before : Option Char) (c : Char) (behind : List Char) : Bool :=
  c.isUpper && (before.any (fun b => b.isLower || b.isDigit) ||
    (behind.head?.any Char.isLower && before.any (· != '\n')))

/-- The text with an underscore wherever the rule asks for one. -/
def breakFrom (before : Option Char) : List Char → List Char
  | [] => []
  | c :: r => (if breaksBefore before c r then ['_', c] else [c]) ++ breakFrom (some c) r

/-- Nothing is set apart from nothing. -/
theorem breakFrom_none_cons (c : Char) (r : List Char) :
    breakFrom none (c :: r) = c :: breakFrom (some c) r := by
  simp [breakFrom, breaksBefore]

/-- The scan knows the text before a position by its last character. -/
theorem breaksBefore_eq_startsWord (front : List Char) (c : Char) (r : List Char) :
    breaksBefore front.getLast? c r = startsWord (front ++ c :: r) front.length := by
  induction front using List.reverseRecOn with
  | nil => simp [breaksBefore, startsWord]
  | append_singleton front b _ =>
      have behind : (front ++ [b] ++ c :: r)[front.length + 1 + 1]? = r.head? := by
        rw [List.getElem?_append_right (by simp)]
        simp [List.head?_eq_getElem?]
      simp only [breaksBefore, startsWord, List.getLast?_concat, List.length_append,
        List.length_singleton, behind]
      simp [bne]

/-- **The scan inserts a break at every position where the rule asks for one.** -/
theorem breakFrom_eq_insertBreaks (front s : List Char) :
    breakFrom front.getLast? s = insertBreaks (startsWord (front ++ s)) front.length s := by
  induction s generalizing front with
  | nil => rfl
  | cons c r ih =>
      have rest := ih (front ++ [c])
      rw [List.getLast?_concat, List.length_append, List.length_singleton, List.append_assoc,
        List.singleton_append] at rest
      rw [breakFrom, insertBreaks, breaksBefore_eq_startsWord, rest]

/-! ## The second pass -/

/-- A capital at the front of a text behind a lower-case letter or a digit. -/
def humpGap (x : Char) (r : List Char) : List Char :=
  if (x.isLower || x.isDigit) && r.head?.any Char.isUpper then ['_'] else []

/-- A capital is neither a lower-case letter nor a digit. -/
theorem isLower_or_isDigit_of_isUpper {c : Char} (upper : c.isUpper = true) :
    (c.isLower || c.isDigit) = false := by
  have bounds : 'A'.val ≤ c.val ∧ c.val ≤ 'Z'.val := of_decide_eq_true upper
  rw [Bool.or_eq_false_iff]
  refine ⟨Bool.eq_false_iff.mpr (Char.not_isLower_of_isUpper upper), ?_⟩
  refine Bool.eq_false_iff.mpr fun digit => ?_
  have small := (toNat_of_isDigit digit).2
  have large : 65 ≤ c.toNat := bounds.1
  omega

/-- **The second pass, character by character**: a capital that is used up would not have been
looked at anyway. -/
theorem breakHumps_cons (x : Char) (r : List Char) :
    breakHumps (x :: r) = x :: (humpGap x r ++ breakHumps r) := by
  cases r with
  | nil => simp [breakHumps, humpGap]
  | cons y t =>
      rw [breakHumps]
      by_cases hump : (x.isLower = true ∨ x.isDigit = true) ∧ y.isUpper = true
      · have used : breakHumps (y :: t) = y :: breakHumps t := by
          cases t with
          | nil => rw [breakHumps, breakHumps] <;> simp
          | cons z t =>
              have capital := isLower_or_isDigit_of_isUpper hump.2
              rw [Bool.or_eq_false_iff] at capital
              rw [breakHumps, if_neg (by simp [capital])]
        rw [if_pos hump, used]
        simp [humpGap, hump]
      · rw [if_neg hump]
        rw [not_and] at hump
        have gap : humpGap x (y :: t) = [] := by
          rw [humpGap, if_neg]
          simpa using hump
        rw [gap, List.nil_append]

/-- Behind a character that is neither a lower-case letter nor a digit nothing is set apart. -/
theorem breakHumps_cons_of_not {x : Char} (other : (x.isLower || x.isDigit) = false)
    (r : List Char) : breakHumps (x :: r) = x :: breakHumps r := by
  rw [breakHumps_cons, humpGap, other, Bool.false_and, if_neg Bool.false_ne_true, List.nil_append]

/-- An underscore is not set apart. -/
theorem humpGap_underscore (x : Char) (r : List Char) : humpGap x ('_' :: r) = [] := by
  simp [humpGap]

/-! ## Lower-case letters in a row -/

/-- What stands between a lower-case letter and the text behind it. -/
def lowerGap (r : List Char) : List Char := if r.head?.any Char.isUpper then ['_'] else []

theorem humpGap_of_isLower {z : Char} (lower : z.isLower = true) (r : List Char) :
    humpGap z r = lowerGap r := by
  simp [humpGap, lowerGap, lower]

theorem lowerGap_cons_of_isLower {c : Char} (lower : c.isLower = true) (r : List Char) :
    lowerGap (c :: r) = [] := by
  have small := Char.not_isUpper_of_isLower lower
  simp [lowerGap, small]

/-- The second pass sets nothing apart within lower-case letters, and behind them only a capital. -/
theorem breakHumps_append_lower {z : Char} {run : List Char} (first : z.isLower = true)
    (lower : ∀ c ∈ run, c.isLower = true) (rest : List Char) :
    breakHumps (z :: (run ++ rest)) = z :: (run ++ (lowerGap rest ++ breakHumps rest)) := by
  induction run generalizing z with
  | nil => rw [List.nil_append, List.nil_append, breakHumps_cons, humpGap_of_isLower first]
  | cons c run ih =>
      rw [List.forall_mem_cons] at lower
      rw [breakHumps_cons, humpGap_of_isLower first, List.cons_append,
        lowerGap_cons_of_isLower lower.1, List.nil_append, ih lower.1 lower.2]
      rfl

/-- A lower-case letter does not start a word. -/
theorem breakFrom_cons_of_isLower {c : Char} (lower : c.isLower = true) (before : Option Char)
    (r : List Char) : breakFrom before (c :: r) = c :: breakFrom (some c) r := by
  have small := Char.not_isUpper_of_isLower lower
  simp [breakFrom, breaksBefore, small]

/-- Nor does the rule set anything apart there. -/
theorem breakFrom_append_lower {z : Char} {run : List Char} (first : z.isLower = true)
    (lower : ∀ c ∈ run, c.isLower = true) (rest : List Char) :
    breakFrom (some z) (run ++ rest) = run ++ (lowerGap rest ++ breakFrom none rest) := by
  induction run generalizing z with
  | nil =>
      cases rest with
      | nil => rfl
      | cons c r =>
          rw [List.nil_append, List.nil_append, breakFrom, breakFrom_none_cons]
          cases upper : c.isUpper <;> simp [breaksBefore, lowerGap, upper, first]
  | cons c run ih =>
      rw [List.forall_mem_cons] at lower
      rw [List.cons_append, breakFrom_cons_of_isLower lower.1, ih lower.1 lower.2, List.cons_append]

/-! ## Both passes -/

/-- The first pass keeps the first character. -/
theorem head?_breakWords (s : List Char) : (breakWords s).head? = s.head? := by
  fun_cases breakWords s <;> rfl

/-- Where no capitalised word starts, the rule asks for what the second pass does. -/
theorem breakFrom_some_of_not {x : Char} {r : List Char}
    (noWord : ∀ y z t, r = y :: z :: t →
      ¬ (x ≠ '\n' ∧ y.isUpper = true ∧ z.isLower = true)) :
    breakFrom (some x) r = humpGap x r ++ breakFrom none r := by
  cases r with
  | nil => simp [breakFrom, humpGap]
  | cons y t =>
      have rule : breaksBefore (some x) y t = (y.isUpper && (x.isLower || x.isDigit)) := by
        cases t with
        | nil => simp [breaksBefore]
        | cons z t =>
            have noWord := noWord y z t rfl
            simp only [breaksBefore, Option.any_some, List.head?_cons]
            grind
      rw [breakFrom, breakFrom_none_cons, rule, humpGap, List.head?_cons, Option.any_some,
        Bool.and_comm]
      split <;> rfl

/-- **The two passes together follow the rule.**  The induction is on the first pass.  Where it
uses up a word, the second pass and the rule both go on behind the last letter of the word. -/
theorem breakHumps_breakWords (s : List Char) : breakHumps (breakWords s) = breakFrom none s := by
  fun_induction breakWords s with
  | case1 x y z r word ih =>
      obtain ⟨noBreak, upper, lower⟩ := word
      have run : ∀ c ∈ r.takeWhile Char.isLower, c.isLower = true := fun c member =>
        List.mem_takeWhile_imp member
      have gap : lowerGap (breakWords (r.dropWhile Char.isLower)) =
          lowerGap (r.dropWhile Char.isLower) := by
        rw [lowerGap, head?_breakWords, lowerGap]
      have behind : breakHumps (z :: (r.takeWhile Char.isLower ++
          breakWords (r.dropWhile Char.isLower))) = z :: breakFrom (some z) r := by
        rw [breakHumps_append_lower lower run, gap, ih, ← breakFrom_append_lower lower run,
          List.takeWhile_append_dropWhile]
      have rule : breaksBefore (some x) y (z :: r) = true := by
        simp [breaksBefore, noBreak, upper, lower]
      rw [breakHumps_cons, humpGap_underscore, List.nil_append, breakHumps_cons_of_not rfl,
        breakHumps_cons_of_not (isLower_or_isDigit_of_isUpper upper), behind, breakFrom_none_cons,
        breakFrom, if_pos rule, breakFrom_cons_of_isLower lower]
      rfl
  | case2 x y z r noWord ih =>
      have gap : humpGap x (breakWords (y :: z :: r)) = humpGap x (y :: z :: r) := by
        rw [humpGap, head?_breakWords, humpGap]
      rw [breakHumps_cons, gap, ih, breakFrom_none_cons x, breakFrom_some_of_not]
      rintro y' z' t ⟨⟩
      exact noWord
  | case3 s short =>
      have alone (c : Char) : breakHumps [c] = breakFrom none [c] := by
        rw [breakHumps_cons, breakFrom_none_cons]
        simp [humpGap, breakHumps, breakFrom]
      rcases s with _ | ⟨x, _ | ⟨y, _ | ⟨z, r⟩⟩⟩
      · simp [breakHumps, breakFrom]
      · exact alone x
      · rw [breakHumps_cons, alone, breakFrom_none_cons x, breakFrom_some_of_not]
        rintro y' z' t ⟨⟩
      · exact absurd rfl (short x y z r)

/-- **Words are set apart exactly where the rule says that one starts.** -/
theorem separateWords_eq_insertBreaks (s : List Char) :
    separateWords s = insertBreaks (startsWord s) 0 s := by
  rw [separateWords, breakHumps_breakWords]
  exact breakFrom_eq_insertBreaks [] s

/-! ## Names without capitals -/

/-- No word starts in a text without capitals, so nothing is set apart. -/
theorem separateWords_of_forall {s : List Char} (small : ∀ c ∈ s, c.isUpper = false) :
    separateWords s = s := by
  rw [separateWords_eq_insertBreaks]
  refine insertBreaks_of_forall (fun i => ?_) 0 s
  have plain : s[i]?.any Char.isUpper = false := by
    cases stands : s[i]? with
    | none => rfl
    | some c => exact small c (List.mem_of_getElem? stands)
  rw [startsWord, plain, Bool.and_false, Bool.false_and]

/-- The lower-case form of an ASCII text maps its characters one by one. -/
theorem lowerFrom_eq_map {before s : List Char} (ascii : ∀ c ∈ s, c.toNat < 0x80) :
    lowerFrom before s = s.map Char.toLower := by
  induction s generalizing before with
  | nil => rfl
  | cons c r ih =>
      rw [List.forall_mem_cons] at ascii
      have noSigma : c ≠ 'Σ' := by
        rintro rfl
        exact absurd ascii.1 (by decide)
      have noDot : c ≠ 'İ' := by
        rintro rfl
        exact absurd ascii.1 (by decide)
      rw [lowerFrom, if_neg noSigma, if_neg noDot, lowerChar, if_pos ascii.1, ih ascii.2]
      rfl

/-- The lower-case form of a text of name characters. -/
theorem lower_eq_map {s : List Char} (name : ∀ c ∈ s, isNameChar c = true) :
    lower s = s.map Char.toLower :=
  lowerFrom_eq_map fun c member => (toNat_of_isNameChar (name c member)).2

theorem isNameStart_toLower {c : Char} (start : isNameStart c = true) :
    isNameStart c.toLower = true := by
  by_cases upper : c.isUpper = true
  · have letter : c.isAlpha = true := by rw [Char.isAlpha, upper, Bool.true_or]
    rw [isNameStart, Char.isAlpha_toLower_eq_isAlpha, letter, Bool.true_or]
  · rwa [Char.toLower_eq_of_not_isUpper upper]

theorem isNameChar_toLower {c : Char} (char : isNameChar c = true) :
    isNameChar c.toLower = true := by
  by_cases upper : c.isUpper = true
  · have letter : isNameStart c = true := by
      rw [isNameStart, Char.isAlpha, upper, Bool.true_or, Bool.true_or]
    exact isNameChar_of_isNameStart (isNameStart_toLower letter)
  · rwa [Char.toLower_eq_of_not_isUpper upper]

/-- The lower-case form of an identifier is one. -/
theorem isIdentifier_map_toLower {s : List Char} (identifier : isIdentifier s = true) :
    isIdentifier (s.map Char.toLower) = true := by
  cases s with
  | nil => cases identifier
  | cons c r =>
      rw [isIdentifier, Bool.and_eq_true, List.all_eq_true] at identifier
      rw [List.map_cons, isIdentifier, isNameStart_toLower identifier.1, Bool.true_and,
        List.all_map, List.all_eq_true]
      exact fun c member => isNameChar_toLower (identifier.2 c member)

/-- Underscores behind the first character keep an identifier one. -/
theorem isIdentifier_insertBreaks {breaks : Nat → Bool} {s : List Char}
    (first : breaks 0 = false) (identifier : isIdentifier s = true) :
    isIdentifier (insertBreaks breaks 0 s) = true := by
  cases s with
  | nil => cases identifier
  | cons c r =>
      rw [isIdentifier, Bool.and_eq_true, List.all_eq_true] at identifier
      rw [insertBreaks, first, if_neg Bool.false_ne_true, List.singleton_append, isIdentifier,
        identifier.1, Bool.true_and, List.all_eq_true]
      intro c member
      rcases mem_insertBreaks member with rfl | kept
      · rfl
      · exact identifier.2 c kept

/-- **An identifier in snake case** is its lower-case form with an underscore where the rule says
that a word starts. -/
theorem snakeCase_eq_insertBreaks {s : String} (identifier : isIdentifier s.toList = true) :
    (snakeCase s).toList = insertBreaks (startsWord s.toList) 0 (lower s.toList) := by
  have name := isNameChar_of_isIdentifier identifier
  have separated : ∀ c ∈ insertBreaks (startsWord s.toList) 0 s.toList, isNameChar c = true := by
    intro c member
    rcases mem_insertBreaks member with rfl | kept
    · rfl
    · exact name c kept
  rw [snakeCase, String.toList_ofList, separateWords_eq_insertBreaks, lower_eq_map separated,
    lower_eq_map name, map_insertBreaks (by decide)]

/-- An identifier in snake case has no capitals. -/
theorem isUpper_of_mem_snakeCase {s : String} (identifier : isIdentifier s.toList = true) {c : Char}
    (member : c ∈ (snakeCase s).toList) : c.isUpper = false := by
  rw [snakeCase_eq_insertBreaks identifier,
    lower_eq_map (isNameChar_of_isIdentifier identifier)] at member
  rcases mem_insertBreaks member with rfl | kept
  · rfl
  · obtain ⟨d, -, rfl⟩ := List.mem_map.mp kept
    exact Char.isUpper_toLower_eq_false d

/-- An identifier without capitals is in snake case already. -/
theorem snakeCase_of_forall {s : String} (identifier : isIdentifier s.toList = true)
    (small : ∀ c ∈ s.toList, c.isUpper = false) : snakeCase s = s := by
  have kept : s.toList.map Char.toLower = s.toList := by
    conv => rhs; rw [← List.map_id s.toList]
    refine List.map_congr_left fun c member => ?_
    exact Char.toLower_eq_of_not_isUpper (Bool.eq_false_iff.mp (small c member))
  rw [snakeCase, separateWords_of_forall small, lower_eq_map (isNameChar_of_isIdentifier identifier),
    kept, String.ofList_toList]

/-- **Snake case follows a rule that looks at three characters.**  The two passes put one underscore
in front of every position at which `startsWord` holds and change nothing else: there is a capital,
it is not the first character, and before it stands a lower-case letter or a digit, or else behind
it stands a lower-case letter and before it no line break.  So for an identifier, deleting the
inserted underscores from its snake case gives its lower-case form; its snake case is an identifier
without capitals; and it is its own snake case. -/
theorem separateWords_snakeCase (s : String) :
    separateWords s.toList = insertBreaks (startsWord s.toList) 0 s.toList ∧
    (isIdentifier s.toList = true →
      (snakeCase s).toList = insertBreaks (startsWord s.toList) 0 (lower s.toList) ∧
      deleteBreaks (startsWord s.toList) 0 (snakeCase s).toList = lower s.toList ∧
      isIdentifier (snakeCase s).toList = true ∧
      (∀ c ∈ (snakeCase s).toList, c.isUpper = false) ∧
      snakeCase (snakeCase s) = snakeCase s) := by
  refine ⟨separateWords_eq_insertBreaks s.toList, fun identifier => ?_⟩
  have written := snakeCase_eq_insertBreaks identifier
  have small := fun c (member : c ∈ (snakeCase s).toList) => isUpper_of_mem_snakeCase identifier member
  have again : isIdentifier (snakeCase s).toList = true := by
    rw [written, lower_eq_map (isNameChar_of_isIdentifier identifier)]
    exact isIdentifier_insertBreaks rfl (isIdentifier_map_toLower identifier)
  refine ⟨written, ?_, again, small, snakeCase_of_forall again small⟩
  rw [written, deleteBreaks_insertBreaks]

/-- A name with capitals in a row, a digit, and a capital right behind a word that the first pass
uses up. -/
theorem separateWords_snakeCase_capitals :
    isIdentifier "HTTPReply2GoFooBar".toList = true ∧
      snakeCase "HTTPReply2GoFooBar" = "http_reply2_go_foo_bar" ∧
      deleteBreaks (startsWord "HTTPReply2GoFooBar".toList) 0
        (snakeCase "HTTPReply2GoFooBar").toList = "httpreply2gofoobar".toList ∧
      snakeCase "http_reply2_go_foo_bar" = "http_reply2_go_foo_bar" := by
  have identifier : isIdentifier "HTTPReply2GoFooBar".toList = true := by decide
  have lowered : lower "HTTPReply2GoFooBar".toList = "httpreply2gofoobar".toList := by decide
  have snake : snakeCase "HTTPReply2GoFooBar" = "http_reply2_go_foo_bar" := by decide +kernel
  obtain ⟨-, deleted, -, -, again⟩ := (separateWords_snakeCase "HTTPReply2GoFooBar").2 identifier
  rw [snake] at again
  exact ⟨identifier, snake, by rw [deleted, lowered], again⟩

end Narrowing.Text
