import Mathlib.Data.List.DropRight
import Narrowing.Text.Blank
import Narrowing.Text.Identifier
import Narrowing.Text.Lines

/-!
# Blanks and lines of a text

Texts are stripped before they are read, so most facts about reading are about the
part of a text between its outer blanks.  Two descriptions of that part are enough
for all of them: the text is its stripped part between blanks
(`exists_blanks_around_strip`), and a stripped text is one that neither starts nor
ends with a blank (`strip_eq_self_iff`).

Name characters are never blank, and never one of the marks that give a reference
or a directive its structure.

A text of lines is taken apart by `toList_lines`, one line after the other.
-/

namespace Narrowing.Text

/-! ## Parts of a text -/

/-- A text keeps its ends when it grows. -/
theorem suffix_cons_of_suffix {rest r : List Char} (suffix : rest <:+ r) (c : Char) :
    rest <:+ c :: r := suffix.trans (List.suffix_cons c r)

/-- A part of a text begins with the character at its start. -/
theorem head?_slice {s : List Char} {start stop : Nat} (longer : start < stop) :
    (slice s start stop).head? = s[start]? := by
  rw [slice, List.head?_take, if_neg (by omega), List.head?_drop]

/-! ## Stripping -/

theorem stripRight_eq_rdropWhile (s : List Char) : stripRight s = s.rdropWhile isBlank := rfl

/-- A text is its stripped part between blanks. -/
theorem exists_blanks_around_strip (s : List Char) :
    ∃ before after, s = before ++ (strip s ++ after) ∧
      (∀ c ∈ before, isBlank c = true) ∧ ∀ c ∈ after, isBlank c = true := by
  refine ⟨s.takeWhile isBlank, (stripLeft s).rtakeWhile isBlank, ?_, ?_, ?_⟩
  · rw [strip, stripRight_eq_rdropWhile, List.rdropWhile_append_rtakeWhile, stripLeft,
      List.takeWhile_append_dropWhile]
  · intro c member
    exact List.all_eq_true.mp List.all_takeWhile c member
  · intro c member
    exact List.mem_rtakeWhile_imp member

/-- A stripped text does not start with a blank. -/
theorem isBlank_of_mem_head?_strip {s : List Char} {c : Char} (h : c ∈ (strip s).head?) :
    isBlank c = false := by
  obtain ⟨rest, stripped⟩ := List.head?_eq_some_iff.mp h
  obtain ⟨tail, whole⟩ := List.rdropWhile_prefix isBlank (l := stripLeft s)
  rw [← stripRight_eq_rdropWhile, ← strip, stripped] at whole
  have first := List.head?_dropWhile_not isBlank s
  rw [← stripLeft, ← whole, List.cons_append, List.head?_cons] at first
  simpa using first

/-- A stripped text does not end with a blank. -/
theorem isBlank_of_mem_getLast?_strip {s : List Char} {c : Char}
    (h : c ∈ (strip s).getLast?) : isBlank c = false := by
  rw [strip, stripRight_eq_rdropWhile] at h
  obtain ⟨nonempty, last⟩ := List.mem_getLast?_eq_getLast h
  have notBlank := List.rdropWhile_last_not isBlank (stripLeft s) nonempty
  rw [← last] at notBlank
  simpa using notBlank

/-- **A text is stripped exactly when it neither starts nor ends with a blank.** -/
theorem strip_eq_self_iff {s : List Char} :
    strip s = s ↔
      (∀ c ∈ s.head?, isBlank c = false) ∧ ∀ c ∈ s.getLast?, isBlank c = false := by
  constructor
  · intro h
    rw [← h]
    exact ⟨fun c => isBlank_of_mem_head?_strip, fun c => isBlank_of_mem_getLast?_strip⟩
  · rintro ⟨first, last⟩
    have left : stripLeft s = s := by
      cases s with
      | nil => rfl
      | cons c r => rw [stripLeft, List.dropWhile_cons_of_neg (by simp [first c rfl])]
    rw [strip, left, stripRight_eq_rdropWhile, List.rdropWhile_eq_self_iff]
    intro nonempty
    rw [last _ (List.getLast?_eq_some_getLast nonempty)]
    exact Bool.false_ne_true

/-- Stripping twice is stripping once. -/
@[simp] theorem strip_strip (s : List Char) : strip (strip s) = strip s :=
  strip_eq_self_iff.mpr
    ⟨fun _ => isBlank_of_mem_head?_strip, fun _ => isBlank_of_mem_getLast?_strip⟩

/-- A leading blank is stripped. -/
theorem strip_cons_of_isBlank {c : Char} (blank : isBlank c = true) (s : List Char) :
    strip (c :: s) = strip s := by
  rw [strip, stripLeft, List.dropWhile_cons_of_pos blank, ← stripLeft, ← strip]

/-- A text without blanks is stripped. -/
theorem strip_eq_self_of_forall {s : List Char} (h : ∀ c ∈ s, isBlank c = false) :
    strip s = s :=
  strip_eq_self_iff.mpr
    ⟨fun c first => h c (List.mem_of_mem_head? first),
      fun c last => h c (List.mem_of_mem_getLast? last)⟩

/-- Nothing is left of a text exactly when it is blank. -/
theorem strip_eq_nil_iff {s : List Char} : strip s = [] ↔ allBlank s = true := by
  constructor
  · intro h
    obtain ⟨before, after, whole, blankBefore, blankAfter⟩ := exists_blanks_around_strip s
    rw [h, List.nil_append] at whole
    rw [allBlank, List.all_eq_true, whole, List.forall_mem_append]
    exact ⟨blankBefore, blankAfter⟩
  · intro h
    rw [allBlank, List.all_eq_true] at h
    rw [strip, stripLeft, List.dropWhile_eq_nil_iff.mpr h]
    rfl

/-! ## Name characters -/

/-- An identifier begins with an ASCII character behind the digits. -/
theorem toNat_of_isNameStart {c : Char} (h : isNameStart c = true) :
    65 ≤ c.toNat ∧ c.toNat < 128 := by
  have kind : (c.isUpper || c.isLower) || c == '_' := h
  rw [Bool.or_eq_true, Bool.or_eq_true, beq_iff_eq] at kind
  rcases kind with (upper | lower) | rfl
  · have bounds : 'A'.val ≤ c.val ∧ c.val ≤ 'Z'.val := of_decide_eq_true upper
    exact ⟨bounds.1, Nat.lt_of_le_of_lt bounds.2 (by decide)⟩
  · have bounds : 'a'.val ≤ c.val ∧ c.val ≤ 'z'.val :=
      (Bool.and_eq_true_iff.mp lower).imp of_decide_eq_true of_decide_eq_true
    exact ⟨Nat.le_trans (by decide) bounds.1, Nat.lt_of_le_of_lt bounds.2 (by decide)⟩
  · decide

/-- A digit is one of the ten of ASCII. -/
theorem toNat_of_isDigit {c : Char} (h : c.isDigit = true) : 48 ≤ c.toNat ∧ c.toNat < 58 := by
  have bounds : '0'.val ≤ c.val ∧ c.val ≤ '9'.val :=
    (Bool.and_eq_true_iff.mp h).imp of_decide_eq_true of_decide_eq_true
  exact ⟨bounds.1, Nat.lt_of_le_of_lt bounds.2 (by decide)⟩

/-- A name character is an ASCII character from the digits on. -/
theorem toNat_of_isNameChar {c : Char} (h : isNameChar c = true) :
    48 ≤ c.toNat ∧ c.toNat < 128 := by
  have kind : (c.isAlpha || c.isDigit) || c == '_' := h
  rw [Bool.or_right_comm, Bool.or_eq_true] at kind
  rcases kind with start | digit
  · have bounds := toNat_of_isNameStart start
    omega
  · have bounds := toNat_of_isDigit digit
    omega

/-- A name character is not blank. -/
theorem isBlank_of_isNameChar {c : Char} (h : isNameChar c = true) : isBlank c = false := by
  have range := toNat_of_isNameChar h
  simp only [isBlank, Bool.or_eq_false_iff, Bool.and_eq_false_iff, decide_eq_false_iff_not,
    beq_eq_false_iff_ne]
  omega

/-- Every character of an identifier is a name character. -/
theorem isNameChar_of_isIdentifier {s : List Char} (h : isIdentifier s = true) :
    ∀ c ∈ s, isNameChar c = true := by
  cases s with
  | nil => simp
  | cons c r =>
      rw [isIdentifier, Bool.and_eq_true, List.all_eq_true] at h
      rw [List.forall_mem_cons]
      exact ⟨isNameChar_of_isNameStart h.1, h.2⟩

/-- An identifier is not empty. -/
theorem ne_nil_of_isIdentifier {s : List Char} (h : isIdentifier s = true) : s ≠ [] := by
  rintro rfl
  cases h

/-- An identifier is stripped. -/
theorem strip_of_isIdentifier {s : List Char} (h : isIdentifier s = true) : strip s = s :=
  strip_eq_self_of_forall fun c member =>
    isBlank_of_isNameChar (isNameChar_of_isIdentifier h c member)

/-- The characters of a name in front of a text that does not continue it. -/
theorem takeWhile_dropWhile_append {r rest : List Char} (name : ∀ c ∈ r, isNameChar c = true)
    (ends : ∀ c ∈ rest.head?, isNameChar c = false) :
    (r ++ rest).takeWhile isNameChar = r ∧ (r ++ rest).dropWhile isNameChar = rest := by
  rw [List.takeWhile_append_of_pos name, List.dropWhile_append_of_pos name]
  cases rest with
  | nil => simp
  | cons d rest => simp [ends d rfl]

/-- What stands behind a run of name characters does not continue it. -/
theorem isNameChar_of_mem_head?_dropWhile (s : List Char) :
    ∀ c ∈ (s.dropWhile isNameChar).head?, isNameChar c = false := by
  intro c first
  have stopped := List.head?_dropWhile_not isNameChar s
  rw [first] at stopped
  simpa using stopped

/-- A run of name characters behind a character that may begin an identifier is one with it. -/
theorem isIdentifier_cons_takeWhile {c : Char} (start : isNameStart c = true) (r : List Char) :
    isIdentifier (c :: r.takeWhile isNameChar) = true := by
  rw [isIdentifier, start, List.all_takeWhile]
  rfl

/-- **The identifier in front of a text** is its longest run of name characters, which must begin
as an identifier does. -/
theorem eq_append_identifier_iff {s name rest : List Char} :
    (s = name ++ rest ∧ isIdentifier name = true ∧ ∀ c ∈ rest.head?, isNameChar c = false) ↔
      s.head?.any isNameStart = true ∧ name = s.takeWhile isNameChar ∧
        rest = s.dropWhile isNameChar := by
  constructor
  · rintro ⟨rfl, identifier, ends⟩
    obtain ⟨taken, dropped⟩ :=
      takeWhile_dropWhile_append (isNameChar_of_isIdentifier identifier) ends
    refine ⟨?_, taken.symm, dropped.symm⟩
    cases name with
    | nil => cases identifier
    | cons c r =>
        rw [isIdentifier, Bool.and_eq_true] at identifier
        exact identifier.1
  · rintro ⟨start, rfl, rfl⟩
    refine ⟨List.takeWhile_append_dropWhile.symm, ?_, isNameChar_of_mem_head?_dropWhile s⟩
    cases s with
    | nil => cases start
    | cons c r =>
        have first : isNameStart c = true := start
        rw [List.takeWhile_cons_of_pos (isNameChar_of_isNameStart first)]
        exact isIdentifier_cons_takeWhile first r

/-! ## Lines -/

/-- **Reading lines leaves a text as it is** exactly when there is no carriage return in it. -/
theorem unifyLines_eq_self_iff {s : List Char} : unifyLines s = s ↔ '\r' ∉ s := by
  induction s using unifyLines.induct with
  | case1 => simp [unifyLines]
  | case2 r ih => simp [unifyLines]
  | case3 r other ih => rw [unifyLines] <;> simp_all
  | case4 c r noPair noReturn ih =>
      have other : c ≠ '\r' := by
        rintro rfl
        exact noReturn rfl
      rw [unifyLines, List.cons.injEq, ih, List.mem_cons]
      · simp [other.symm]
      · exact noPair
      · exact noReturn

theorem length_unifyLines_le (s : List Char) : (unifyLines s).length ≤ s.length := by
  fun_induction unifyLines s with
  | case1 => exact le_rfl
  | case2 r ih => exact Nat.le_succ_of_le (Nat.succ_le_succ ih)
  | case3 r _ ih | case4 c r _ _ ih => exact Nat.succ_le_succ ih

/-- The characters of lines, each with a line feed behind it. -/
def ofLines (lines : List String) : List Char := lines.flatMap fun line => line.toList ++ ['\n']

@[simp] theorem ofLines_nil : ofLines [] = [] := rfl

@[simp] theorem ofLines_cons (line : String) (lines : List String) :
    ofLines (line :: lines) = line.toList ++ '\n' :: ofLines lines := by
  rw [ofLines, List.flatMap_cons, List.append_assoc]
  rfl

@[simp] theorem ofLines_append (front back : List String) :
    ofLines (front ++ back) = ofLines front ++ ofLines back :=
  List.flatMap_append

theorem ofLines_flatMap {α : Type*} (lines : α → List String) (as : List α) :
    ofLines (as.flatMap lines) = as.flatMap fun a => ofLines (lines a) :=
  List.flatMap_assoc

/-- **A text of lines** has a line feed behind every line. -/
theorem toList_lines {lines : List String} (nonempty : lines ≠ []) :
    ("\n".intercalate lines ++ "\n").toList = ofLines lines := by
  induction lines with
  | nil => exact absurd rfl nonempty
  | cons line lines ih =>
      cases lines with
      | nil => simp
      | cons next others =>
          have ih := ih (List.cons_ne_nil next others)
          rw [String.toList_append] at ih
          rw [String.intercalate_cons_cons, String.toList_append, String.toList_append,
            String.toList_append, List.append_assoc, ih, ofLines_cons line, List.append_assoc]
          rfl

end Narrowing.Text
