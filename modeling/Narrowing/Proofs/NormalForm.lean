import Narrowing.Proofs.Word
import Narrowing.Text.NormalForm

/-!
# Normal forms of words

The normal form of a word is a word again, as far as the grammar of options can tell: its
characters are ASCII name characters or visible characters beyond ASCII, and it does not
begin with a digit (`WordLike`).

The three steps are taken one by one.  What a character is replaced by is in tables, so
that the tables are checked, entry by entry.  Only digits of other scripts have an ASCII
digit among their parts, and no word begins with one of those.  To order marks is to
permute, and what passes another character is a mark, so it lies beyond ASCII.  What two
characters compose to lies beyond ASCII as well.

## Main statements

* `wordLike_normalForm` — the normal form of a word
-/

namespace Narrowing.Text

/-! ## Characters -/

/-- A visible character beyond ASCII. -/
def isForeign (c : Char) : Bool := 0x80 ≤ c.toNat && !isBlank c

/-- A character that a word may begin with. -/
def beginsWord (c : Char) : Bool := isNameStart c || isForeign c

/-- A character that may stand in a word. -/
def continuesWord (c : Char) : Bool := isNameChar c || isForeign c

/-- **The text is like a word** to those who know ASCII only. -/
def WordLike : List Char → Prop
  | [] => False
  | c :: r => beginsWord c = true ∧ ∀ d ∈ r, continuesWord d = true

theorem beginsWord_of_isForeign {c : Char} (foreign : isForeign c = true) : beginsWord c = true := by
  rw [beginsWord, foreign, Bool.or_true]

theorem continuesWord_of_isForeign {c : Char} (foreign : isForeign c = true) :
    continuesWord c = true := by
  rw [continuesWord, foreign, Bool.or_true]

theorem continuesWord_of_beginsWord {c : Char} (begins : beginsWord c = true) :
    continuesWord c = true := by
  rw [beginsWord, Bool.or_eq_true] at begins
  rw [continuesWord, Bool.or_eq_true]
  exact begins.imp_left isNameChar_of_isNameStart

theorem isForeign_of_wide {c : Char} (continues : continuesWord c = true) (wide : 0x80 ≤ c.toNat) :
    isForeign c = true := by
  rw [continuesWord, Bool.or_eq_true] at continues
  refine continues.resolve_left fun name => ?_
  have ascii := (toNat_of_isNameChar name).2
  omega

theorem continuesWord_of_isWordPart {c : Char} (part : isWordPart c = true) :
    continuesWord c = true := by
  rw [continuesWord, isForeign, Bool.or_eq_true, Bool.and_eq_true, decide_eq_true_eq,
    Bool.not_eq_true']
  exact (isNameChar_or_of_isWordPart part).imp_right And.symm

theorem beginsWord_of_isWordStart {c : Char} (start : isWordStart c = true) :
    beginsWord c = true := by
  rw [beginsWord, isForeign, Bool.or_eq_true, Bool.and_eq_true, decide_eq_true_eq,
    Bool.not_eq_true']
  exact (isNameStart_or_of_isWordStart start).imp_right And.symm

namespace WordLike

variable {s t : List Char}

theorem continues (wordLike : WordLike s) : ∀ c ∈ s, continuesWord c = true := by
  cases s with
  | nil => exact wordLike.elim
  | cons c r =>
      exact List.forall_mem_cons.mpr ⟨continuesWord_of_beginsWord wordLike.1, wordLike.2⟩

theorem append (wordLike : WordLike s) (others : ∀ c ∈ t, continuesWord c = true) :
    WordLike (s ++ t) := by
  cases s with
  | nil => exact wordLike.elim
  | cons c r => exact ⟨wordLike.1, List.forall_mem_append.mpr ⟨wordLike.2, others⟩⟩

theorem of_isWord (isWord : isWord s = true) : WordLike s := by
  cases s with
  | nil => cases isWord
  | cons c r =>
      rw [Text.isWord, Bool.and_eq_true, List.all_eq_true] at isWord
      exact ⟨beginsWord_of_isWordStart isWord.1, fun d member =>
        continuesWord_of_isWordPart (isWord.2 d member)⟩

end WordLike

/-! ## Code points -/

/-- Code points of visible characters beyond ASCII. -/
def foreignCodes : CodeRanges :=
  [(0xA1, 0x167F), (0x1681, 0x1FFF), (0x2060, 0x2FFF), (0x3001, 0xD7FF), (0xE000, 0x10FFFF)]

/-- The code point is in those ranges. -/
def isForeignCode (n : Nat) : Bool := foreignCodes.any fun r => r.1 ≤ n && n ≤ r.2

theorem isForeignCode_iff {n : Nat} : isForeignCode n = true ↔
    0xA1 ≤ n ∧ n ≤ 0x167F ∨ 0x1681 ≤ n ∧ n ≤ 0x1FFF ∨ 0x2060 ≤ n ∧ n ≤ 0x2FFF ∨
      0x3001 ≤ n ∧ n ≤ 0xD7FF ∨ 0xE000 ≤ n ∧ n ≤ 0x10FFFF := by
  simp only [isForeignCode, foreignCodes, List.any_cons, List.any_nil, Bool.or_eq_true,
    Bool.and_eq_true, decide_eq_true_eq, Bool.or_false]

theorem isForeign_ofNat {n : Nat} (foreign : isForeignCode n = true) :
    isForeign (Char.ofNat n) = true := by
  rw [isForeignCode_iff] at foreign
  have code : (Char.ofNat n).toNat = n := by
    rw [Char.ofNat, dif_pos (by unfold Nat.isValidChar; omega)]
    rfl
  simp only [isForeign, isBlank, code, Bool.and_eq_true, decide_eq_true_eq, Bool.not_eq_true',
    Bool.or_eq_false_iff, Bool.and_eq_false_iff, decide_eq_false_iff_not, beq_eq_false_iff_ne]
  omega

/-- The code point is one of a character that a word may begin with. -/
def beginsWordCode (n : Nat) : Bool := isForeignCode n || isNameStart (Char.ofNat n)

/-- The code point is one of a character that may stand in a word. -/
def continuesWordCode (n : Nat) : Bool := isForeignCode n || isNameChar (Char.ofNat n)

theorem beginsWord_ofNat {n : Nat} (begins : beginsWordCode n = true) :
    beginsWord (Char.ofNat n) = true := by
  rw [beginsWordCode, Bool.or_eq_true] at begins
  rw [beginsWord, Bool.or_eq_true]
  exact begins.symm.imp_right isForeign_ofNat

theorem continuesWord_ofNat {n : Nat} (continues : continuesWordCode n = true) :
    continuesWord (Char.ofNat n) = true := by
  rw [continuesWordCode, Bool.or_eq_true] at continues
  rw [continuesWord, Bool.or_eq_true]
  exact continues.symm.imp_right isForeign_ofNat

/-! ## Parts -/

/-- The digits of other scripts that stand for ASCII digits. -/
def foreignDigits : CodeRanges := [(0xFF10, 0xFF19), (0x1D7CE, 0x1D7FF), (0x1FBF0, 0x1FBF9)]

/-- The parts are those of a character of a word: only digits become digits. -/
def replaces (n : Nat) : List Nat → Bool
  | [] => false
  | m :: others =>
    (beginsWordCode m || continuesWordCode m && foreignDigits.any fun r => r.1 ≤ n && n ≤ r.2) &&
      others.all continuesWordCode

theorem continuesWord_of_replaces {n : Nat} {parts : List Nat} (checked : replaces n parts = true) :
    ∀ d ∈ parts.map Char.ofNat, continuesWord d = true := by
  cases parts with
  | nil => cases checked
  | cons m others =>
      rw [replaces, Bool.and_eq_true, Bool.or_eq_true, Bool.and_eq_true, List.all_eq_true] at checked
      rw [List.map_cons, List.forall_mem_cons, List.forall_mem_map]
      refine ⟨checked.1.elim (fun begins => ?_) (continuesWord_ofNat ·.1),
        fun k member => continuesWord_ofNat (checked.2 k member)⟩
      exact continuesWord_of_beginsWord (beginsWord_ofNat begins)

theorem wordLike_of_replaces {c : Char} {parts : List Nat} (checked : replaces c.toNat parts = true)
    (other : foreignDigits.contains c = false) : WordLike (parts.map Char.ofNat) := by
  cases parts with
  | nil => cases checked
  | cons m others =>
      rw [CodeRanges.contains] at other
      rw [replaces, other, Bool.and_false, Bool.or_false, Bool.and_eq_true, List.all_eq_true] at checked
      exact ⟨beginsWord_ofNat checked.1,
        List.forall_mem_map.mpr fun k member => continuesWord_ofNat (checked.2 k member)⟩

/-- The code points that a run covers are replaced soundly. -/
def isSoundRun (run : CodeRun) : Bool :=
  (List.range' run.first ((run.last - run.first) / run.step + 1) run.step).all fun n =>
    replaces n [((n : Int) + run.shift).toNat]

/-- **What the tables hold**, entry by entry. -/
structure TablesSound : Prop where
  runs : compatibilityRuns.all isSoundRun = true
  parts : (compatibilityParts.all fun p => replaces p.1 p.2) = true
  marks : (combiningClasses.all fun r => 0x80 ≤ r.1) = true
  composites : (compositions.all fun p => isForeignCode p.2.2) = true
  digits : identifierStartRanges.apart foreignDigits = true

theorem tablesSound : TablesSound := by
  have all : compatibilityRuns.all isSoundRun = true ∧
      (compatibilityParts.all fun p => replaces p.1 p.2) = true ∧
      (combiningClasses.all fun r => 0x80 ≤ r.1) = true ∧
      (compositions.all fun p => isForeignCode p.2.2) = true ∧
      identifierStartRanges.apart foreignDigits = true := by
    decide +kernel
  obtain ⟨runs, parts, marks, composites, digits⟩ := all
  exact ⟨runs, parts, marks, composites, digits⟩

theorem replaces_image {run : CodeRun} (member : run ∈ compatibilityRuns) {n m : Nat}
    (image : run.image? n = some m) : replaces n [m] = true := by
  rw [CodeRun.image?] at image
  split at image
  · next within =>
      cases image
      obtain ⟨first, last, step⟩ := within
      have turns := Nat.div_le_div_right (c := run.step) (Nat.sub_le_sub_right last run.first)
      have place := Nat.mul_div_cancel' (Nat.dvd_of_mod_eq_zero step)
      exact List.all_eq_true.mp (List.all_eq_true.mp tablesSound.runs run member) n
        (List.mem_range'.mpr ⟨(n - run.first) / run.step, by omega, by omega⟩)
  · cases image

theorem replaces_lookup {n : Nat} {parts : List Nat} (found : compatibilityParts.lookup n = some parts) :
    replaces n parts = true := by
  obtain ⟨front, back, whole, -⟩ := List.lookup_eq_some_iff.mp found
  exact List.all_eq_true.mp tablesSound.parts (n, parts) (by simp [whole])

theorem isForeign_syllableParts {c : Char} (syllable : 0xAC00 ≤ c.toNat ∧ c.toNat < 0xD7A4) :
    ∀ d ∈ (syllableParts c.toNat).map Char.ofNat, isForeign d = true := by
  rw [List.forall_mem_map]
  intro n member
  have bounds : 0x1100 ≤ n ∧ n < 0x1200 := by
    simp only [syllableParts, List.mem_append, List.mem_pair] at member
    rcases member with (rfl | rfl) | tail
    · omega
    · omega
    · split at tail
      · cases tail
      · rw [List.mem_singleton.mp tail]
        omega
  exact isForeign_ofNat (isForeignCode_iff.mpr (by omega))

/-- **The parts of a character** of a word. -/
theorem continuesWord_of_mem_decompose {c : Char} (continues : continuesWord c = true) :
    ∀ d ∈ decompose c, continuesWord d = true := by
  rw [decompose]
  split
  · exact List.forall_mem_singleton.mpr continues
  · split
    · next syllable =>
        exact fun d member => continuesWord_of_isForeign (isForeign_syllableParts syllable d member)
    · split
      · next image =>
          obtain ⟨run, member, image⟩ := List.exists_of_findSome?_eq_some image
          exact continuesWord_of_replaces (replaces_image member image)
      · split
        · next found => exact continuesWord_of_replaces (replaces_lookup found)
        · exact List.forall_mem_singleton.mpr continues

/-- A word begins with no foreign digit. -/
theorem wordLike_decompose {c : Char} (start : isWordStart c = true) : WordLike (decompose c) := by
  have begins : WordLike [c] := ⟨beginsWord_of_isWordStart start, by simp⟩
  rw [decompose]
  split
  · exact begins
  · next wide =>
      rw [isWordStart, if_neg wide] at start
      have other := CodeRanges.not_contains_of_apart tablesSound.digits start
      split
      · next syllable =>
          have foreign := isForeign_syllableParts syllable
          rw [syllableParts, List.cons_append, List.map_cons, List.forall_mem_cons] at foreign
          exact ⟨beginsWord_of_isForeign foreign.1, fun d member =>
            continuesWord_of_isForeign (foreign.2 d member)⟩
      · split
        · next image =>
            obtain ⟨run, member, image⟩ := List.exists_of_findSome?_eq_some image
            exact wordLike_of_replaces (replaces_image member image) other
        · split
          · next found => exact wordLike_of_replaces (replaces_lookup found) other
          · exact begins

/-! ## Marks in order -/

/-- A character with a class is no ASCII character. -/
theorem wide_of_combiningClass {c : Char} (mark : combiningClass c ≠ 0) : 0x80 ≤ c.toNat := by
  rw [combiningClass] at mark
  split at mark
  · next r found =>
      have first := List.all_eq_true.mp tablesSound.marks r (List.mem_of_find?_eq_some found)
      have inside := List.find?_some found
      rw [Bool.and_eq_true, decide_eq_true_eq] at inside
      exact (of_decide_eq_true first).trans inside.1
  · exact absurd rfl mark

theorem insertMark_perm (c : Char) (s : List Char) : (insertMark c s).Perm (c :: s) := by
  fun_induction insertMark c s with
  | case1 => exact .rfl
  | case2 d r passes ih => exact (ih.cons d).trans (.swap c d r)
  | case3 => exact .rfl

/-- **Marks are only permuted.** -/
theorem orderMarks_perm (s : List Char) : (orderMarks s).Perm s := by
  induction s with
  | nil => exact .rfl
  | cons c r ih => exact (insertMark_perm c _).trans (ih.cons c)

theorem WordLike.insertMark {c : Char} {s : List Char} (begins : beginsWord c = true)
    (others : ∀ d ∈ s, continuesWord d = true) : WordLike (insertMark c s) := by
  cases s with
  | nil => exact ⟨begins, others⟩
  | cons d r =>
      rw [Text.insertMark]
      split
      · next passes =>
          -- what stays in front is a mark, so it lies beyond ASCII and a word may begin with it
          obtain ⟨first, rest⟩ := List.forall_mem_cons.mp others
          refine ⟨beginsWord_of_isForeign (isForeign_of_wide first (wide_of_combiningClass passes.1)),
            fun e member => ?_⟩
          rcases List.mem_cons.mp ((insertMark_perm c r).subset member) with rfl | member
          · exact continuesWord_of_beginsWord begins
          · exact rest e member
      · exact ⟨begins, others⟩

theorem WordLike.orderMarks {s : List Char} (wordLike : WordLike s) : WordLike (orderMarks s) := by
  cases s with
  | nil => exact wordLike.elim
  | cons c r =>
      exact .insertMark wordLike.1 fun d member => wordLike.2 d ((orderMarks_perm r).subset member)

/-! ## Composition -/

theorem isForeign_of_composed? {a b c : Char} (composite : composed? a b = some c) :
    isForeign c = true := by
  rw [composed?] at composite
  split_ifs at composite with jamo closed
  · rw [← Option.some.inj composite]
    exact isForeign_ofNat (isForeignCode_iff.mpr (by omega))
  · rw [← Option.some.inj composite]
    exact isForeign_ofNat (isForeignCode_iff.mpr (by omega))
  · obtain ⟨p, found, rfl⟩ := Option.map_eq_some_iff.mp composite
    exact isForeign_ofNat
      (List.all_eq_true.mp tablesSound.composites p (List.mem_of_find?_eq_some found))

theorem continuesWord_of_mem_composeFrom {starter : Char} {between s : List Char}
    (front : ∀ c ∈ starter :: between, continuesWord c = true)
    (others : ∀ c ∈ s, continuesWord c = true) :
    ∀ c ∈ composeFrom starter between s, continuesWord c = true := by
  -- the marks between are kept in reverse, which no membership tells
  have same (starter : Char) (between : List Char) :
      ∀ c ∈ starter :: between.reverse, c ∈ starter :: between := by simp
  induction s generalizing starter between with
  | nil => exact fun c member => front c (same starter between c member)
  | cons c r ih =>
      obtain ⟨next, rest⟩ := List.forall_mem_cons.mp others
      obtain ⟨first, marks⟩ := List.forall_mem_cons.mp front
      rw [composeFrom]
      split
      · next composite found =>
          split at found
          · cases found
          · have composed := continuesWord_of_isForeign (isForeign_of_composed? found)
            exact ih (List.forall_mem_cons.mpr ⟨composed, marks⟩) rest
      · split
        · exact List.forall_mem_append.mpr ⟨fun d member => front d (same starter between d member),
            ih (List.forall_mem_singleton.mpr next) rest⟩
        · exact ih (List.forall_mem_cons.mpr ⟨first, List.forall_mem_cons.mpr ⟨next, marks⟩⟩) rest

theorem WordLike.composeFrom {starter : Char} {between s : List Char}
    (begins : beginsWord starter = true) (marks : ∀ c ∈ between, continuesWord c = true)
    (others : ∀ c ∈ s, continuesWord c = true) : WordLike (composeFrom starter between s) := by
  have front {starter : Char} (begins : beginsWord starter = true) {between : List Char}
      (marks : ∀ c ∈ between, continuesWord c = true) : WordLike (starter :: between.reverse) :=
    ⟨begins, fun c member => marks c (List.mem_reverse.mp member)⟩
  induction s generalizing starter between with
  | nil => exact front begins marks
  | cons c r ih =>
      obtain ⟨next, rest⟩ := List.forall_mem_cons.mp others
      rw [Text.composeFrom]
      split
      · next composite found =>
          split at found
          · cases found
          · exact ih (beginsWord_of_isForeign (isForeign_of_composed? found)) marks rest
      · split
        · exact (front begins marks).append
            (continuesWord_of_mem_composeFrom (List.forall_mem_singleton.mpr next) rest)
        · exact ih begins (List.forall_mem_cons.mpr ⟨next, marks⟩) rest

/-- **The normal form of a word is like a word.** -/
theorem wordLike_normalForm {s : List Char} (word : isWord s = true) : WordLike (normalForm s) := by
  cases s with
  | nil => cases word
  | cons c r =>
      rw [isWord, Bool.and_eq_true, List.all_eq_true] at word
      have parts : WordLike ((c :: r).flatMap decompose) := by
        refine (wordLike_decompose word.1).append fun d member => ?_
        obtain ⟨e, among, part⟩ := List.mem_flatMap.mp member
        exact continuesWord_of_mem_decompose (continuesWord_of_isWordPart (word.2 e among)) d part
      have ordered := parts.orderMarks
      rw [normalForm]
      cases whole : orderMarks ((c :: r).flatMap decompose) with
      | nil => rw [whole] at ordered; exact ordered
      | cons d others =>
          rw [whole] at ordered
          exact .composeFrom ordered.1 (List.forall_mem_nil _) ordered.2

theorem wordLike_normalized {s : String} (word : isWord s.toList = true) :
    WordLike (normalized s).toList := by
  rw [normalized]
  split
  · exact .of_isWord word
  · rw [String.toList_ofList]
    exact wordLike_normalForm word

end Narrowing.Text
