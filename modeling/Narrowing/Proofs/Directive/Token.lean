import Narrowing.Directive.Item
import Narrowing.Proofs.Directive.Unescaped
import Narrowing.Proofs.Results
import Narrowing.Proofs.Text

/-!
# The tokens of a text

`Token.scan` reads a text from left to right.  Every later result about directive
texts needs it in two directions only, and this module states both of them as
equations, so that no other module unfolds the scanner:

* forwards, blanks are skipped (`scan_append_blanks`), the spelling of a lexeme is
  read as that lexeme (`scan_append_spelling`), and a text is read in two parts
  (`scan_append`);
* backwards, a text without tokens is blank (`scan_eq_ok_nil_iff`), a text with a
  first token is blanks, the spelling of that token and a rest that is read as the
  other tokens (`scan_eq_ok_cons_iff`), and a text that fails is a part with tokens in
  front of a place where no token starts (`scan_eq_error_iff`).

### Strings

What the body of a string may be and what it stands for is one relation, `Escaped`.
It is said character by character and mentions neither the search for the closing
quote nor the removal of the backslashes; `splitQuoted` and `unescape` are shown to
compute its two sides.

### Names

A name is only read as a whole when the rest does not continue it
(`Lexeme.EndsBefore`).  That is the one condition on what follows a lexeme.  For two
parts of a text it reads `Parted`: without it the first part would end in a token that
the whole text does not have.
-/

namespace Narrowing.Directive

open Text

/-! ## The body of a string -/

/-- **How the body of a string is written**, between two of the given quotes, and the text it
stands for: the quote and the backslash stand behind a backslash, and any other character may. -/
inductive Escaped (quote : Char) : List Char → List Char → Prop
  | nil : Escaped quote [] []
  | plain {c : Char} {body text : List Char} (unquoted : c ≠ quote) (unescaped : c ≠ '\\')
      (rest : Escaped quote body text) : Escaped quote (c :: body) (c :: text)
  | escape {c : Char} {body text : List Char} (rest : Escaped quote body text) :
      Escaped quote ('\\' :: c :: body) (c :: text)

theorem unescape_cons_of_ne {c : Char} (unescaped : c ≠ '\\') (r : List Char) :
    unescape (c :: r) = c :: unescape r := by
  cases r with
  | nil => rfl
  | cons d r => rw [unescape, if_neg unescaped]

/-- A string stands for what its body was written from. -/
theorem Escaped.unescape_eq {quote : Char} {body text : List Char}
    (escaped : Escaped quote body text) : unescape body = text := by
  induction escaped with
  | nil => rfl
  | plain _ unescaped _ ih => rw [unescape_cons_of_ne unescaped, ih]
  | escape _ ih => rw [unescape, if_pos rfl, ih]

theorem ne_backslash_of_isQuote {quote : Char} (quoted : isQuote quote = true) :
    quote ≠ '\\' := by
  rintro rfl
  exact absurd quoted (by decide)

theorem not_isBlank_of_isQuote {quote : Char} (quoted : isQuote quote = true) :
    isBlank quote = false := by
  simp only [isQuote, Bool.or_eq_true, beq_iff_eq] at quoted
  rcases quoted with rfl | rfl <;> decide

theorem not_isNameChar_of_isQuote {quote : Char} (quoted : isQuote quote = true) :
    isNameChar quote = false := by
  simp only [isQuote, Bool.or_eq_true, beq_iff_eq] at quoted
  rcases quoted with rfl | rfl <;> decide

/-- The closing quote is found behind the body. -/
theorem Escaped.splitQuoted_append {quote : Char} (quoted : isQuote quote = true)
    {body text : List Char} (escaped : Escaped quote body text) (rest : List Char) :
    splitQuoted quote (body ++ quote :: rest) = some (body, rest) := by
  induction escaped with
  | nil =>
      rw [List.nil_append, splitQuoted.eq_def]
      exact if_pos rfl
  | plain unquoted unescaped _ ih =>
      rw [List.cons_append, splitQuoted.eq_def]
      simp only [if_neg unquoted, if_neg unescaped, ih, Option.map_some]
  | escape _ ih =>
      rw [List.cons_append, List.cons_append, splitQuoted.eq_def]
      simp only [if_neg (ne_backslash_of_isQuote quoted).symm, if_pos, ih, Option.map_some]

/-- What stands before the closing quote that is found is the body of a string. -/
theorem escaped_of_splitQuoted {quote : Char} {s body rest : List Char}
    (h : splitQuoted quote s = some (body, rest)) :
    s = body ++ quote :: rest ∧ Escaped quote body (unescape body) := by
  fun_induction splitQuoted quote s generalizing body rest with
  | case1 => cases h
  | case2 r =>
      cases h
      exact ⟨rfl, .nil⟩
  | case3 => cases h
  | case4 d r _ ih =>
      obtain ⟨⟨body, rest⟩, found, same⟩ := Option.map_eq_some_iff.mp h
      cases same
      obtain ⟨rfl, escaped⟩ := ih found
      rw [unescape, if_pos rfl]
      exact ⟨rfl, .escape escaped⟩
  | case5 c r unquoted unescaped ih =>
      obtain ⟨⟨body, rest⟩, found, same⟩ := Option.map_eq_some_iff.mp h
      cases same
      obtain ⟨rfl, escaped⟩ := ih found
      rw [unescape_cons_of_ne unescaped]
      exact ⟨rfl, .plain unquoted unescaped escaped⟩

/-! ## Lexemes -/

namespace Lexeme

/-- **The lexemes that a text can have**: the body of a string is written between quotes, and a
name is an identifier. -/
inductive Proper : Lexeme → Prop
  | string {quote : Char} {body text : List Char} (quoted : isQuote quote = true)
      (escaped : Escaped quote body text) : Proper (.string quote body)
  | name {chars : List Char} (identifier : isIdentifier chars = true) : Proper (.name chars)
  | equals : Proper .equals
  | comma : Proper .comma

/-- The lexeme is not continued by the text behind it, as only a name could be. -/
def EndsBefore (rest : List Char) : Lexeme → Prop
  | .name _ => ∀ c ∈ rest.head?, isNameChar c = false
  | _ => True

/-- Some lexeme begins with the character. -/
def Begins (c : Char) : Prop := ∃ l : Lexeme, l.Proper ∧ c ∈ l.spelling.head?

/-- **The characters that lexemes begin with**: quotes, letters, the underscore and the marks. -/
theorem begins_iff {c : Char} :
    Begins c ↔ isQuote c = true ∨ isNameStart c = true ∨ c = '=' ∨ c = ',' := by
  constructor
  · rintro ⟨l, proper, first⟩
    cases proper with
    | string quoted =>
        cases first
        exact .inl quoted
    | @name chars identifier =>
        cases chars with
        | nil => cases first
        | cons d r =>
            cases first
            rw [isIdentifier, Bool.and_eq_true] at identifier
            exact .inr (.inl identifier.1)
    | equals =>
        cases first
        exact .inr (.inr (.inl rfl))
    | comma =>
        cases first
        exact .inr (.inr (.inr rfl))
  · rintro (quoted | start | rfl | rfl)
    · exact ⟨.string c [], .string quoted .nil, rfl⟩
    · exact ⟨.name [c], .name (by rw [isIdentifier, start]; rfl), rfl⟩
    · exact ⟨.equals, .equals, rfl⟩
    · exact ⟨.comma, .comma, rfl⟩

/-- A lexeme is blank neither at its first character nor at its last. -/
theorem Proper.visible_ends {l : Lexeme} (proper : l.Proper) :
    (∀ c ∈ l.spelling.head?, isBlank c = false) ∧
      ∀ c ∈ l.spelling.getLast?, isBlank c = false := by
  cases proper with
  | @string quote body _ quoted _ =>
      have visible := not_isBlank_of_isQuote quoted
      rw [spelling, List.getLast?_concat, List.cons_append, List.head?_cons]
      simpa using visible
  | @name chars identifier =>
      have visible (c : Char) (member : c ∈ chars) : isBlank c = false :=
        isBlank_of_isNameChar (isNameChar_of_isIdentifier identifier c member)
      exact ⟨fun c first => visible c (List.mem_of_mem_head? first),
        fun c last => visible c (List.mem_of_mem_getLast? last)⟩
  | equals | comma => simp [spelling, isBlank]

end Lexeme

/-! ## Texts side by side -/

/-- No name goes over from the one text into the other. -/
def Parted (front back : List Char) : Prop :=
  ∀ c ∈ front.getLast?, ∀ d ∈ back.head?, isNameChar c = true → isNameChar d = false

theorem parted_nil (back : List Char) : Parted [] back := by simp [Parted]

/-- Only the end of a text matters for what it is parted from. -/
theorem parted_append_left_iff {front : List Char} (nonempty : front ≠ []) (s back : List Char) :
    Parted (s ++ front) back ↔ Parted front back := by
  rw [Parted, Parted, List.getLast?_append, List.getLast?_eq_some_getLast nonempty, Option.some_or]

/-- Only the beginning of a text matters for what is parted from it. -/
theorem parted_append_right_iff {front : List Char} (nonempty : front ≠ []) (s back : List Char) :
    Parted s (front ++ back) ↔ Parted s front := by
  rw [Parted, Parted, List.head?_append, List.head?_eq_some_head nonempty, Option.some_or]

section Parts

variable {s front back : List Char}

/-- The end of a text is parted from what the text is parted from. -/
theorem Parted.of_append_left (parted : Parted (s ++ front) back) : Parted front back := by
  cases front with
  | nil => exact parted_nil back
  | cons c r => exact (parted_append_left_iff (List.cons_ne_nil c r) s back).mp parted

/-- What is parted from a text is parted from its beginning. -/
theorem Parted.of_append_right (parted : Parted s (front ++ back)) : Parted s front := by
  cases front with
  | nil => simp [Parted]
  | cons c r => exact (parted_append_right_iff (List.cons_ne_nil c r) s back).mp parted

/-- Of three texts the first two are parted from the last. -/
theorem Parted.append_left (parted : Parted front back) (joined : Parted s (front ++ back)) :
    Parted (s ++ front) back := by
  cases front with
  | nil => rwa [List.append_nil]
  | cons c r => exact (parted_append_left_iff (List.cons_ne_nil c r) s back).mpr parted

/-- Of three texts the first is parted from the last two. -/
theorem Parted.append_right (parted : Parted s front) (joined : Parted (s ++ front) back) :
    Parted s (front ++ back) := by
  cases front with
  | nil => rwa [List.append_nil] at joined
  | cons c r => exact (parted_append_right_iff (List.cons_ne_nil c r) s back).mpr parted

end Parts

/-- Blanks are parted from every text. -/
theorem parted_of_allBlank {gap : List Char} (blank : allBlank gap = true) (back : List Char) :
    Parted gap back := by
  intro c last d first name
  rw [allBlank, List.all_eq_true] at blank
  have visible := isBlank_of_isNameChar name
  rw [blank c (List.mem_of_mem_getLast? last)] at visible
  cases visible

/-- A lexeme is parted from a text exactly when the text does not continue it. -/
theorem Lexeme.Proper.parted_iff {l : Lexeme} (proper : l.Proper) {back : List Char} :
    Parted l.spelling back ↔ l.EndsBefore back := by
  cases proper with
  | @string quote body _ quoted _ =>
      have unnamed := not_isNameChar_of_isQuote quoted
      refine iff_of_true ?_ trivial
      rw [Parted, spelling, List.getLast?_concat]
      simp [unnamed]
  | @name chars identifier =>
      have nonempty := ne_nil_of_isIdentifier identifier
      have last := isNameChar_of_isIdentifier identifier _ (List.getLast_mem nonempty)
      rw [Parted, spelling, List.getLast?_eq_some_getLast nonempty, EndsBefore]
      simp [last]
  | equals | comma =>
      refine iff_of_true ?_ trivial
      simp [Parted, spelling, isNameChar]

namespace Token

/-! ## Reading forwards -/

/-- Blanks are skipped. -/
theorem scan_append_blanks {gap : List Char} (blank : allBlank gap = true) (column : Nat)
    (s : List Char) : scan column (gap ++ s) = scan (column + gap.length) s := by
  induction gap generalizing column with
  | nil => rfl
  | cons c r ih =>
      rw [allBlank, List.all_cons, Bool.and_eq_true] at blank
      rw [List.cons_append, scan, if_pos blank.1, ih blank.2, List.length_cons]
      congr 1
      omega

/-- **The spelling of a lexeme is read as that lexeme**, at the column where it starts. -/
theorem scan_append_spelling {l : Lexeme} (proper : l.Proper) {rest : List Char}
    (ends : l.EndsBefore rest) (column : Nat) :
    scan column (l.spelling ++ rest) =
      (scan (column + l.spelling.length) rest).map (⟨l, column⟩ :: ·) := by
  cases proper with
  | @string quote body text quoted escaped =>
      have visible := not_isBlank_of_isQuote quoted
      have found := escaped.splitQuoted_append quoted rest
      rw [Lexeme.spelling, List.append_assoc, List.cons_append, List.singleton_append, scan,
        visible, if_neg Bool.false_ne_true, if_pos quoted]
      split
      · next unclosed =>
          rw [found] at unclosed
          cases unclosed
      · next closed =>
          rw [found] at closed
          cases closed
          simp only [List.length_append, List.length_cons, List.length_nil]
          congr 2
  | @name chars identifier =>
      cases chars with
      | nil => cases identifier
      | cons c r =>
          rw [isIdentifier, Bool.and_eq_true, List.all_eq_true] at identifier
          obtain ⟨taken, dropped⟩ := takeWhile_dropWhile_append identifier.2 ends
          have unquoted : isQuote c = false := by
            rw [isQuote, Bool.or_eq_false_iff, beq_eq_false_iff_ne, beq_eq_false_iff_ne]
            constructor
            all_goals
              rintro rfl
              exact absurd identifier.1 (by decide)
          rw [Lexeme.spelling, List.cons_append, scan,
            isBlank_of_isNameChar (isNameChar_of_isNameStart identifier.1), unquoted,
            if_neg Bool.false_ne_true, if_neg Bool.false_ne_true, if_pos identifier.1, taken,
            dropped, List.length_cons]
          congr 2
          omega
  | equals =>
      rw [Lexeme.spelling, List.singleton_append, scan]
      rfl
  | comma =>
      rw [Lexeme.spelling, List.singleton_append, scan]
      rfl

/-- A comma is read in front of any text. -/
theorem scan_cons_comma (column : Nat) (s : List Char) :
    scan column (',' :: s) = (scan (column + 1) s).map (⟨.comma, column⟩ :: ·) := by
  have unbound : Lexeme.comma.EndsBefore s := trivial
  exact scan_append_spelling .comma unbound column

/-! ## Reading backwards -/

/-- One token and the text behind it, taken from the scanner's own cases. -/
theorem exists_of_scan {column : Nat} {s : List Char} {tokens : List Token}
    (h : scan column s = .ok tokens) :
    tokens = [] ∧ allBlank s = true ∨
      ∃ gap rest l others, s = gap ++ (l.spelling ++ rest) ∧ allBlank gap = true ∧
        l.Proper ∧ l.EndsBefore rest ∧ tokens = ⟨l, column + gap.length⟩ :: others ∧
        scan (column + gap.length + l.spelling.length) rest = .ok others := by
  fun_induction scan column s generalizing tokens with
  | case1 column =>
      cases h
      exact .inl ⟨rfl, rfl⟩
  | case2 column c r blank ih =>
      rcases ih h with ⟨rfl, rest⟩ | ⟨gap, rest, l, others, rfl, gapBlank, proper, ends, rfl, read⟩
      · exact .inl ⟨rfl, by rw [allBlank, List.all_cons, blank, ← allBlank, rest]; rfl⟩
      · have moved : column + (c :: gap).length = column + 1 + gap.length := by
          rw [List.length_cons]
          omega
        refine .inr ⟨c :: gap, rest, l, others, rfl, ?_, proper, ends, ?_, ?_⟩
        · rw [allBlank, List.all_cons, blank, ← allBlank, gapBlank]
          rfl
        · rw [moved]
        · rw [moved]
          exact read
  | case3 => cases h
  | case4 column c r _ quoted body rest split _ =>
      obtain ⟨others, read, rfl⟩ := map_eq_ok_iff.mp h
      obtain ⟨rfl, escaped⟩ := escaped_of_splitQuoted split
      refine .inr ⟨[], rest, .string c body, others, ?_, rfl, .string quoted escaped, trivial,
        rfl, ?_⟩
      · simp [Lexeme.spelling]
      · simpa [Lexeme.spelling, Nat.add_assoc] using read
  | case5 column c r _ _ start _ =>
      obtain ⟨others, read, rfl⟩ := map_eq_ok_iff.mp h
      have identifier := isIdentifier_cons_takeWhile start r
      have ends := isNameChar_of_mem_head?_dropWhile r
      refine .inr ⟨[], r.dropWhile isNameChar, .name (c :: r.takeWhile isNameChar), others, ?_,
        rfl, .name identifier, ends, rfl, ?_⟩
      · rw [Lexeme.spelling, List.cons_append, List.takeWhile_append_dropWhile]
        rfl
      · rw [Lexeme.spelling, List.length_nil, List.length_cons, Nat.add_zero,
          Nat.add_comm _ 1, ← Nat.add_assoc]
        exact read
  | case6 column r _ _ _ _ =>
      obtain ⟨others, read, rfl⟩ := map_eq_ok_iff.mp h
      exact .inr ⟨[], r, .equals, others, rfl, rfl, .equals, trivial, rfl, read⟩
  | case7 column r _ _ _ _ =>
      obtain ⟨others, read, rfl⟩ := map_eq_ok_iff.mp h
      exact .inr ⟨[], r, .comma, others, rfl, rfl, .comma, trivial, rfl, read⟩
  | case8 => cases h

/-- **A text has no tokens exactly when it is blank.** -/
theorem scan_eq_ok_nil_iff {column : Nat} {s : List Char} :
    scan column s = .ok [] ↔ allBlank s = true := by
  constructor
  · intro h
    rcases exists_of_scan h with ⟨-, blank⟩ | ⟨gap, rest, l, others, -, -, -, -, impossible, -⟩
    · exact blank
    · cases impossible
  · intro blank
    have read := scan_append_blanks blank column []
    rw [List.append_nil, scan] at read
    exact read

/-- **A text has a first token exactly when it is blanks, the spelling of that token and a rest
that has the other tokens.** -/
theorem scan_eq_ok_cons_iff {column : Nat} {s : List Char} {t : Token} {ts : List Token} :
    scan column s = .ok (t :: ts) ↔
      ∃ gap rest, s = gap ++ (t.lexeme.spelling ++ rest) ∧ allBlank gap = true ∧
        t.lexeme.Proper ∧ t.lexeme.EndsBefore rest ∧ t.column = column + gap.length ∧
        scan (t.column + t.lexeme.spelling.length) rest = .ok ts := by
  constructor
  · intro h
    rcases exists_of_scan h with ⟨impossible, -⟩ | ⟨gap, rest, l, others, whole, blank, proper,
      ends, same, read⟩
    · cases impossible
    · cases same
      exact ⟨gap, rest, whole, blank, proper, ends, rfl, read⟩
  · rintro ⟨gap, rest, rfl, blank, proper, ends, placed, read⟩
    obtain ⟨l, place⟩ := t
    dsimp only at proper ends placed read
    subst placed
    rw [scan_append_blanks blank, scan_append_spelling proper ends, read]
    rfl

/-- **A text is read in two parts** wherever no name goes over from one into the other and the
first part has tokens. -/
theorem scan_append {column : Nat} {front : List Char} {tokens : List Token}
    (read : scan column front = .ok tokens) {back : List Char} (parted : Parted front back) :
    scan column (front ++ back) = (scan (column + front.length) back).map (tokens ++ ·) := by
  induction tokens generalizing column front with
  | nil =>
      rw [scan_append_blanks (scan_eq_ok_nil_iff.mp read)]
      exact (map_id _).symm
  | cons t ts ih =>
      obtain ⟨gap, rest, rfl, blank, proper, ends, placed, read⟩ := scan_eq_ok_cons_iff.mp read
      obtain ⟨l, place⟩ := t
      dsimp only at proper ends placed read
      subst placed
      have ends : l.EndsBefore (rest ++ back) := by
        rw [← proper.parted_iff] at ends ⊢
        exact ends.append_right parted.of_append_left
      have later := ih read parted.of_append_left.of_append_left
      rw [List.append_assoc, List.append_assoc, scan_append_blanks blank,
        scan_append_spelling proper ends, later, map_map, List.length_append, List.length_append,
        Nat.add_assoc, Nat.add_assoc]
      rfl

/-! ## Where reading halts -/

/-- **No token starts at the front of a text**, and what is reported about it: the quote there is
never closed, or no lexeme begins with the character there, which is not blank either. -/
inductive Stuck (column : Nat) : List Char → LexicalFault → Prop
  | unterminated {quote : Char} {rest : List Char} (quoted : isQuote quote = true)
      (unclosed : unescaped quote rest = ∅) : Stuck column (quote :: rest) (.unterminated column)
  | unexpected {c : Char} {rest : List Char} (visible : isBlank c = false)
      (alien : ¬ Lexeme.Begins c) : Stuck column (c :: rest) (.unexpected c column)

theorem Stuck.ne_nil {column : Nat} {s : List Char} {fault : LexicalFault}
    (stuck : Stuck column s fault) : s ≠ [] := by
  cases stuck with
  | unterminated | unexpected => exact List.cons_ne_nil _ _

theorem Stuck.scan_eq {column : Nat} {s : List Char} {fault : LexicalFault}
    (stuck : Stuck column s fault) : scan column s = .error fault := by
  cases stuck with
  | @unterminated quote rest quoted unclosed =>
      rw [← splitQuoted_eq_none_iff] at unclosed
      rw [scan, not_isBlank_of_isQuote quoted, if_neg Bool.false_ne_true, if_pos quoted]
      split
      · rfl
      · next closed =>
          rw [unclosed] at closed
          cases closed
  | @unexpected c rest visible alien =>
      simp only [Lexeme.begins_iff, not_or, Bool.not_eq_true] at alien
      obtain ⟨unquoted, unnamed, notEquals, notComma⟩ := alien
      rw [scan, visible, unquoted, unnamed, if_neg Bool.false_ne_true, if_neg Bool.false_ne_true,
        if_neg Bool.false_ne_true, if_neg notEquals, if_neg notComma]

/-- What is wrong at the front of a text is wrong at the front of every part that begins there. -/
theorem Stuck.of_append {column : Nat} {s t : List Char} {fault : LexicalFault}
    (nonempty : s ≠ []) (stuck : Stuck column (s ++ t) fault) : Stuck column s fault := by
  obtain ⟨c, r, rfl⟩ := List.exists_cons_of_ne_nil nonempty
  cases stuck with
  | unterminated quoted unclosed =>
      exact .unterminated quoted (Set.subset_eq_empty (unescaped_subset_append r t) unclosed)
  | unexpected visible alien => exact .unexpected visible alien

/-- **Reading halts between two parts of a text**: the first has tokens, no name goes over from it
into the second, and no token starts there. -/
structure HaltsBetween (column : Nat) (front rest : List Char) (fault : LexicalFault) : Prop where
  tokens : ∃ tokens, scan column front = .ok tokens
  parted : Parted front rest
  stuck : Stuck (column + front.length) rest fault

/-- What reading halts at stays there when the text ends earlier behind that place. -/
theorem HaltsBetween.of_append {column : Nat} {front rest t : List Char} {fault : LexicalFault}
    (nonempty : rest ≠ []) (halts : HaltsBetween column front (rest ++ t) fault) :
    HaltsBetween column front rest fault :=
  ⟨halts.tokens, halts.parted.of_append_right, halts.stuck.of_append nonempty⟩

/-- What reading halts at is reported. -/
theorem HaltsBetween.scan_eq {column : Nat} {front rest : List Char} {fault : LexicalFault}
    (halts : HaltsBetween column front rest fault) :
    scan column (front ++ rest) = .error fault := by
  obtain ⟨⟨tokens, read⟩, parted, stuck⟩ := halts
  rw [scan_append read parted, stuck.scan_eq]
  rfl

/-- **Reading halts somewhere in a text.** -/
def Halts (column : Nat) (s : List Char) (fault : LexicalFault) : Prop :=
  ∃ front rest, s = front ++ rest ∧ HaltsBetween column front rest fault

/-- Reading halts at once where no token starts. -/
theorem Stuck.halts {column : Nat} {s : List Char} {fault : LexicalFault}
    (stuck : Stuck column s fault) : Halts column s fault :=
  ⟨[], s, rfl, ⟨[], scan_eq_ok_nil_iff.mpr rfl⟩, parted_nil s, stuck⟩

/-- Reading goes on behind a blank. -/
theorem Halts.cons_blank {column : Nat} {s : List Char} {fault : LexicalFault}
    (halts : Halts (column + 1) s fault) {c : Char} (blank : isBlank c = true) :
    Halts column (c :: s) fault := by
  obtain ⟨front, rest, rfl, ⟨tokens, read⟩, parted, stuck⟩ := halts
  refine ⟨c :: front, rest, rfl, ⟨tokens, by rw [scan, if_pos blank, read]⟩, ?_, ?_⟩
  · have gap : allBlank [c] = true := by simpa [allBlank] using blank
    exact parted.append_left (parted_of_allBlank gap _)
  · rw [List.length_cons, Nat.add_comm front.length, ← Nat.add_assoc]
    exact stuck

/-- Reading goes on behind a lexeme. -/
theorem Halts.append_spelling {l : Lexeme} {column : Nat} {s : List Char} {fault : LexicalFault}
    (halts : Halts (column + l.spelling.length) s fault) (proper : l.Proper)
    (ends : l.EndsBefore s) : Halts column (l.spelling ++ s) fault := by
  obtain ⟨front, rest, rfl, ⟨tokens, read⟩, parted, stuck⟩ := halts
  rw [← proper.parted_iff] at ends
  refine ⟨l.spelling ++ front, rest, (List.append_assoc _ _ _).symm, ⟨⟨l, column⟩ :: tokens, ?_⟩,
    parted.append_left ends, ?_⟩
  · rw [scan_append_spelling proper (proper.parted_iff.mp ends.of_append_right), read]
    rfl
  · rw [List.length_append, ← Nat.add_assoc]
    exact stuck

/-- **A text fails exactly when reading halts somewhere in it.** -/
theorem scan_eq_error_iff {column : Nat} {s : List Char} {fault : LexicalFault} :
    scan column s = .error fault ↔ Halts column s fault := by
  constructor
  · intro h
    fun_induction scan column s with
    | case1 => cases h
    | case2 column c r blank ih => exact (ih h).cons_blank blank
    | case3 column c r _ quoted unclosed =>
        cases h
        exact (Stuck.unterminated quoted (splitQuoted_eq_none_iff.mp unclosed)).halts
    | case4 column c r _ quoted body rest split ih =>
        obtain ⟨rfl, escaped⟩ := escaped_of_splitQuoted split
        have halts := ih (map_eq_error_iff.mp h)
        have whole : c :: (body ++ c :: rest) = (Lexeme.string c body).spelling ++ rest := by
          simp [Lexeme.spelling]
        have length :
            column + body.length + 2 = column + (Lexeme.string c body).spelling.length := by
          simp [Lexeme.spelling, Nat.add_assoc]
        rw [length] at halts
        rw [whole]
        exact halts.append_spelling (.string quoted escaped) trivial
    | case5 column c r _ _ start ih =>
        have halts := ih (map_eq_error_iff.mp h)
        have identifier := isIdentifier_cons_takeWhile start r
        have ends := isNameChar_of_mem_head?_dropWhile r
        have whole : c :: r =
            (Lexeme.name (c :: r.takeWhile isNameChar)).spelling ++ r.dropWhile isNameChar := by
          rw [Lexeme.spelling, List.cons_append, List.takeWhile_append_dropWhile]
        rw [Nat.add_assoc, Nat.add_comm 1, ← List.length_cons] at halts
        rw [whole]
        exact halts.append_spelling (.name identifier) ends
    | case6 column r _ _ _ ih =>
        exact (ih (map_eq_error_iff.mp h)).append_spelling .equals trivial
    | case7 column r _ _ _ _ ih =>
        exact (ih (map_eq_error_iff.mp h)).append_spelling .comma trivial
    | case8 column c r visible unquoted unnamed notEquals notComma =>
        cases h
        rw [Bool.not_eq_true] at visible
        exact (Stuck.unexpected visible (by simp_all [Lexeme.begins_iff])).halts
  · rintro ⟨front, rest, rfl, halts⟩
    exact halts.scan_eq

end Token

end Narrowing.Directive
