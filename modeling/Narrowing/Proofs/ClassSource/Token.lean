import Mathlib.Data.List.Infix
import Narrowing.ClassSource.Token
import Narrowing.Proofs.Directive.Token

/-!
# Tokens on a text

The tokens of a module are cut from its text one behind the other.  `Cut` says so
without the scanner: a text is a gap, the characters of a token and the text that the
other tokens are cut from, and the positions of the token are where its characters
stand.

* A gap is blank, or its first visible character begins a comment or joins two lines
  (`IsGap`).
* What the characters of a token can be depends on its kind and on what stands behind
  them (`Lexed`).  A name is a whole word that nothing continues, and a string is what
  the scanner of strings takes.
* Tokens that only mark the layout have no characters.

The scanner's own steps are followed once, in `cut_of_step`; the depth of brackets and
the indentation do not matter for it.

## Main statements

* `cut_of_tokensOf?` — the tokens of a module are cut from its text
-/

namespace Narrowing.ClassSource

open Reading Text

/-! ## Gaps -/

/-- **The text between two tokens**: if anything is visible in it, it begins a comment or joins two
lines. -/
def IsGap (s : List Char) : Prop := ∀ c ∈ s.find? (fun c => !isBlank c), c = '#' ∨ c = '\\'

theorem isGap_nil : IsGap [] := by simp [IsGap]

theorem IsGap.append {s t : List Char} (first : IsGap s) (second : IsGap t) : IsGap (s ++ t) := by
  intro c found
  rw [List.find?_append] at found
  cases visible : s.find? (fun c => !isBlank c) with
  | none =>
      rw [visible, Option.none_or] at found
      exact second c found
  | some d =>
      rw [visible, Option.some_or] at found
      exact first c (visible ▸ found)

theorem isGap_of_allBlank {s : List Char} (blank : allBlank s = true) : IsGap s := by
  intro c found
  have visible := List.find?_some found
  rw [List.all_eq_true.mp blank c (List.mem_of_find?_eq_some found)] at visible
  cases visible

theorem isGap_cons {c : Char} (begins : c = '#' ∨ c = '\\') (s : List Char) : IsGap (c :: s) := by
  have visible : isBlank c = false := by
    rcases begins with rfl | rfl <;> decide
  intro d found
  rw [List.find?_cons_of_pos (by simp [visible])] at found
  cases found
  exact begins

theorem isBlank_of_isLineBlank {c : Char} (blank : isLineBlank c = true) : isBlank c = true := by
  simp only [isLineBlank, Bool.or_eq_true, beq_iff_eq] at blank
  rcases blank with (rfl | rfl) | rfl <;> decide

/-- A line break is blank. -/
theorem exists_of_afterLineBreak? {s rest : List Char} (h : afterLineBreak? s = some rest) :
    ∃ taken, s = taken ++ rest ∧ allBlank taken = true := by
  unfold afterLineBreak? at h
  split at h
  · cases h
    exact ⟨['\r', '\n'], rfl, rfl⟩
  · cases h
    exact ⟨['\r'], rfl, rfl⟩
  · cases h
    exact ⟨['\n'], rfl, rfl⟩
  · cases h

/-- An indentation is a gap. -/
theorem exists_of_measureIndent {indent line : Indent} {pinned : Nat} {s rest : List Char}
    (h : measureIndent indent pinned s = some (line, rest)) : ∃ gap, s = gap ++ rest ∧ IsGap gap := by
  fun_induction measureIndent indent pinned s with
  | case1 indent pinned r ih =>
      obtain ⟨gap, rfl, isGap⟩ := ih h
      exact ⟨' ' :: gap, rfl, (isGap_of_allBlank (s := [' ']) rfl).append isGap⟩
  | case2 indent pinned r ih =>
      obtain ⟨gap, rfl, isGap⟩ := ih h
      exact ⟨'\t' :: gap, rfl, (isGap_of_allBlank (s := ['\t']) rfl).append isGap⟩
  | case3 indent pinned r ih =>
      obtain ⟨gap, rfl, isGap⟩ := ih h
      exact ⟨'\x0c' :: gap, rfl, (isGap_of_allBlank (s := ['\x0c']) rfl).append isGap⟩
  | case8 indent pinned r _ ih =>
      obtain ⟨gap, rfl, -⟩ := ih h
      exact ⟨_, rfl, isGap_cons (.inr rfl) ('\r' :: '\n' :: gap)⟩
  | case9 indent pinned r _ _ _ ih =>
      obtain ⟨gap, rfl, -⟩ := ih h
      exact ⟨_, rfl, isGap_cons (.inr rfl) ('\r' :: gap)⟩
  | case10 indent pinned r _ ih =>
      obtain ⟨gap, rfl, -⟩ := ih h
      exact ⟨_, rfl, isGap_cons (.inr rfl) ('\n' :: gap)⟩
  | case12 =>
      cases h
      exact ⟨[], rfl, isGap_nil⟩
  | case4 | case5 | case6 | case7 | case11 => cases h

/-! ## Literals -/

theorem suffix_of_scanDigits {isDigit : Char → Bool} {s rest : List Char}
    (h : scanDigits isDigit s = some rest) : rest <:+ s := by
  fun_induction scanDigits isDigit s with
  | case1 =>
      cases h
      exact List.suffix_rfl
  | case3 d r _ ih => exact ((ih h).trans (List.suffix_cons d r)).trans (List.suffix_cons _ _)
  | case5 c r _ _ _ ih => exact (ih h).trans (List.suffix_cons c r)
  | case6 =>
      cases h
      exact List.suffix_rfl
  | case2 | case4 => cases h

theorem suffix_of_scanImaginary {s rest : List Char} (h : scanImaginary s = some rest) :
    rest <:+ s := by
  simp only [scanImaginary, Option.ite_none_right_eq_some] at h
  obtain ⟨-, same⟩ := h
  cases same
  split
  · exact List.suffix_cons _ _
  · exact List.suffix_cons _ _
  · exact List.suffix_rfl

/-- What stands behind the digits of a number and what follows them. -/
theorem suffix_of_scanDigits_bind {isDigit : Char → Bool} {next : List Char → Option (List Char)}
    (suffix : ∀ {s rest}, next s = some rest → rest <:+ s) {s rest : List Char}
    (h : (scanDigits isDigit s).bind next = some rest) : rest <:+ s := by
  obtain ⟨middle, digits, others⟩ := Option.bind_eq_some_iff.mp h
  exact (suffix others).trans (suffix_of_scanDigits digits)

theorem suffix_of_scanExponent {s rest : List Char} (h : scanExponent s = some rest) :
    rest <:+ s := by
  have digits {r : List Char} (h : (scanDigits Char.isDigit r).bind scanImaginary = some rest) :
      rest <:+ r := suffix_of_scanDigits_bind suffix_of_scanImaginary h
  simp only [scanExponent] at h
  grind [suffix_of_scanImaginary, suffix_cons_of_suffix]

theorem suffix_of_scanFraction {s rest : List Char} (h : scanFraction s = some rest) :
    rest <:+ s := by
  have digits {r : List Char} (h : (scanDigits Char.isDigit r).bind scanExponent = some rest) :
      rest <:+ r := suffix_of_scanDigits_bind suffix_of_scanExponent h
  unfold scanFraction at h
  grind [suffix_of_scanExponent, suffix_cons_of_suffix]

theorem suffix_of_scanBased {isDigit : Char → Bool} {s rest : List Char}
    (h : scanBased isDigit s = some rest) : rest <:+ s := by
  have ends {s rest : List Char}
      (h : (if (s.head?.any Char.isDigit) || !endsNumber s then none else some s) = some rest) :
      rest <:+ s := by
    split at h
    · cases h
    · cases h
      exact List.suffix_rfl
  have digits {r : List Char} (h : (scanDigits isDigit r).bind (fun rest =>
      if (rest.head?.any Char.isDigit) || !endsNumber rest then none else some rest) = some rest) :
      rest <:+ r := suffix_of_scanDigits_bind ends h
  simp only [scanBased] at h
  grind [suffix_cons_of_suffix]

/-- **A number takes its first character** and a part of what stands behind it. -/
theorem suffix_of_scanNumber {c : Char} {r rest : List Char} (h : scanNumber (c :: r) = some rest) :
    rest <:+ r := by
  simp only [scanNumber] at h
  split at h
  case h_7 d r' _ _ _ _ _ _ same =>
    cases same
    obtain ⟨middle, digits, others⟩ := Option.bind_eq_some_iff.mp h
    refine List.IsSuffix.trans ?_ (suffix_of_scanDigits digits)
    grind [suffix_of_scanExponent, suffix_of_scanFraction, suffix_cons_of_suffix]
  case h_8 same => cases same
  all_goals
    next same =>
      cases same
      exact suffix_cons_of_suffix (suffix_of_scanBased h) _

/-- The quote that closes a string on one line is the first one that is not escaped. -/
theorem escaped_of_scanString {quote : Char} (quoted : Directive.isQuote quote = true)
    {s rest : List Char} (h : scanString quote false s = some rest) :
    ∃ body text, s = body ++ quote :: rest ∧ Directive.Escaped quote body text := by
  fun_induction scanString quote false s with
  | case1 => cases h
  | case2 r ih =>
      obtain ⟨body, text, rfl, escaped⟩ := ih h
      have feed : '\n' ≠ quote := by
        rintro rfl
        exact absurd quoted (by decide)
      exact ⟨_, _, rfl, .escape (.plain feed (by decide) escaped)⟩
  | case3 c r _ ih =>
      obtain ⟨body, text, rfl, escaped⟩ := ih h
      exact ⟨_, _, rfl, .escape escaped⟩
  | case6 =>
      cases h
      exact ⟨[], [], rfl, .nil⟩
  | case8 c r _ _ _ unquoted plain ih =>
      obtain ⟨body, text, rfl, escaped⟩ := ih h
      rw [not_or, not_or] at plain
      exact ⟨_, _, rfl, .plain unquoted plain.2.2 escaped⟩
  | case4 | case5 => contradiction
  | case7 => cases h

theorem suffix_of_scanString {quote : Char} {triple : Bool} {s rest : List Char}
    (h : scanString quote triple s = some rest) : rest <:+ s := by
  fun_induction scanString quote triple s with
  | case1 | case7 => cases h
  | case2 r ih => exact suffix_cons_of_suffix (suffix_cons_of_suffix (suffix_cons_of_suffix (ih h) _) _) _
  | case3 c r _ ih => exact suffix_cons_of_suffix (suffix_cons_of_suffix (ih h) _) _
  | case4 c r =>
      cases h
      exact suffix_cons_of_suffix (List.drop_suffix 2 r) c
  | case5 c r _ _ _ _ ih | case8 c r _ _ _ _ _ ih => exact suffix_cons_of_suffix (ih h) c
  | case6 r =>
      cases h
      exact List.suffix_cons quote rest

/-- **What stands behind the opening quote of a string**: its body and the closing quote, or two more
quotes and whatever a triple string holds. -/
def IsQuotedRest (quote : Char) (s : List Char) : Prop :=
  (∃ body text, s = body ++ [quote] ∧ Directive.Escaped quote body text) ∨
    ∃ more, s = quote :: quote :: more

theorem exists_of_scanQuoted {quote : Char} (quoted : Directive.isQuote quote = true)
    {s rest : List Char} (h : scanQuoted (quote :: s) = some rest) :
    ∃ inside, s = inside ++ rest ∧ IsQuotedRest quote inside := by
  have single {s : List Char} (h : scanString quote false s = some rest) :
      ∃ inside, s = inside ++ rest ∧ IsQuotedRest quote inside := by
    obtain ⟨body, text, rfl, escaped⟩ := escaped_of_scanString quoted h
    exact ⟨body ++ [quote], by simp, .inl ⟨body, text, rfl, escaped⟩⟩
  unfold scanQuoted at h
  split at h
  · next a b c r same =>
      cases same
      split at h
      · next triple =>
          obtain ⟨rfl, rfl⟩ := triple
          obtain ⟨more, rfl⟩ := suffix_of_scanString h
          exact ⟨_ :: _ :: more, rfl, .inr ⟨more, rfl⟩⟩
      · exact single h
  · next same =>
      cases same
      exact single h
  · cases h

/-! ## Characters of a token -/

/-- **What the characters of a token can be**, by its kind and by what stands behind them. -/
inductive Lexed : TokenKind → List Char → List Char → Prop
  | name {word rest : List Char} (isWord : isWord word = true)
      (ends : ∀ c ∈ rest.head?, isNamePart c = false) : Lexed .name word rest
  | number {c : Char} (begins : c.isDigit = true ∨ c = '.') (r rest : List Char) :
      Lexed .number (c :: r) rest
  | string {letters inside : List Char} {quote : Char}
      (prefixed : letters = [] ∨ isStringPrefix letters = true)
      (quoted : Directive.isQuote quote = true) (isRest : IsQuotedRest quote inside)
      (rest : List Char) : Lexed .string (letters ++ quote :: inside) rest
  | mark {m : String} (member : m ∈ marks) (rest : List Char) : Lexed .mark m.toList rest
  | layout {kind : TokenKind} (kinds : kind ∈ [.newline, .indent, .dedent, .endOfSource])
      (rest : List Char) : Lexed kind [] rest

namespace Lexed

/-- The characters of a number. -/
theorem exists_of_number {c : Char} {r rest : List Char}
    (digits : c.isDigit = true ∨ c = '.' ∧ (r.head?.any Char.isDigit) = true)
    (scanned : (if c = '.' then scanFraction r else scanNumber (c :: r)) = some rest) :
    ∃ lexeme, c :: r = lexeme ++ rest ∧ Lexed .number lexeme rest := by
  have suffix : rest <:+ r := by
    split at scanned
    · exact suffix_of_scanFraction scanned
    · exact suffix_of_scanNumber scanned
  obtain ⟨taken, rfl⟩ := suffix
  exact ⟨c :: taken, rfl, .number (digits.imp_right And.left) taken rest⟩

/-- The characters of a string, with the letters in front of it. -/
theorem exists_of_string {letters s rest : List Char}
    (prefixed : letters = [] ∨ isStringPrefix letters = true)
    (quotes : s.head? = some '"' ∨ s.head? = some '\'') (scanned : scanQuoted s = some rest) :
    ∃ lexeme, letters ++ s = lexeme ++ rest ∧ Lexed .string lexeme rest := by
  obtain ⟨quote, s, rfl, quoted⟩ : ∃ quote r, s = quote :: r ∧ Directive.isQuote quote = true := by
    cases s with
    | nil => simp at quotes
    | cons quote r => exact ⟨quote, r, rfl, by simpa [Directive.isQuote] using quotes⟩
  obtain ⟨inside, rfl, isRest⟩ := exists_of_scanQuoted quoted scanned
  exact ⟨letters ++ quote :: inside, by simp, .string prefixed quoted isRest rest⟩

/-- The characters of a name: nothing behind them continues it. -/
theorem name_takeWhile {s : List Char} (isWord : isWord (s.takeWhile isNamePart) = true) :
    Lexed .name (s.takeWhile isNamePart) (s.dropWhile isNamePart) := by
  refine .name isWord fun d first => ?_
  have ends := List.head?_dropWhile_not isNamePart s
  rw [first] at ends
  simpa using ends

/-- The characters of a mark. -/
theorem exists_of_mark? {s : List Char} {m : String} (found : mark? s = some m) :
    ∃ lexeme, s = lexeme ++ s.drop m.length ∧ Lexed .mark lexeme (s.drop m.length) := by
  have begins := List.find?_some found
  obtain ⟨rest, rfl⟩ := List.isPrefixOf_iff_prefix.mp begins
  rw [← String.length_toList, List.drop_left]
  exact ⟨m.toList, rfl, .mark (List.mem_of_find?_eq_some found) rest⟩

end Lexed

/-- **Tokens are cut from a text** that ends at the given position: gaps and the characters of tokens
take turns. -/
inductive Cut (stop : Nat) : List Char → List Token → Prop
  | nil (s : List Char) : Cut stop s []
  | cons {gap lexeme rest : List Char} {kind : TokenKind} {ts : List Token} (isGap : IsGap gap)
      (lexed : Lexed kind lexeme rest) (others : Cut stop rest ts) :
      Cut stop (gap ++ (lexeme ++ rest))
        (⟨kind, String.ofList lexeme, stop - (lexeme ++ rest).length, stop - rest.length⟩ :: ts)

namespace Cut

variable {stop : Nat} {ts : List Token}

/-- A gap in front of a text belongs to the gap of its first token. -/
theorem append_gap {gap s : List Char} (isGap : IsGap gap) (cut : Cut stop s ts) :
    Cut stop (gap ++ s) ts := by
  cases cut with
  | nil => exact .nil _
  | cons isGap' lexed others =>
      rw [← List.append_assoc]
      exact .cons (isGap.append isGap') lexed others

/-- A token directly at the start of a text. -/
theorem append_lexeme {lexeme rest : List Char} {kind : TokenKind} (lexed : Lexed kind lexeme rest)
    (cut : Cut stop rest ts) :
    Cut stop (lexeme ++ rest)
      (⟨kind, String.ofList lexeme, stop - (lexeme ++ rest).length, stop - rest.length⟩ :: ts) :=
  .cons isGap_nil lexed cut

/-- Tokens of the layout take nothing. -/
theorem append_layout {s : List Char} {kinds : List TokenKind}
    (layout : ∀ k ∈ kinds, k ∈ [TokenKind.newline, .indent, .dedent, .endOfSource])
    (cut : Cut stop s ts) :
    Cut stop s (kinds.map (⟨·, "", stop - s.length, stop - s.length⟩) ++ ts) := by
  induction kinds with
  | nil => exact cut
  | cons k rest ih =>
      rw [List.forall_mem_cons] at layout
      exact append_lexeme (.layout layout.1 s) (ih layout.2)

end Cut

/-! ## The scanner -/

theorem layout_of_openLine {indents indents' : List Indent} {line : Indent} {kinds : List TokenKind}
    (h : openLine indents line = some (kinds, indents')) :
    ∀ k ∈ kinds, k ∈ [TokenKind.newline, .indent, .dedent, .endOfSource] := by
  simp only [openLine] at h
  grind

/-- A step that takes one token takes its characters from the text. -/
theorem Cut.append_token {stop : Nat} {lexeme rest : List Char} {kind : TokenKind}
    {ts : List Token} (lexed : Lexed kind lexeme rest) (cut : Cut stop rest ts) :
    Cut stop (lexeme ++ rest)
      (⟨kind, String.ofList ((lexeme ++ rest).take ((lexeme ++ rest).length - rest.length)),
        stop - (lexeme ++ rest).length, stop - rest.length⟩ :: ts) := by
  have taken : (lexeme ++ rest).take ((lexeme ++ rest).length - rest.length) = lexeme := by
    simp
  rw [taken]
  exact cut.append_lexeme lexed

/-- A comment is a gap. -/
theorem Cut.of_dropComment {stop : Nat} {r : List Char} {ts : List Token}
    (cut : Cut stop (dropComment ('#' :: r)) ts) : Cut stop ('#' :: r) ts := by
  have whole : '#' :: r = '#' :: r.takeWhile (fun c => !isBreakChar c) ++ dropComment ('#' :: r) := by
    rw [dropComment, List.dropWhile_cons_of_pos (by decide), List.cons_append,
      List.takeWhile_append_dropWhile]
  rw [whole]
  exact cut.append_gap (isGap_cons (.inl rfl) _)

/-- A line break is a gap. -/
theorem Cut.of_afterLineBreak? {stop : Nat} {s rest : List Char} {ts : List Token}
    (breaks : Text.afterLineBreak? s = some rest) (cut : Cut stop rest ts) : Cut stop s ts := by
  obtain ⟨taken, rfl, blank⟩ := exists_of_afterLineBreak? breaks
  exact cut.append_gap (isGap_of_allBlank blank)

/-- At a break character a line ends. -/
theorem exists_afterLineBreak? {c : Char} (breaks : isBreakChar c = true) (r : List Char) :
    ∃ rest, Text.afterLineBreak? (c :: r) = some rest := by
  simp only [isBreakChar, Bool.or_eq_true, beq_iff_eq] at breaks
  rcases breaks with rfl | rfl
  · exact ⟨r, rfl⟩
  · cases r with
    | nil => exact ⟨[], rfl⟩
    | cons d r =>
        by_cases feed : d = '\n'
        · subst feed
          exact ⟨r, rfl⟩
        · exact ⟨d :: r, by simp [Text.afterLineBreak?, feed]⟩

theorem cut_of_stepLine {stop : Nat} {layout : Layout} {s : List Char} {step : Step}
    (h : stepLine stop layout s = some step) {ts : List Token} (cut : Cut stop step.rest ts) :
    Cut stop s (step.found ++ ts) := by
  simp only [stepLine, Option.bind_eq_bind, Option.bind_eq_some_iff] at h
  obtain ⟨⟨indent, rest⟩, measured, h⟩ := h
  obtain ⟨gap, rfl, isGap⟩ := exists_of_measureIndent measured
  refine Cut.append_gap isGap ?_
  dsimp only at h
  split at h
  · cases h
    exact cut
  · next c r =>
      split at h
      · next blankLine =>
          cases h
          -- On a line without tokens a comment may stand, and the line break belongs to the gap.
          have ended : Cut stop (dropComment (c :: r)) ts := by
            cases breaks : afterLineBreak? (dropComment (c :: r)) with
            | none => simpa [breaks] using cut
            | some rest => exact .of_afterLineBreak? breaks (by simpa [breaks] using cut)
          rcases blankLine with rfl | breaks
          · exact ended.of_dropComment
          · rwa [dropComment, List.dropWhile_cons_of_neg (by simp [breaks])] at ended
      · obtain ⟨⟨kinds, indents⟩, opened, h⟩ := Option.bind_eq_some_iff.mp h
        cases h
        exact cut.append_layout (layout_of_openLine opened)

theorem cut_of_stepToken {stop : Nat} {layout : Layout} {s : List Char} {step : Step}
    (h : stepToken stop layout s = some step) {ts : List Token} (cut : Cut stop step.rest ts) :
    Cut stop s (step.found ++ ts) := by
  cases s with
  | nil =>
      cases h
      exact cut
  | cons c r =>
      simp only [stepToken] at h
      split at h
      · next comment =>
          subst comment
          cases h
          exact .of_dropComment (r := r) cut
      split at h
      · next breaks =>
          obtain ⟨rest, ended⟩ := exists_afterLineBreak? breaks r
          rw [ended, Option.getD_some] at h
          split at h
          · cases h
            have newline : ∀ k ∈ [TokenKind.newline],
                k ∈ [TokenKind.newline, .indent, .dedent, .endOfSource] := by simp
            exact (cut.of_afterLineBreak? ended).append_layout newline
          · cases h
            exact cut.of_afterLineBreak? ended
      split at h
      · next joint =>
          subst joint
          split at h
          · next ended =>
              cases h
              obtain ⟨taken, rfl, -⟩ := exists_of_afterLineBreak? ended
              exact cut.append_gap (isGap_cons (.inr rfl) taken)
          · cases h
      split at h
      · next digits =>
          obtain ⟨rest, scanned, h⟩ := Option.bind_eq_some_iff.mp h
          cases h
          obtain ⟨lexeme, whole, lexed⟩ := Lexed.exists_of_number digits scanned
          rw [whole]
          exact cut.append_token lexed
      split at h
      · next quotes =>
          obtain ⟨rest, scanned, h⟩ := Option.bind_eq_some_iff.mp h
          cases h
          have first : (c :: r).head? = some '"' ∨ (c :: r).head? = some '\'' := by simpa using quotes
          obtain ⟨lexeme, whole, lexed⟩ := Lexed.exists_of_string (.inl rfl) first scanned
          rw [List.nil_append] at whole
          rw [whole]
          exact cut.append_token lexed
      split at h
      · split at h
        · next quotes =>
            obtain ⟨rest, scanned, h⟩ := Option.bind_eq_some_iff.mp h
            cases h
            obtain ⟨lexeme, whole, lexed⟩ :=
              Lexed.exists_of_string (.inr quotes.2) quotes.1 scanned
            rw [List.takeWhile_append_dropWhile] at whole
            rw [whole]
            exact cut.append_token lexed
        · split at h
          · next isWord =>
              cases h
              have taken := cut.append_token (Lexed.name_takeWhile isWord)
              rwa [List.takeWhile_append_dropWhile] at taken
          · cases h
      split at h
      · cases h
      · next m found =>
          obtain ⟨layout', _, h⟩ := Option.bind_eq_some_iff.mp h
          cases h
          obtain ⟨lexeme, whole, lexed⟩ := Lexed.exists_of_mark? found
          have taken := cut.append_token lexed
          rwa [← whole] at taken

/-- **One step cuts its tokens from the text** that it leaves. -/
theorem cut_of_step {stop : Nat} {fresh : Bool} {layout : Layout} {s : List Char} {step : Step}
    (h : (if fresh = true then stepLine stop layout s
      else stepToken stop layout (s.dropWhile isLineBlank)) = some step)
    {ts : List Token} (cut : Cut stop step.rest ts) : Cut stop s (step.found ++ ts) := by
  split at h
  · exact cut_of_stepLine h cut
  · rw [← List.takeWhile_append_dropWhile (p := isLineBlank) (l := s)]
    refine (cut_of_stepToken h cut).append_gap (isGap_of_allBlank ?_)
    refine List.all_eq_true.mpr fun c member => ?_
    exact isBlank_of_isLineBlank (List.all_eq_true.mp List.all_takeWhile c member)

theorem closing_eq_map (fresh : Bool) (layout : Layout) (stop : Nat) :
    ∃ kinds : List TokenKind,
      closing fresh layout stop = kinds.map (⟨·, "", stop, stop⟩) ∧
        ∀ k ∈ kinds, k ∈ [TokenKind.newline, .indent, .dedent, .endOfSource] := by
  refine ⟨(if fresh then [] else [.newline]) ++ List.replicate layout.indents.length .dedent ++
    [.endOfSource], ?_, ?_⟩
  · cases fresh <;> simp [closing]
  · intro k member
    simp only [List.mem_append, List.mem_replicate] at member
    grind

/-- **The tokens that are scanned are cut from the text.** -/
theorem cut_of_scan {stop : Nat} {fresh : Bool} {layout : Layout} {s : List Char}
    {ts : List Token} (h : scan stop fresh layout s = some ts) : Cut stop s ts := by
  fun_induction scan stop fresh layout s generalizing ts with
  | case1 | case3 | case5 => cases h
  | case2 fresh layout s step stepped finished _ =>
      cases h
      obtain ⟨kinds, closed, kindsLayout⟩ := closing_eq_map step.fresh step.layout stop
      rw [List.isEmpty_iff, List.isEmpty_iff] at finished
      have ended : Cut stop step.rest (closing step.fresh step.layout stop) := by
        rw [finished.1, closed]
        simpa using (Cut.nil []).append_layout (s := []) kindsLayout
      simpa [finished.2] using cut_of_step stepped ended
  | case4 fresh layout s step stepped _ _ ih =>
      obtain ⟨others, scanned, rfl⟩ := Option.map_eq_some_iff.mp h
      exact cut_of_step stepped (ih scanned)

/-- **The tokens of a module are cut from its text.** -/
theorem cut_of_tokensOf? {source : List Char} {ts : List Token} (h : tokensOf? source = some ts) :
    Cut source.length source ts := cut_of_scan h

end Narrowing.ClassSource
