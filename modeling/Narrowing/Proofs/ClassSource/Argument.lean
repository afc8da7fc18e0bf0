import Narrowing.Proofs.ClassSource.Expression
import Narrowing.Proofs.ClassSource.Token
import Narrowing.Proofs.Directive.Relayed
import Narrowing.Proofs.NormalForm

/-!
# The text of an argument

Two descriptions of an argument meet here.  The expression readers say which tokens it
begins with (`Written`), and the scanner says which characters the tokens of a module are
cut from (`Cut`).  Together they say how the *text* of an argument begins, which is all
that the grammar of options needs to know of it (`Directive.Relayed`):

* an opening mark, a number or a letter that no option has starts a text that is stuck;
* a name is read up to the first character that ASCII identifiers do not have;
* a string is read up to its closing quote, and a triple string up to its second quote;
* behind a name or a string the next token, or the comment or the joint in front of it,
  is no comma and no single equals sign.

## Main statements

* `Written.relayed` — the text of a written span can be relayed
-/

namespace Narrowing.ClassSource

open Reading Reading.Cursor Text
open Directive (Relayed Stops Strays dropWhile_append_blanks isQuote stops_cons stops_nil
  strays_append_cons)

/-! ## First characters -/

/-- The character is visible and has no meaning between two options. -/
structure Plain (c : Char) : Prop where
  visible : isBlank c = false
  comma : c ≠ ','
  equals : c ≠ '='

theorem Plain.strays {c : Char} (plain : Plain c) (r : List Char) : Strays (c :: r) := by
  have empty : allBlank [] = true := rfl
  exact strays_append_cons empty plain.visible plain.comma fun same => absurd same plain.equals

theorem plain_of_isNameChar {c : Char} (name : isNameChar c = true) : Plain c := by
  refine ⟨isBlank_of_isNameChar name, ?_, ?_⟩
  all_goals
    rintro rfl
    exact absurd name (by decide)

theorem plain_of_isForeign {c : Char} (foreign : isForeign c = true) : Plain c := by
  rw [isForeign, Bool.and_eq_true, decide_eq_true_eq, Bool.not_eq_true'] at foreign
  exact ⟨foreign.2, ne_of_wide foreign.1 (by decide), ne_of_wide foreign.1 (by decide)⟩

theorem plain_of_isQuote {c : Char} (quoted : isQuote c = true) : Plain c := by
  simp only [isQuote, Bool.or_eq_true, beq_iff_eq] at quoted
  rcases quoted with rfl | rfl <;> exact ⟨by decide, by decide, by decide⟩

theorem isNameChar_of_isDigit {c : Char} (digit : c.isDigit = true) : isNameChar c = true := by
  rw [isNameChar, Char.isAlphanum, digit, Bool.or_true, Bool.true_or]

theorem not_isQuote_of_isNameChar {c : Char} (name : isNameChar c = true) : isQuote c = false := by
  refine Bool.eq_false_iff.mpr fun quoted => ?_
  simp only [isQuote, Bool.or_eq_true, beq_iff_eq] at quoted
  rcases quoted with rfl | rfl <;> exact absurd name (by decide)

/-- No option and no value begins with a digit. -/
theorem relayed_of_isDigit {c : Char} (digit : c.isDigit = true) (r : List Char) :
    Relayed (c :: r) := by
  have name := isNameChar_of_isDigit digit
  refine .stuck (isBlank_of_isNameChar name) (not_isQuote_of_isNameChar name) ?_ r
  refine Bool.eq_false_iff.mpr fun start => ?_
  have bounds := toNat_of_isDigit digit
  have bounds' := toNat_of_isNameStart start
  omega

/-- No option and no value begins with a character beyond ASCII. -/
theorem relayed_of_isForeign {c : Char} (foreign : isForeign c = true) (r : List Char) :
    Relayed (c :: r) := by
  rw [isForeign, Bool.and_eq_true, decide_eq_true_eq, Bool.not_eq_true'] at foreign
  obtain ⟨wide, visible⟩ := foreign
  have unquoted : isQuote c = false := by
    rw [isQuote, Bool.or_eq_false_iff, beq_eq_false_iff_ne, beq_eq_false_iff_ne]
    exact ⟨ne_of_wide wide (by decide), ne_of_wide wide (by decide)⟩
  refine .stuck visible unquoted (Bool.eq_false_iff.mpr fun start => ?_) r
  have bounds := toNat_of_isNameStart start
  omega

/-! ## Words and strings -/

/-- **A word of any script** is a name up to its first character beyond ASCII. -/
theorem relayed_of_wordLike {word more : List Char} (wordLike : WordLike word)
    (stops : Stops more) (ends : more = [] ∨ Strays more) : Relayed (word ++ more) := by
  cases word with
  | nil => exact wordLike.elim
  | cons c r =>
      obtain ⟨begins, continues⟩ := wordLike
      rw [beginsWord, Bool.or_eq_true] at begins
      rcases begins with start | foreign
      · have identifier := isIdentifier_cons_takeWhile start r
        have parts : c :: r = c :: r.takeWhile isNameChar ++ r.dropWhile isNameChar := by
          rw [List.cons_append, List.takeWhile_append_dropWhile]
        rw [parts, List.append_assoc]
        cases others : r.dropWhile isNameChar with
        | nil => exact .name identifier stops ends
        | cons d r' =>
            have other : isNameChar d = false :=
              isNameChar_of_mem_head?_dropWhile r d (by rw [others]; rfl)
            have member : d ∈ r := (List.dropWhile_suffix isNameChar).subset (by simp [others])
            have foreign := continues d member
            rw [continuesWord, other, Bool.false_or] at foreign
            exact .name identifier (stops_cons other (r' ++ more))
              (.inr ((plain_of_isForeign foreign).strays (r' ++ more)))
      · exact relayed_of_isForeign foreign (r ++ more)

/-- The letters in front of a string are a name. -/
theorem isIdentifier_of_isStringPrefix {letters : List Char}
    (prefixed : isStringPrefix letters = true) : Text.isIdentifier letters = true := by
  have lower := of_decide_eq_true prefixed
  have alpha : ∀ c ∈ letters, c.isAlpha = true := by
    intro c member
    have known : ∀ s ∈ ["b", "u", "r", "f", "br", "rb", "fr", "rf"],
        s.toList.all Char.isAlpha = true := by decide
    have all := known _ lower
    rw [String.toList_ofList, List.all_map, List.all_eq_true] at all
    rw [← Char.isAlpha_toLower_eq_isAlpha]
    exact all c member
  cases letters with
  | nil => exact absurd lower (by decide)
  | cons c r =>
      rw [List.forall_mem_cons] at alpha
      have start {d : Char} (letter : d.isAlpha = true) : isNameStart d = true := by
        rw [isNameStart, letter, Bool.true_or]
      rw [Text.isIdentifier, Bool.and_eq_true, List.all_eq_true]
      exact ⟨start alpha.1, fun d member => isNameChar_of_isNameStart (start (alpha.2 d member))⟩

/-- **A string is read up to its closing quote**, a triple one up to its second quote, and one with
letters in front up to its opening quote. -/
theorem relayed_of_isQuotedRest {letters inside more : List Char} {quote : Char}
    (prefixed : letters = [] ∨ isStringPrefix letters = true) (quoted : isQuote quote = true)
    (isRest : IsQuotedRest quote inside) (ends : more = [] ∨ Strays more) :
    Relayed (letters ++ quote :: inside ++ more) := by
  have plain := plain_of_isQuote quoted
  rcases prefixed with rfl | prefixed
  · rcases isRest with ⟨body, text, rfl, escaped⟩ | ⟨others, rfl⟩
    · have whole : [] ++ quote :: (body ++ [quote]) ++ more = quote :: (body ++ quote :: more) := by
        simp
      rw [whole]
      exact .string quoted escaped ends
    · exact Relayed.string quoted .nil (.inr (plain.strays (others ++ more)))
  · have other : isNameChar quote = false :=
      Bool.eq_false_iff.mpr fun name => by simp [not_isQuote_of_isNameChar name] at quoted
    rw [List.append_assoc]
    exact .name (isIdentifier_of_isStringPrefix prefixed) (stops_cons other (inside ++ more))
      (.inr (plain.strays (inside ++ more)))

/-! ## The first tokens of an argument -/

/-- What a gap starts with, if it is not blank, separates nothing either. -/
theorem IsGap.strays_append {gap s : List Char} (isGap : IsGap gap) (strays : Strays s) :
    Strays (gap ++ s) := by
  cases visible : gap.dropWhile isBlank with
  | nil =>
      obtain ⟨c, r, first, other, doubled⟩ := strays
      have blank : allBlank gap = true := List.all_eq_true.mpr (List.dropWhile_eq_nil_iff.mp visible)
      exact ⟨c, r, by rw [dropWhile_append_blanks blank, first], other, doubled⟩
  | cons c r =>
      have found : c ∈ gap.find? (fun c => !isBlank c) := by
        rw [List.find?_not_eq_head?_dropWhile, visible]
        rfl
      have plain : Plain c := by
        rcases isGap c found with rfl | rfl <;> exact ⟨by decide, by decide, by decide⟩
      refine Strays.append ⟨c, r, visible, plain.comma, fun same => absurd same plain.equals⟩ s

/-- A mark that separates nothing strays. -/
theorem strays_of_mem_marks {m : String} (member : m ∈ marks) (comma : m ≠ ",") (equals : m ≠ "=")
    (more : List Char) : Strays (m.toList ++ more) := by
  have known : ∀ m ∈ marks, m ≠ "," → m ≠ "=" → (m.toList.head?.any fun c =>
      !isBlank c && c != ',' && (c != '=' || m.toList.tail.head? == some '=')) = true := by decide
  have begins := known m member comma equals
  cases whole : m.toList with
  | nil =>
      rw [whole] at begins
      cases begins
  | cons c r =>
      rw [whole] at begins
      simp only [List.head?_cons, Option.any_some, List.tail_cons, Bool.and_eq_true, Bool.or_eq_true,
        Bool.not_eq_true', bne_iff_ne, beq_iff_eq] at begins
      have empty : allBlank [] = true := rfl
      have doubled : c = '=' → r.head? = some '=' := begins.2.resolve_left ∘ not_not_intro
      exact (strays_append_cons empty begins.1.1 begins.1.2 doubled).append more

/-- A mark that opens an expression starts neither an option nor a value. -/
theorem relayed_of_isOpening {t : Token} (opening : IsOpening t) (more : List Char) :
    Relayed (t.text.toList ++ more) := by
  have known : ∀ m ∈ ["(", "[", "\x7b", "+", "-", "~", "*", "..."], (m.toList.head?.any fun c =>
      !isBlank c && !isQuote c && !isNameStart c) = true := by decide
  have member : t.text ∈ ["(", "[", "\x7b", "+", "-", "~", "*", "..."] := by
    simpa using opening.2
  have begins := known t.text member
  cases whole : t.text.toList with
  | nil =>
      rw [whole] at begins
      cases begins
  | cons c r =>
      rw [whole] at begins
      simp only [List.head?_cons, Option.any_some, Bool.and_eq_true, Bool.not_eq_true'] at begins
      exact .stuck begins.1.1 begins.1.2 begins.2 (r ++ more)

namespace Lexed

variable {lexeme more behind : List Char}

/-- **A name or a literal is relayed** with what follows it in the argument. -/
theorem relayed {kind : TokenKind} (lexed : Lexed kind lexeme (more ++ behind))
    (word : kind = .name ∨ kind = .number ∨ kind = .string) (ends : more = [] ∨ Strays more) :
    Relayed (lexeme ++ more) := by
  cases lexed with
  | name isWord endsWord =>
      refine relayed_of_wordLike (.of_isWord isWord) ?_ ends
      cases more with
      | nil => exact stops_nil
      | cons c r =>
          have other := endsWord c rfl
          rw [isNamePart, Bool.or_eq_false_iff] at other
          exact stops_cons other.1 r
  | @number c begins r =>
      rcases begins with digit | rfl
      · exact relayed_of_isDigit digit (r ++ more)
      · exact .stuck (by decide) (by decide) (by decide) (r ++ more)
  | string prefixed quoted isRest => exact relayed_of_isQuotedRest prefixed quoted isRest ends
  | mark => simp at word
  | layout kinds =>
      rcases word with rfl | rfl | rfl <;> simp at kinds

/-- **What separates nothing strays**, with whatever follows it. -/
theorem strays {t : Token} {rest : List Char} (lexed : Lexed t.kind lexeme rest)
    (spelled : t.text = String.ofList lexeme) (inner : IsInner t) (more : List Char) :
    Strays (lexeme ++ more) := by
  generalize kind : t.kind = k at lexed
  cases lexed with
  | name isWord =>
      cases lexeme with
      | nil => cases isWord
      | cons c r =>
          rw [Text.isWord, Bool.and_eq_true] at isWord
          have begins := beginsWord_of_isWordStart isWord.1
          rw [beginsWord, Bool.or_eq_true] at begins
          rcases begins with start | foreign
          · exact (plain_of_isNameChar (isNameChar_of_isNameStart start)).strays (r ++ more)
          · exact (plain_of_isForeign foreign).strays (r ++ more)
  | @number c begins r =>
      rcases begins with digit | rfl
      · exact (plain_of_isNameChar (isNameChar_of_isDigit digit)).strays (r ++ more)
      · exact Plain.strays ⟨by decide, by decide, by decide⟩ (r ++ more)
  | @string letters inside quote prefixed quoted =>
      rcases prefixed with rfl | prefixed
      · exact (plain_of_isQuote quoted).strays (inside ++ more)
      · cases letters with
        | nil => exact (plain_of_isQuote quoted).strays (inside ++ more)
        | cons c r =>
            have identifier := isIdentifier_of_isStringPrefix prefixed
            rw [Text.isIdentifier, Bool.and_eq_true] at identifier
            exact (plain_of_isNameChar (isNameChar_of_isNameStart identifier.1)).strays _
  | @mark m member =>
      rw [String.ofList_toList] at spelled
      rw [IsInner, IsWordLike, kind, spelled] at inner
      simp only [reduceCtorEq, or_self, false_or, true_and] at inner
      exact strays_of_mem_marks member inner.1 inner.2 more
  | layout kinds =>
      rw [IsInner, IsWordLike, kind] at inner
      rcases inner with (rfl | rfl | rfl) | ⟨rfl, -⟩ <;> simp at kinds

end Lexed

/-! ## Spans -/

namespace Cut

variable {stop : Nat} {s : List Char} {c c' : Cursor} {t : Token}

/-- A name of a module is a word. -/
theorem isWord_text {ts : List Token} (cut : Cut stop s ts) (member : t ∈ ts)
    (named : t.kind = .name) : isWord t.text.toList = true := by
  induction cut with
  | nil => cases member
  | @cons gap lexeme rest kind ts _ lexed _ ih =>
      rcases List.mem_cons.mp member with rfl | member
      · rw [String.toList_ofList]
        cases lexed with
        | name word => exact word
        | layout kinds =>
            cases named
            exact absurd kinds (by decide)
        | _ => cases named
      · exact ih member

/-- A name of a module can be relayed in its normal form. -/
theorem relayed_normalized {ts : List Token} (cut : Cut stop s ts) (member : t ∈ ts)
    (named : t.kind = .name) : Relayed (normalized t.text).toList := by
  have relayed := relayed_of_wordLike (wordLike_normalized (cut.isWord_text member named)) stops_nil
    (.inl rfl)
  rwa [List.append_nil] at relayed

/-- The tokens from some token on are cut from an end of the text. -/
theorem exists_of_suffix {ts ts' : List Token} (cut : Cut stop s ts) (suffix : ts' <:+ ts) :
    ∃ s', s' <:+ s ∧ Cut stop s' ts' := by
  induction cut with
  | nil s =>
      rw [List.suffix_nil] at suffix
      exact ⟨s, List.suffix_rfl, suffix ▸ .nil s⟩
  | @cons gap lexeme rest kind ts isGap lexed others ih =>
      rcases List.suffix_cons_iff.mp suffix with rfl | suffix
      · exact ⟨_, List.suffix_rfl, .cons isGap lexed others⟩
      · obtain ⟨s', ending, cut'⟩ := ih suffix
        refine ⟨s', ending.trans ?_, cut'⟩
        rw [← List.append_assoc]
        exact List.suffix_append _ rest

/-- One token taken is a gap and its characters. -/
theorem exists_of_takes (cut : Cut stop s c.tokens) (takes : Takes c t c') :
    ∃ gap lexeme rest, s = gap ++ (lexeme ++ rest) ∧ IsGap gap ∧ Lexed t.kind lexeme rest ∧
      t.text = String.ofList lexeme ∧ t.start = stop - (lexeme ++ rest).length ∧
      c'.last = stop - rest.length ∧ Cut stop rest c'.tokens := by
  rw [takes.tokens] at cut
  cases cut with
  | @cons gap lexeme rest kind ts isGap lexed others =>
      exact ⟨gap, lexeme, rest, rfl, isGap, lexed, rfl, rfl, takes.last, others⟩

/-- Tokens taken one after another end where the text behind them begins. -/
theorem exists_of_reaches (cut : Cut stop s c.tokens) (last : c.last = stop - s.length)
    (reaches : Reaches c c') :
    ∃ more rest, s = more ++ rest ∧ c'.last = stop - rest.length := by
  induction reaches generalizing s with
  | refl => exact ⟨[], s, rfl, last⟩
  | head takes _ ih =>
      obtain ⟨gap, lexeme, rest, rfl, -, -, -, -, last, cut⟩ := cut.exists_of_takes takes
      obtain ⟨more, rest, rfl, ended⟩ := ih cut last
      exact ⟨gap ++ (lexeme ++ more), rest, by simp, ended⟩

/-- **What goes on with an expression strays**, if there is anything. -/
theorem exists_of_continues (cut : Cut stop s c.tokens) (last : c.last = stop - s.length)
    (continues : Continues c c') :
    ∃ more rest, s = more ++ rest ∧ c'.last = stop - rest.length ∧ (more = [] ∨ Strays more) := by
  cases continues with
  | stay => exact ⟨[], s, rfl, last, .inl rfl⟩
  | step first inner others =>
      -- Of the tokens that follow only the first one is looked at.
      obtain ⟨gap, lexeme, rest, rfl, isGap, lexed, spelled, -, last, cut⟩ :=
        cut.exists_of_takes first
      obtain ⟨more, rest, rfl, ended⟩ := cut.exists_of_reaches last others
      refine ⟨gap ++ (lexeme ++ more), rest, by simp, ended, .inr ?_⟩
      exact isGap.strays_append (lexed.strays spelled inner more)

/-- **The tokens of an expression are cut from a text that is relayed.** -/
theorem exists_of_opens (cut : Cut stop s c.tokens) (opens : Opens c c') :
    ∃ gap whole rest, s = gap ++ (whole ++ rest) ∧ c.here = stop - (whole ++ rest).length ∧
      c'.last = stop - rest.length ∧ Relayed whole := by
  cases opens with
  | mark first opening others =>
      obtain ⟨gap, lexeme, rest, rfl, -, lexed, spelled, start, last, cut⟩ :=
        cut.exists_of_takes first
      obtain ⟨more, rest, rfl, ended⟩ := cut.exists_of_reaches last others
      refine ⟨gap, lexeme ++ more, rest, by simp, ?_, ended, ?_⟩
      · rw [first.here_eq, start, List.append_assoc]
      · rw [← String.toList_ofList (l := lexeme), ← spelled]
        exact relayed_of_isOpening opening more
  | word first word others =>
      obtain ⟨gap, lexeme, rest, rfl, -, lexed, -, start, last, cut⟩ := cut.exists_of_takes first
      obtain ⟨more, rest, rfl, ended, ends⟩ := cut.exists_of_continues last others
      refine ⟨gap, lexeme ++ more, rest, by simp, ?_, ended, lexed.relayed word ends⟩
      rw [first.here_eq, start, List.append_assoc]

end Cut

/-- The part of a text between two positions that are counted from its end. -/
theorem slice_append (before middle rest : List Char) :
    slice (before ++ (middle ++ rest))
      ((before ++ (middle ++ rest)).length - (middle ++ rest).length)
      ((before ++ (middle ++ rest)).length - rest.length) = middle := by
  have start : (before ++ (middle ++ rest)).length - (middle ++ rest).length = before.length := by
    rw [List.length_append, Nat.add_sub_cancel]
  have stop : (before ++ (middle ++ rest)).length - rest.length - before.length = middle.length := by
    simp only [List.length_append]
    omega
  rw [slice, start, stop, List.drop_left, List.take_left]

/-- **The text of a written span is relayed.** -/
theorem Written.relayed {source : List Char} {ts : List Token} {span : Span}
    (written : Written ts span) (cut : Cut source.length source ts) :
    Relayed (slice source span.start span.stop) := by
  obtain ⟨c, c', on, opens, rfl⟩ := written
  obtain ⟨s, ⟨before, rfl⟩, ended⟩ := cut.exists_of_suffix on
  obtain ⟨gap, whole, rest, rfl, start, last, relayed⟩ := ended.exists_of_opens opens
  rw [start, last, ← List.append_assoc, slice_append]
  exact relayed

end Narrowing.ClassSource
