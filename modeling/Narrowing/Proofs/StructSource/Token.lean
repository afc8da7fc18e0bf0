import Mathlib.Data.List.Infix
import Mathlib.Data.Option.Basic
import Narrowing.Proofs.Text
import Narrowing.StructSource.Token

/-!
# Tokens on the text of a file

A file is scanned from its front: every lexeme takes some characters, and what is left
is the end of the text that the next one is looked for in.  So positions can be counted
from the end of the text, and the tokens stand where they were found:

* the text of a token is the text between its positions (`Stands`);
* tokens stand behind one another, and comments begin where no token does
  (`Pieces.Stand`).

Of what a lexeme can be only one thing matters later, that a name begins like a word
(`Lexeme.Takes`).

## Main statements

* `Lexeme.takes_of_lexeme?` — a lexeme takes a part of the text from its front
* `stand_of_piecesOf?` — the pieces of a file stand on its text
-/

namespace Narrowing.StructSource

open Reading Text

/-! ## What a lexeme leaves -/

theorem suffix_dropDigits (isDigit : Char → Bool) (s : List Char) : dropDigits isDigit s <:+ s :=
  List.dropWhile_suffix _

theorem suffix_dropNumberType (s : List Char) : dropNumberType s <:+ s := by
  unfold dropNumberType
  split
  · exact List.drop_suffix _ s
  · exact List.suffix_rfl

theorem suffix_dropExponent (s : List Char) : dropExponent s <:+ s := by
  unfold dropExponent
  grind [suffix_cons_of_suffix, suffix_dropDigits]

theorem suffix_dropNumber (s : List Char) : dropNumber s <:+ s := by
  have based (isDigit : Char → Bool) {c d : Char} (r : List Char) :
      dropNumberType (dropDigits isDigit r) <:+ c :: d :: r :=
    suffix_cons_of_suffix (suffix_cons_of_suffix
      ((suffix_dropNumberType _).trans (suffix_dropDigits _ r)) d) c
  have floating {r : List Char} (fraction : r <:+ s) : dropNumberType (dropExponent r) <:+ s :=
    ((suffix_dropNumberType _).trans (suffix_dropExponent _)).trans fraction
  have whole := suffix_dropDigits Char.isDigit s
  unfold dropNumber
  split
  · exact based _ _
  · exact based _ _
  · exact based _ _
  · refine floating ?_
    split
    · next c r point =>
        rw [point] at whole
        split
        · rwa [point]
        · exact (suffix_dropDigits _ _).trans ((List.suffix_cons _ _).trans whole)
    · exact List.nil_suffix
    · exact whole

theorem suffix_dropLineComment (s : List Char) : dropLineComment s <:+ s := by
  unfold dropLineComment
  grind [List.dropWhile_suffix, List.drop_suffix, List.IsSuffix.trans]

theorem suffix_of_dropBlockComment {depth : Nat} {s rest : List Char}
    (h : dropBlockComment depth s = some rest) : rest <:+ s := by
  fun_induction dropBlockComment depth s with
  | case1 => cases h
  | case2 depth r ih => exact suffix_cons_of_suffix (suffix_cons_of_suffix (ih h) _) _
  | case3 depth r =>
      cases h
      exact suffix_cons_of_suffix (List.suffix_cons _ _) _
  | case4 depth r _ ih => exact suffix_cons_of_suffix (suffix_cons_of_suffix (ih h) _) _
  | case5 depth c r _ _ ih => exact suffix_cons_of_suffix (ih h) _

theorem suffix_of_dropEscape {s rest : List Char} (h : dropEscape s = some rest) : rest <:+ s := by
  unfold dropEscape at h
  split at h
  · grind [suffix_cons_of_suffix]
  · next r =>
      split at h
      · next digits =>
          cases h
          have := List.dropWhile_suffix (l := r) isHex
          rw [digits] at this
          grind [suffix_cons_of_suffix, List.IsSuffix.trans, List.suffix_cons]
      · cases h
  · grind [suffix_cons_of_suffix]
  · cases h
  · cases h
  · cases h
  · grind [suffix_cons_of_suffix]

theorem suffix_of_dropString {s rest : List Char} (h : dropString s = some rest) : rest <:+ s := by
  fun_induction dropString s with
  | case1 => cases h
  | case2 r =>
      cases h
      exact List.suffix_cons _ _
  | case3 => cases h
  | case4 r middle escape _ ih =>
      exact suffix_cons_of_suffix ((ih h).trans (suffix_of_dropEscape escape)) _
  | case5 => cases h
  | case6 c r _ _ ih => exact suffix_cons_of_suffix (ih h) _

theorem suffix_of_dropRawString {hashes : Nat} {s rest : List Char}
    (h : dropRawString hashes s = some rest) : rest <:+ s := by
  fun_induction dropRawString hashes s with
  | case1 => cases h
  | case2 r =>
      cases h
      exact suffix_cons_of_suffix (List.drop_suffix _ _) _
  | case3 r _ ih => exact suffix_cons_of_suffix (ih h) _
  | case4 c r _ ih => exact suffix_cons_of_suffix (ih h) _

theorem suffix_of_dropRaw {s rest : List Char} (h : dropRaw s = some rest) : rest <:+ s := by
  unfold dropRaw at h
  split at h
  · next r quote =>
      have hashes := List.dropWhile_suffix (l := s) (· == '#')
      rw [quote] at hashes
      exact ((suffix_of_dropRawString h).trans (List.suffix_cons _ _)).trans hashes
  · cases h

theorem suffix_of_dropCharacter {s rest : List Char} (h : dropCharacter s = some rest) :
    rest <:+ s := by
  unfold dropCharacter at h
  split at h
  · cases h
    exact List.suffix_cons _ _
  · split at h
    · next escape =>
        cases h
        exact suffix_cons_of_suffix ((List.suffix_cons _ _).trans (suffix_of_dropEscape escape)) _
    · cases h
  · cases h
    exact suffix_cons_of_suffix (List.suffix_cons _ _) _
  · cases h

/-! ## Lexemes -/

/-- **What a lexeme takes** from the front of a text: it leaves an end of the text, and what it takes
for a name begins like a word. -/
structure Lexeme.Takes (lexeme : Lexeme) (s rest : List Char) : Prop where
  suffix : rest <:+ s
  name : lexeme = .token .name → ∃ c ∈ s.head?, isWordStart c = true

theorem Lexeme.Takes.of_suffix {lexeme : Lexeme} {s rest : List Char} (suffix : rest <:+ s)
    (other : lexeme ≠ .token .name) : lexeme.Takes s rest :=
  ⟨suffix, fun name => absurd name other⟩

/-- A literal takes what its scanner takes behind its first characters. -/
theorem Lexeme.takes_of_map {lexeme kind : Lexeme} {r s rest : List Char}
    {scanned : Option (List Char)} (behind : ∀ {rest}, scanned = some rest → rest <:+ r)
    (suffix : r <:+ s) (other : kind ≠ .token .name)
    (h : scanned.map (kind, ·) = some (lexeme, rest)) : lexeme.Takes s rest := by
  obtain ⟨rest', found, same⟩ := Option.map_eq_some_iff.mp h
  cases same
  exact .of_suffix ((behind found).trans suffix) other

/-- A word is a name unless its first letters are those of a literal. -/
theorem Lexeme.takes_of_wordLexeme {lexeme : Lexeme} {c : Char} {r rest : List Char}
    (start : isWordStart c = true) (h : wordLexeme (c :: r) = some (lexeme, rest)) :
    lexeme.Takes (c :: r) rest := by
  have named {r' : List Char} (suffix : r' <:+ c :: r)
      (h : some (nameLexeme r') = some (lexeme, rest)) : lexeme.Takes (c :: r) rest := by
    cases h
    exact ⟨(List.dropWhile_suffix _).trans suffix, fun _ => ⟨c, rfl, start⟩⟩
  have behind {d e : Char} {r' : List Char} : r' <:+ d :: e :: r' :=
    (List.suffix_cons e r').trans (List.suffix_cons d _)
  have raw {r' rest : List Char} (suffix : r' <:+ c :: r) (found : dropRaw r' = some rest) :
      (Lexeme.token .string).Takes (c :: r) rest :=
    .of_suffix ((suffix_of_dropRaw found).trans suffix) (by decide)
  unfold wordLexeme at h
  dsimp only at h
  split at h
  case h_1 same | h_2 same =>
    cases same
    exact takes_of_map suffix_of_dropString behind (by decide) h
  case h_3 same =>
    cases same
    rcases (Option.orElse_eq_some ..).mp h with h | ⟨-, h⟩
    · exact takes_of_map suffix_of_dropCharacter behind (by decide) h
    · exact named List.suffix_rfl h
  case h_4 same | h_5 same =>
    cases same
    rcases (Option.orElse_eq_some ..).mp h with h | ⟨-, h⟩
    · split at h
      · next found =>
          cases h
          exact raw behind found
      · cases h
    · exact named List.suffix_rfl h
  case h_6 same =>
    cases same
    rcases (Option.orElse_eq_some ..).mp h with h | ⟨-, h⟩
    · split at h
      · next found =>
          cases h
          exact raw (List.suffix_cons _ _) found
      · cases h
    · split at h
      · exact named behind h
      · exact named List.suffix_rfl h
  case h_7 same =>
    cases same
    rcases (Option.orElse_eq_some ..).mp h with h | ⟨-, h⟩
    · split at h
      · next found =>
          cases h
          exact raw (List.suffix_cons _ _) found
      · cases h
    · exact named List.suffix_rfl h
  case h_8 => exact named List.suffix_rfl h

/-- **A lexeme takes a part of the text** from its front. -/
theorem Lexeme.takes_of_lexeme? {lexeme : Lexeme} {s rest : List Char}
    (h : lexeme? s = some (lexeme, rest)) : lexeme.Takes s rest := by
  have marked {c : Char} {r : List Char} (h : some (Lexeme.token .mark, r) = some (lexeme, rest)) :
      lexeme.Takes (c :: r) rest := by
    cases h
    exact .of_suffix (List.suffix_cons c rest) (by decide)
  unfold lexeme? at h
  split at h
  case h_1 => cases h
  case h_2 =>
    cases h
    exact .of_suffix (suffix_dropLineComment _) (by decide)
  case h_3 =>
    refine takes_of_map suffix_of_dropBlockComment ?_ (by decide) h
    exact (List.suffix_cons _ _).trans (List.suffix_cons _ _)
  case h_4 => exact takes_of_map suffix_of_dropString (List.suffix_cons _ _) (by decide) h
  case h_5 =>
    rcases (Option.orElse_eq_some ..).mp h with h | ⟨-, h⟩
    · exact takes_of_map suffix_of_dropCharacter (List.suffix_cons _ _) (by decide) h
    · exact marked h
  case h_6 =>
    split at h
    · cases h
      exact .of_suffix (List.suffix_cons _ _) (by decide)
    split at h
    · cases h
      exact .of_suffix (suffix_dropNumber _) (by decide)
    split at h
    · next start => exact takes_of_wordLexeme start h
    split at h
    · exact marked h
    · cases h

/-! ## Pieces -/

/-- **A token stands on a text**: its text is the one between its positions, and a name begins like a
word. -/
structure Stands (source : List Char) (t : Token) : Prop where
  text : t.text = (Span.mk t.start t.stop).text source
  first : source[t.start]? = t.text.toList.head?
  start_lt : t.start < t.stop
  word : t.kind = .name → ∃ c ∈ source[t.start]?, isWordStart c = true

/-- The characters that are taken between two parts of a text. -/
theorem stands_of_takes {kind : TokenKind} {before taken rest : List Char} (nonempty : taken ≠ [])
    (takes : (Lexeme.token kind).Takes (taken ++ rest) rest) :
    Stands (before ++ (taken ++ rest))
      ⟨kind, String.ofList taken, before.length, before.length + taken.length⟩ := by
  have first : (before ++ (taken ++ rest))[before.length]? = (taken ++ rest).head? := by
    rw [List.getElem?_append_right le_rfl, Nat.sub_self, List.head?_eq_getElem?]
  refine ⟨?_, ?_, ?_, fun name => ?_⟩
  · simp [Span.text, slice]
  · rw [first, List.head?_append_of_ne_nil _ nonempty, String.toList_ofList]
  · have := List.length_pos_iff.mpr nonempty
    dsimp only
    omega
  · dsimp only at name ⊢
    rw [first]
    exact takes.name (congrArg _ name)

/-- **Pieces stand on a text** from a position on: tokens behind one another, and no comment begins
where a token does. -/
structure Pieces.Stand (source : List Char) (front : Nat) (pieces : Pieces) : Prop where
  tokens : ∀ t ∈ pieces.tokens, front ≤ t.start ∧ Stands source t
  comments : ∀ c ∈ pieces.comments, front ≤ c.start
  ordered : pieces.tokens.Pairwise fun t t' => t.stop ≤ t'.start
  apart : ∀ t ∈ pieces.tokens, ∀ c ∈ pieces.comments, c.start ≠ t.start

namespace Pieces.Stand

variable {source : List Char} {pieces : Pieces} {front front' : Nat}

/-- Pieces stand from every earlier position on. -/
theorem mono (stand : pieces.Stand source front) (earlier : front' ≤ front) :
    pieces.Stand source front' :=
  ⟨fun t member => ⟨earlier.trans (stand.tokens t member).1, (stand.tokens t member).2⟩,
    fun c member => earlier.trans (stand.comments c member), stand.ordered, stand.apart⟩

/-- A comment in front of pieces. -/
theorem cons_comment (stand : pieces.Stand source front) (comment : Span)
    (longer : comment.start < front) :
    ({ pieces with comments := comment :: pieces.comments } : Pieces).Stand source comment.start := by
  refine ⟨(stand.mono longer.le).tokens, ?_, stand.ordered, fun t member => ?_⟩
  · exact List.forall_mem_cons.mpr ⟨le_rfl, (stand.mono longer.le).comments⟩
  · have behind := (stand.tokens t member).1
    exact List.forall_mem_cons.mpr ⟨by omega, stand.apart t member⟩

/-- A token in front of pieces. -/
theorem cons_token {t : Token} (stand : pieces.Stand source t.stop) (stands : Stands source t) :
    ({ pieces with tokens := t :: pieces.tokens } : Pieces).Stand source t.start := by
  have longer := stands.start_lt
  refine ⟨?_, (stand.mono longer.le).comments, ?_, ?_⟩
  · exact List.forall_mem_cons.mpr ⟨⟨le_rfl, stands⟩, (stand.mono longer.le).tokens⟩
  · exact List.pairwise_cons.mpr ⟨fun t member => (stand.tokens t member).1, stand.ordered⟩
  · refine List.forall_mem_cons.mpr ⟨fun c member => ?_, stand.apart⟩
    have behind := stand.comments c member
    omega

/-- **A lexeme in front of pieces** puts them on a longer text. -/
theorem add (stand : pieces.Stand source front') {lexeme : Lexeme} {before taken rest : List Char}
    (whole : source = before ++ (taken ++ rest)) (nonempty : taken ≠ [])
    (takes : lexeme.Takes (taken ++ rest) rest) (stop : front' = before.length + taken.length) :
    (pieces.add lexeme taken ⟨before.length, before.length + taken.length⟩).Stand source
      before.length := by
  subst whole stop
  have some := List.length_pos_iff.mpr nonempty
  cases lexeme with
  | blank => exact stand.mono (Nat.le_add_right _ _)
  | comment =>
      exact stand.cons_comment ⟨before.length, before.length + taken.length⟩
        (Nat.lt_add_of_pos_right some)
  | token kind => exact stand.cons_token (stands_of_takes nonempty takes)

end Pieces.Stand

/-- **What is scanned stands on the text**, of which it is an end. -/
theorem stand_of_scan {source s : List Char} (suffix : s <:+ source) {pieces : Pieces}
    (h : scan source.length s = some pieces) : pieces.Stand source (source.length - s.length) := by
  fun_induction scan source.length s generalizing pieces with
  | case1 =>
      cases h
      exact ⟨by simp, by simp, .nil, by simp⟩
  | case2 | case4 => cases h
  | case3 s _ lexeme rest found shorter ih =>
      obtain ⟨others, scanned, rfl⟩ := Option.map_eq_some_iff.mp h
      have takes := Lexeme.takes_of_lexeme? found
      obtain ⟨taken, rfl⟩ := takes.suffix
      obtain ⟨before, whole⟩ := suffix
      have nonempty : taken ≠ [] := by
        rintro rfl
        exact absurd shorter (lt_irrefl _)
      have text : (taken ++ rest).take ((taken ++ rest).length - rest.length) = taken := by simp
      have start : source.length - (taken ++ rest).length = before.length := by simp [← whole]
      have stop : source.length - rest.length = before.length + taken.length := by
        rw [← whole, List.length_append, List.length_append]
        omega
      have stand := ih (whole ▸ (List.suffix_append _ _).trans (List.suffix_append _ _)) scanned
      rw [text, start, stop]
      exact stand.add whole.symm nonempty takes stop

theorem suffix_dropInterpreterLine (s : List Char) : dropInterpreterLine s <:+ s := by
  unfold dropInterpreterLine
  split
  · exact List.suffix_rfl
  · exact (List.dropWhile_suffix _).trans ((List.suffix_cons _ _).trans (List.suffix_cons _ _))
  · exact List.suffix_rfl

/-- **The pieces of a file stand on its text.** -/
theorem stand_of_piecesOf? {source : List Char} {pieces : Pieces}
    (h : piecesOf? source = some pieces) : ∃ front, pieces.Stand source front := by
  refine ⟨_, stand_of_scan ((suffix_dropInterpreterLine _).trans ?_) h⟩
  split
  · exact List.suffix_cons _ _
  · exact List.suffix_rfl

end Narrowing.StructSource
