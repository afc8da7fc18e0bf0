import Narrowing.Marking
import Narrowing.Proofs.Directive.Grammar

/-!
# Options spread over several markers

The texts of the markers on one declaration are joined with commas before they are
read.  This module says what reading makes of the joined text when every part can be
read on its own.

Whether two parts can stand next to each other depends on one thing only, the last
visible character of the first (`lastVisible`).  A part that ends with an option goes
on with the comma and the next part; a part that ends with a comma of its own already
awaits an option, and the comma of the join is found in its place.  The grammar of
options splits accordingly:

* `WrittenList.readFrom_append` — behind an option, the options of both parts are read;
* `WrittenList.readFrom_append_of_awaits` — behind a comma, the next comma is a fault.

The last part may end as it likes, and blank parts are left out of the join.

## Main statements

* `directiveOf_read` — the options of all markers in order, unless a part before the
  last one ends with a comma
* `directiveOf_final_comma` — two markers that can be read, and their join that cannot
-/

namespace Narrowing

open Text

namespace Directive

/-! ## The last visible character -/

/-- The last character of a text that is not blank. -/
def lastVisible (s : List Char) : Option Char := (stripRight s).getLast?

theorem lastVisible_eq_find? (s : List Char) :
    lastVisible s = s.reverse.find? fun c => !isBlank c := by
  rw [lastVisible, stripRight, List.getLast?_reverse, List.find?_not_eq_head?_dropWhile]

theorem lastVisible_append (s t : List Char) :
    lastVisible (s ++ t) = (lastVisible t).or (lastVisible s) := by
  rw [lastVisible_eq_find?, lastVisible_eq_find?, lastVisible_eq_find?, List.reverse_append,
    List.find?_append]

theorem lastVisible_append_of_some {t : List Char} {c : Char} (last : lastVisible t = some c)
    (s : List Char) : lastVisible (s ++ t) = some c := by
  rw [lastVisible_append, last, Option.some_or]

theorem lastVisible_eq_none_iff {s : List Char} :
    lastVisible s = none ↔ allBlank s = true := by
  rw [lastVisible_eq_find?, List.find?_eq_none, allBlank, List.all_eq_true]
  simp

/-- The last character of an identifier is visible, and a name character. -/
theorem exists_lastVisible_of_isIdentifier {s : List Char} (identifier : isIdentifier s = true) :
    ∃ c, lastVisible s = some c ∧ isNameChar c = true := by
  have name := isNameChar_of_isIdentifier identifier
  cases found : lastVisible s with
  | none =>
      rw [lastVisible_eq_none_iff, allBlank, List.all_eq_true] at found
      obtain ⟨c, member⟩ := List.exists_mem_of_ne_nil s (ne_nil_of_isIdentifier identifier)
      have visible := isBlank_of_isNameChar (name c member)
      rw [found c member] at visible
      cases visible
  | some c =>
      rw [lastVisible_eq_find?] at found
      exact ⟨c, rfl, name c (List.mem_reverse.mp (List.mem_of_find?_eq_some found))⟩

/-- **An option is awaited behind the text**: it is blank, or its last visible character is a
comma. -/
def AwaitsOption (s : List Char) : Prop := ∀ c ∈ lastVisible s, c = ','

/-- Behind a comma only the text after it matters. -/
theorem awaitsOption_append_comma {s r : List Char} :
    AwaitsOption (s ++ ',' :: r) ↔ AwaitsOption r := by
  have comma : lastVisible [','] = some ',' := by decide
  have whole : s ++ ',' :: r = s ++ [','] ++ r := by simp
  rw [AwaitsOption, AwaitsOption, whole, lastVisible_append, lastVisible_append, comma]
  cases lastVisible r with
  | none => simp
  | some c => simp

/-- **No option is awaited directly behind an option**: it ends with a name or with a quote. -/
theorem Item.Written.not_awaitsOption {s : List Char} {i : Item} (written : Item.Written s i) :
    ¬ AwaitsOption s := by
  obtain ⟨-, identifier, valueWritten, blankAfter⟩ := written
  rename_i before key valueText after value
  have visible : ∃ c, lastVisible (key ++ valueText) = some c ∧ c ≠ ',' := by
    cases valueWritten with
    | flag =>
        obtain ⟨c, last, name⟩ := exists_lastVisible_of_isIdentifier identifier
        rw [List.append_nil]
        exact ⟨c, last, by rintro rfl; exact absurd name (by decide)⟩
    | @name gap gap' chars _ _ named =>
        obtain ⟨c, last, name⟩ := exists_lastVisible_of_isIdentifier named
        have whole : key ++ (gap ++ '=' :: (gap' ++ chars)) =
            key ++ (gap ++ '=' :: gap') ++ chars := by simp
        rw [whole]
        exact ⟨c, lastVisible_append_of_some last _, by rintro rfl; exact absurd name (by decide)⟩
    | @string gap gap' body _ quote _ _ quoted =>
        have last : lastVisible [quote] = some quote := by
          simp only [isQuote, Bool.or_eq_true, beq_iff_eq] at quoted
          rcases quoted with rfl | rfl <;> decide
        have whole : key ++ (gap ++ '=' :: (gap' ++ (quote :: body ++ [quote]))) =
            key ++ (gap ++ '=' :: (gap' ++ quote :: body)) ++ [quote] := by simp
        rw [whole]
        exact ⟨quote, lastVisible_append_of_some last _,
          by rintro rfl; exact absurd quoted (by decide)⟩
  obtain ⟨c, last, other⟩ := visible
  have whole : before ++ (key ++ (valueText ++ after)) = before ++ (key ++ valueText) ++ after := by
    simp
  intro awaits
  refine other (awaits c ?_)
  rw [whole, lastVisible_append, lastVisible_eq_none_iff.mpr blankAfter, Option.none_or]
  exact lastVisible_append_of_some last before

/-! ## Two texts with a comma between them -/

namespace Item

/-- **Behind an option the list goes on**: the options of both texts are read. -/
theorem WrittenList.readFrom_append {s : List Char} {items : List Item}
    (written : WrittenList s items) (closed : ¬ AwaitsOption s) (rest : List Char)
    (column : Nat) :
    Item.readFrom column (s ++ ',' :: rest) =
      (Item.readFrom (column + s.length + 1) rest).map (items ++ ·) := by
  induction written generalizing column with
  | blank blank =>
      rw [← lastVisible_eq_none_iff] at blank
      exact absurd (by simp [AwaitsOption, blank]) closed
  | single item => exact item.readFrom_append rest column
  | @cons s others i items item _ ih =>
      rw [awaitsOption_append_comma] at closed
      have length : column + s.length + 1 + others.length =
          column + (s ++ ',' :: others).length := by
        simp only [List.length_append, List.length_cons]
        omega
      rw [List.append_assoc, List.cons_append, item.readFrom_append, ih closed, map_map, length]
      rfl

/-- The text has tokens, wherever it starts. -/
def HasTokens (s : List Char) : Prop := ∀ column, ∃ tokens, Token.scan column s = .ok tokens

theorem HasTokens.cons_comma {s : List Char} (read : HasTokens s) : HasTokens (',' :: s) := by
  intro column
  obtain ⟨tokens, scanned⟩ := read (column + 1)
  rw [Token.scan_cons_comma, scanned]
  exact ⟨_, rfl⟩

theorem HasTokens.append_blanks {s gap : List Char} (read : HasTokens s)
    (blank : allBlank gap = true) : HasTokens (gap ++ s) := by
  intro column
  rw [Token.scan_append_blanks blank]
  exact read _

theorem Written.hasTokens_append {s : List Char} {i : Item} (written : Written s i)
    {rest : List Char} (read : HasTokens rest) : HasTokens (s ++ ',' :: rest) := by
  intro column
  obtain ⟨_, _, scanned, -, -⟩ := written.scan (stops_cons (c := ',') (by decide) rest) column
  obtain ⟨others, following⟩ := read.cons_comma (column + s.length)
  rw [following] at scanned
  exact ⟨_, scanned⟩

theorem WrittenList.hasTokens {s : List Char} {items : List Item}
    (written : WrittenList s items) : HasTokens s := by
  intro column
  have read := written.readFrom column
  unfold Item.readFrom at read
  split at read
  · cases read
  · next tokens scanned => exact ⟨tokens, scanned⟩

/-- A text of the grammar in front of a comma has tokens if what follows has. -/
theorem WrittenList.hasTokens_append {s : List Char} {items : List Item}
    (written : WrittenList s items) {rest : List Char} (read : HasTokens rest) :
    HasTokens (s ++ ',' :: rest) := by
  induction written with
  | blank blank => exact read.cons_comma.append_blanks blank
  | single item => exact item.hasTokens_append read
  | cons item _ ih =>
      rw [List.append_assoc, List.cons_append]
      exact item.hasTokens_append ih

/-- **Behind a comma the list does not go on with another**: the comma is found where an option
is expected. -/
theorem WrittenList.readFrom_append_of_awaits {s : List Char} {items : List Item}
    (written : WrittenList s items) (awaits : AwaitsOption s) {rest : List Char}
    (read : HasTokens rest) (column : Nat) :
    ∃ place, Item.readFrom column (s ++ ',' :: rest) = .error (.nameExpected place ",") := by
  induction written generalizing column with
  | @blank gap blank =>
      obtain ⟨tokens, scanned⟩ := read (column + gap.length + 1)
      refine ⟨column + gap.length, ?_⟩
      rw [Item.readFrom, Token.scan_append_blanks blank, Token.scan_cons_comma, scanned]
      exact ofTokens.eq_def _
  | single item => exact absurd awaits item.not_awaitsOption
  | cons item _ ih =>
      rw [awaitsOption_append_comma] at awaits
      obtain ⟨place, fault⟩ := ih awaits _
      refine ⟨place, ?_⟩
      rw [List.append_assoc, List.cons_append, item.readFrom_append, fault]
      rfl

end Item

end Directive

/-! ## The directive of a declaration -/

open Directive

/-- The option texts that are joined: those that are not blank. -/
def optionTexts (markers : List (Option String)) : List String :=
  (markers.filterMap id).filter fun text => !allBlank text.toList

theorem toList_intercalate_cons_cons (text next : String) (others : List String) :
    (", ".intercalate (text :: next :: others)).toList =
      text.toList ++ ',' :: ([' '] ++ (", ".intercalate (next :: others)).toList) := by
  simp [String.intercalate_cons_cons]

/-- Members that a function maps to nothing may be left out. -/
theorem flatMap_filter_of_forall {α β : Type} {l : List α} {p : α → Bool} {f : α → List β}
    (nothing : ∀ a ∈ l, p a = false → f a = []) : (l.filter p).flatMap f = l.flatMap f := by
  induction l with
  | nil => rfl
  | cons a l ih =>
      rw [List.forall_mem_cons] at nothing
      cases kept : p a with
      | true => rw [List.filter_cons_of_pos kept, List.flatMap_cons, List.flatMap_cons, ih nothing.2]
      | false =>
          rw [List.filter_cons_of_neg (by simp [kept]), List.flatMap_cons, nothing.1 kept,
            List.nil_append, ih nothing.2]

section Joining

variable {items : String → List Item}

/-- A join of texts that can be read has tokens. -/
theorem hasTokens_intercalate {texts : List String}
    (written : ∀ text ∈ texts, Item.WrittenList text.toList (items text)) :
    Item.HasTokens (", ".intercalate texts).toList := by
  induction texts with
  | nil => exact (Item.WrittenList.blank rfl).hasTokens
  | cons text others ih =>
      rw [List.forall_mem_cons] at written
      cases others with
      | nil =>
          rw [String.intercalate_singleton]
          exact written.1.hasTokens
      | cons next others =>
          rw [toList_intercalate_cons_cons]
          exact written.1.hasTokens_append ((ih written.2).append_blanks (by decide))

/-- Texts none of which but the last awaits an option are read one after the other. -/
theorem readFrom_intercalate {texts : List String}
    (written : ∀ text ∈ texts, Item.WrittenList text.toList (items text))
    (closed : ∀ text ∈ texts.dropLast, ¬ AwaitsOption text.toList) (column : Nat) :
    Item.readFrom column (", ".intercalate texts).toList = .ok (texts.flatMap items) := by
  induction texts generalizing column with
  | nil => exact Item.readFrom_of_blank (by decide) column
  | cons text others ih =>
      rw [List.forall_mem_cons] at written
      cases others with
      | nil =>
          rw [String.intercalate_singleton, List.flatMap_singleton]
          exact written.1.readFrom column
      | cons next others =>
          rw [List.dropLast_cons_cons, List.forall_mem_cons] at closed
          rw [toList_intercalate_cons_cons, written.1.readFrom_append closed.1,
            Item.readFrom_append_blanks (by decide), ih written.2 closed.2, List.flatMap_cons]
          rfl

/-- A text before the last one that awaits an option is followed by a comma instead. -/
theorem readFrom_intercalate_of_awaits {texts : List String}
    (written : ∀ text ∈ texts, Item.WrittenList text.toList (items text))
    (awaits : ∃ text ∈ texts.dropLast, AwaitsOption text.toList) (column : Nat) :
    ∃ place, Item.readFrom column (", ".intercalate texts).toList =
      .error (.nameExpected place ",") := by
  induction texts generalizing column with
  | nil => simp at awaits
  | cons text others ih =>
      rw [List.forall_mem_cons] at written
      cases others with
      | nil => simp at awaits
      | cons next others =>
          rw [toList_intercalate_cons_cons]
          by_cases here : AwaitsOption text.toList
          · refine written.1.readFrom_append_of_awaits here ?_ column
            exact (hasTokens_intercalate written.2).append_blanks (by decide)
          · rw [List.dropLast_cons_cons] at awaits
            obtain ⟨later, member, found⟩ := awaits
            rcases List.mem_cons.mp member with rfl | member
            · exact absurd found here
            · obtain ⟨place, fault⟩ := ih written.2 ⟨later, member, found⟩
                (column + text.toList.length + 1 + 1)
              refine ⟨place, ?_⟩
              rw [written.1.readFrom_append here, Item.readFrom_append_blanks (by decide),
                List.length_singleton, fault]
              rfl

end Joining

/-- **The options of all markers are read in order**, provided that each text can be read on its
own and that no text before the last one ends with a comma.  Where one does, the comma that
joins it to the next is found in the place of an option. -/
theorem directiveOf_read {markers : List (Option String)} (attached : markers ≠ [])
    {items : String → List Item}
    (read : ∀ text, some text ∈ markers → Item.ofText text = .ok (items text)) :
    ∃ joined, directiveOf markers = some joined ∧
      ((∀ text ∈ (optionTexts markers).dropLast, lastVisible text.toList ≠ some ',') →
        Item.ofText joined = .ok ((markers.filterMap id).flatMap items)) ∧
      ((∃ text ∈ (optionTexts markers).dropLast, lastVisible text.toList = some ',') →
        ∃ column, Item.ofText joined = .error (.nameExpected column ",")) := by
  have written : ∀ text ∈ optionTexts markers, Item.WrittenList text.toList (items text) := by
    intro text member
    rw [optionTexts, List.mem_filter, List.mem_filterMap] at member
    obtain ⟨⟨_, attached, rfl⟩, -⟩ := member
    exact Item.readFrom_eq_ok_iff.mp (read text attached)
  have awaits : ∀ text ∈ optionTexts markers,
      (AwaitsOption text.toList ↔ lastVisible text.toList = some ',') := by
    intro text member
    have visible : allBlank text.toList = false := by
      simpa using (List.mem_filter.mp member).2
    rw [AwaitsOption]
    cases last : lastVisible text.toList with
    | none =>
        rw [lastVisible_eq_none_iff.mp last] at visible
        cases visible
    | some c => simp
  -- The texts that are left out are read as no options.
  have whole : (optionTexts markers).flatMap items = (markers.filterMap id).flatMap items := by
    refine flatMap_filter_of_forall fun text member blank => ?_
    rw [Bool.not_eq_false'] at blank
    obtain ⟨_, attached, rfl⟩ := List.mem_filterMap.mp member
    have same := (Item.readFrom_of_blank blank 1).symm.trans (read text attached)
    exact (Except.ok.inj same).symm
  refine ⟨", ".intercalate (optionTexts markers), ?_, fun closed => ?_,
    fun ⟨text, member, comma⟩ => ?_⟩
  · rw [directiveOf, if_neg (by simpa using attached)]
    rfl
  · rw [Item.ofText_eq_readFrom, ← whole]
    refine readFrom_intercalate written (fun text member => ?_) 1
    rw [awaits text (List.dropLast_subset _ member)]
    exact closed text member
  · rw [← awaits text (List.dropLast_subset _ member)] at comma
    exact readFrom_intercalate_of_awaits written ⟨text, member, comma⟩ 1

/-- Four markers: a bare one, a blank one, and two with options, the last of which ends with a
comma. -/
def spread : List (Option String) := [none, some "from_type = 'Bar'", some " ", some "unpack, "]

/-- The options of each text of `spread`. -/
def spreadItems (text : String) : List Item :=
  if text = "from_type = 'Bar'" then [⟨"from_type", .string "Bar"⟩]
  else if text = "unpack, " then [⟨"unpack", .flag⟩]
  else []

theorem directiveOf_read_spread :
    (∀ text, some text ∈ spread → Item.ofText text = .ok (spreadItems text)) ∧
      ∃ joined, directiveOf spread = some joined ∧
        Item.ofText joined = .ok [⟨"from_type", .string "Bar"⟩, ⟨"unpack", .flag⟩] := by
  have read : ∀ text, some text ∈ spread → Item.ofText text = .ok (spreadItems text) := by
    simp only [spread, List.mem_cons, List.not_mem_nil, or_false, reduceCtorEq, false_or,
      Option.some.injEq]
    rintro text (rfl | rfl | rfl)
    all_goals decide +kernel
  obtain ⟨joined, attached, ordered, -⟩ := directiveOf_read (by decide) read
  exact ⟨read, joined, attached, ordered (by decide)⟩

/-- **Two texts that can be read, and their join that cannot**: the final comma of the first
meets the comma of the join. -/
theorem directiveOf_final_comma :
    Item.ofText "from_type = 'Bar'," = .ok [⟨"from_type", .string "Bar"⟩] ∧
      Item.ofText "unpack" = .ok [⟨"unpack", .flag⟩] ∧
      directiveOf [some "from_type = 'Bar',", some "unpack"] =
        some "from_type = 'Bar',, unpack" ∧
      Item.ofText "from_type = 'Bar',, unpack" = .error (.nameExpected 19 ",") := by
  decide +kernel

end Narrowing
