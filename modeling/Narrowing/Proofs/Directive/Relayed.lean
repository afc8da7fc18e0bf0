import Narrowing.Proofs.Marking

/-!
# Expressions among the options

A marker relays the arguments of a call as they are written, and a directive text is
read by a grammar that knows names, strings, commas and equals signs only.  This
module says what that grammar makes of a relayed expression, whatever the expression is.

Nothing is assumed of an expression but how it begins (`Relayed`): with a character that
no option and no value starts with, or with a name or a string.  What stands behind that
name or string, if anything does, neither ends an option nor introduces a value
(`Strays`).  So a comma further inside is never reached.

* Alone, an expression is an option only if it is an identifier, and then a flag
  (`Relayed.eq_of_written`).
* Behind a key and an equals sign it is the value of that key, whole
  (`Relayed.standalone_keyword`).

In both cases an expression that is not read ends the reading of the whole text.  A
text that is read has therefore one option an argument, each on its own
(`Standalone`), and this carries over to texts joined by commas.

## Main statements

* `exists_item_of_intercalate` — every argument of a joined text that is read is one of
  its options
-/

namespace Narrowing.Directive

open Text

/-! ## What stands behind a name or a string -/

/-- **The text neither ends an option nor introduces a value**: something visible stands in it that is
no comma, and an equals sign only in front of another one. -/
def Strays (s : List Char) : Prop :=
  ∃ c r, s.dropWhile isBlank = c :: r ∧ c ≠ ',' ∧ (c = '=' → r.head? = some '=')

/-- The text ends an option: if anything is visible in it, it is a comma. -/
def Closes (s : List Char) : Prop := ∀ c ∈ (s.dropWhile isBlank).head?, c = ','

theorem dropWhile_append_blanks {gap : List Char} (blank : allBlank gap = true) (s : List Char) :
    (gap ++ s).dropWhile isBlank = s.dropWhile isBlank :=
  List.dropWhile_append_of_pos (List.all_eq_true.mp blank)

/-- No blanks stand in front of a visible character. -/
theorem eq_nil_of_cons_eq_append {gap : List Char} (blank : allBlank gap = true) {c : Char}
    (visible : isBlank c = false) {r rest : List Char} (whole : c :: r = gap ++ rest) :
    gap = [] := by
  cases gap with
  | nil => rfl
  | cons d gap =>
      rw [List.cons_append, List.cons.injEq] at whole
      rw [allBlank, List.all_cons, ← whole.1, visible] at blank
      cases blank

theorem closes_nil : Closes [] := by simp [Closes]

theorem closes_cons_comma (s : List Char) : Closes (',' :: s) := by
  have visible : isBlank ',' = false := by decide
  rw [Closes, List.dropWhile_cons_of_neg (by simp [visible])]
  simp

theorem Closes.append_blanks {s gap : List Char} (closes : Closes s) (blank : allBlank gap = true) :
    Closes (gap ++ s) := by
  rwa [Closes, dropWhile_append_blanks blank]

theorem Closes.stops {s : List Char} (closes : Closes s) : Stops s := by
  cases s with
  | nil => exact stops_nil
  | cons c r =>
      refine stops_cons (Bool.eq_false_iff.mpr fun name => ?_) r
      rw [Closes, List.dropWhile_cons_of_neg (by simp [isBlank_of_isNameChar name])] at closes
      obtain rfl := closes c rfl
      exact absurd name (by decide)

theorem Closes.not_strays {s : List Char} (closes : Closes s) : ¬ Strays s := by
  rintro ⟨c, r, visible, other, -⟩
  exact other (closes c (by rw [visible]; rfl))

theorem strays_append_cons {gap : List Char} (blank : allBlank gap = true) {c : Char}
    (visible : isBlank c = false) (other : c ≠ ',') {r : List Char}
    (doubled : c = '=' → r.head? = some '=') : Strays (gap ++ c :: r) := by
  refine ⟨c, r, ?_, other, doubled⟩
  rw [dropWhile_append_blanks blank, List.dropWhile_cons_of_neg (by simp [visible])]

/-- Nothing that follows makes up for it. -/
theorem Strays.append {s : List Char} (strays : Strays s) (t : List Char) : Strays (s ++ t) := by
  obtain ⟨c, r, visible, other, doubled⟩ := strays
  refine ⟨c, r ++ t, ?_, other, fun equals => ?_⟩
  · rw [List.dropWhile_append, visible]
    rfl
  · rw [List.head?_append, doubled equals]
    rfl

/-! ## Values -/

/-- What can stand behind an equals sign: an identifier or a string. -/
inductive Spelled : List Char → Prop
  | name {chars : List Char} (identifier : isIdentifier chars = true) : Spelled chars
  | string {quote : Char} {body text : List Char} (quoted : isQuote quote = true)
      (escaped : Escaped quote body text) : Spelled (quote :: (body ++ [quote]))

/-- The first character of a value tells it from everything else. -/
theorem Spelled.exists_cons {l : List Char} (spelled : Spelled l) :
    ∃ c r, l = c :: r ∧ (isNameStart c = true ∨ isQuote c = true) := by
  cases spelled with
  | name identifier =>
      cases l with
      | nil => cases identifier
      | cons c r =>
          rw [isIdentifier, Bool.and_eq_true] at identifier
          exact ⟨c, r, rfl, .inl identifier.1⟩
  | string quoted _ => exact ⟨_, _, rfl, .inr quoted⟩

/-- A value that is written behind a key is a flag, or it is spelled behind an equals sign. -/
theorem Value.Written.cases {s : List Char} {value : Value} (written : value.Written s) :
    s = [] ∨ ∃ before after l, s = before ++ '=' :: (after ++ l) ∧ allBlank before = true ∧
      allBlank after = true ∧ Spelled l := by
  cases written with
  | flag => exact .inl rfl
  | name blankBefore blankAfter identifier =>
      exact .inr ⟨_, _, _, rfl, blankBefore, blankAfter, .name identifier⟩
  | string blankBefore blankAfter quoted escaped =>
      exact .inr ⟨_, _, _, rfl, blankBefore, blankAfter, .string quoted escaped⟩

/-- A name ends in front of a value. -/
theorem Value.Written.stops_append {s tail : List Char} {value : Value} (written : value.Written s)
    (closes : Closes tail) : Stops (s ++ tail) := by
  rcases written.cases with rfl | ⟨before, after, l, rfl, blankBefore, -, -⟩
  · exact closes.stops
  · rw [List.append_assoc, List.cons_append]
    exact (stops_cons (by decide) _).append_blanks blankBefore

/-- Neither a value nor the end of an option strays. -/
theorem Value.Written.not_strays_append {s tail : List Char} {value : Value}
    (written : value.Written s) (closes : Closes tail) : ¬ Strays (s ++ tail) := by
  rcases written.cases with rfl | ⟨before, after, l, rfl, blankBefore, blankAfter, spelled⟩
  · exact closes.not_strays
  -- The first visible character is the equals sign, and a value never begins with another one.
  rintro ⟨c, r, visible, -, doubled⟩
  have equals : isBlank '=' = false := by decide
  rw [List.append_assoc, List.cons_append, dropWhile_append_blanks blankBefore,
    List.dropWhile_cons_of_neg (by simp [equals])] at visible
  cases visible
  have first := doubled rfl
  obtain ⟨c, r, rfl, start⟩ := spelled.exists_cons
  cases after with
  | nil =>
      cases first
      exact absurd start (by decide)
  | cons d after =>
      cases first
      rw [allBlank, List.all_cons, Bool.and_eq_true] at blankAfter
      rw [equals] at blankAfter
      cases blankAfter.1

namespace Item

/-- **The first option of a text that begins visibly**: its key, its value, and a rest that ends the
option. -/
theorem exists_of_writtenList_cons {c : Char} (visible : isBlank c = false) {r : List Char}
    {items : List Item} (written : WrittenList (c :: r) items) :
    ∃ key valueText tail value others, c :: r = key ++ (valueText ++ tail) ∧
      isIdentifier key = true ∧ Value.Written valueText value ∧ Closes tail ∧
      items = ⟨String.ofList key, value⟩ :: others := by
  have option {s rest : List Char} {i : Item} (item : Written s i) (closes : Closes rest)
      (whole : c :: r = s ++ rest) :
      ∃ key valueText tail value, c :: r = key ++ (valueText ++ tail) ∧
        isIdentifier key = true ∧ Value.Written valueText value ∧ Closes tail ∧
        i = ⟨String.ofList key, value⟩ := by
    obtain ⟨blankBefore, identifier, valueWritten, blankAfter⟩ := item
    rename_i before key valueText after value
    rw [List.append_assoc] at whole
    obtain rfl := eq_nil_of_cons_eq_append blankBefore visible whole
    refine ⟨key, valueText, after ++ rest, value, ?_, identifier, valueWritten,
      closes.append_blanks blankAfter, rfl⟩
    rw [whole]
    simp
  generalize whole : c :: r = s at written
  cases written with
  | blank blank =>
      subst whole
      rw [allBlank, List.all_cons, visible] at blank
      cases blank
  | single item =>
      rw [← whole]
      obtain ⟨key, valueText, tail, value, parts, identifier, valueWritten, closes, rfl⟩ :=
        option item closes_nil (by rw [whole, List.append_nil])
      exact ⟨key, valueText, tail, value, [], parts, identifier, valueWritten, closes, rfl⟩
  | cons item _ =>
      rw [← whole]
      obtain ⟨key, valueText, tail, value, parts, identifier, valueWritten, closes, rfl⟩ :=
        option item (closes_cons_comma _) whole
      exact ⟨key, valueText, tail, value, _, parts, identifier, valueWritten, closes, rfl⟩

end Item

/-! ## Relayed expressions -/

/-- **How the text of an expression begins**: with a character that neither an option nor a value
starts with; or with a name or a string, and what stands behind it strays. -/
inductive Relayed : List Char → Prop
  | stuck {c : Char} (visible : isBlank c = false) (unquoted : isQuote c = false)
      (unnamed : isNameStart c = false) (r : List Char) : Relayed (c :: r)
  | name {name tail : List Char} (identifier : isIdentifier name = true) (stops : Stops tail)
      (ends : tail = [] ∨ Strays tail) : Relayed (name ++ tail)
  | string {quote : Char} {body text tail : List Char} (quoted : isQuote quote = true)
      (escaped : Escaped quote body text) (ends : tail = [] ∨ Strays tail) :
      Relayed (quote :: (body ++ quote :: tail))

theorem not_isNameStart_of_isQuote {c : Char} (quoted : isQuote c = true) : isNameStart c = false := by
  simp only [isQuote, Bool.or_eq_true, beq_iff_eq] at quoted
  rcases quoted with rfl | rfl <;> decide

theorem not_isBlank_of_isNameStart {c : Char} (start : isNameStart c = true) : isBlank c = false :=
  isBlank_of_isNameChar (isNameChar_of_isNameStart start)

/-- An expression begins visibly. -/
theorem Relayed.exists_cons {s : List Char} (relayed : Relayed s) :
    ∃ c r, s = c :: r ∧ isBlank c = false := by
  cases relayed with
  | stuck visible _ _ r => exact ⟨_, r, rfl, visible⟩
  | @name name tail identifier =>
      cases name with
      | nil => cases identifier
      | cons c r =>
          rw [isIdentifier, Bool.and_eq_true] at identifier
          exact ⟨c, r ++ tail, rfl, not_isBlank_of_isNameStart identifier.1⟩
  | string quoted => exact ⟨_, _, rfl, not_isBlank_of_isQuote quoted⟩

theorem Relayed.allBlank_append {s : List Char} (relayed : Relayed s) (t : List Char) :
    allBlank (s ++ t) = false := by
  obtain ⟨c, r, rfl, visible⟩ := relayed.exists_cons
  rw [List.cons_append, allBlank, List.all_cons, visible, Bool.false_and]

/-- The character that a text starts with is no start of an option. -/
theorem not_writtenList_of_cons {c : Char} (visible : isBlank c = false)
    (unnamed : isNameStart c = false) {r : List Char} {items : List Item} :
    ¬ Item.WrittenList (c :: r) items := by
  intro written
  obtain ⟨key, _, _, _, _, whole, identifier, -⟩ := Item.exists_of_writtenList_cons visible written
  cases key with
  | nil => cases identifier
  | cons d key =>
      cases whole
      rw [isIdentifier, unnamed] at identifier
      cases identifier

theorem Stops.append {s t : List Char} (first : Stops s) (second : Stops t) : Stops (s ++ t) := by
  cases s with
  | nil => exact second
  | cons c r => exact first

/-- **An expression at the start of a text that is read is an identifier**, and what follows is the
value of that key. -/
theorem Relayed.exists_value {s rest : List Char} (relayed : Relayed s) (stops : Stops rest)
    {items : List Item} (written : Item.WrittenList (s ++ rest) items) :
    isIdentifier s = true ∧ ∃ valueText tail value others, rest = valueText ++ tail ∧
      Value.Written valueText value ∧ Closes tail ∧
      items = ⟨String.ofList s, value⟩ :: others := by
  cases relayed with
  | stuck visible _ unnamed r => exact absurd written (not_writtenList_of_cons visible unnamed)
  | string quoted =>
      exact absurd written
        (not_writtenList_of_cons (not_isBlank_of_isQuote quoted) (not_isNameStart_of_isQuote quoted))
  | @name name tail identifier stopsTail ends =>
      obtain ⟨c, r, whole, visible⟩ := Relayed.exists_cons (.name identifier stopsTail ends)
      rw [whole, List.cons_append] at written
      obtain ⟨key, valueText, tail', value, others, parts, identifier', valueWritten, closes, rfl⟩ :=
        Item.exists_of_writtenList_cons visible written
      rw [← List.cons_append, ← whole, List.append_assoc] at parts
      -- Both names are the longest run of name characters in front of the text.
      obtain ⟨-, taken, dropped⟩ := eq_append_identifier_iff.mp
        ⟨rfl, identifier, stopsTail.append stops⟩
      obtain ⟨-, taken', dropped'⟩ := eq_append_identifier_iff.mp
        ⟨parts, identifier', valueWritten.stops_append closes⟩
      obtain rfl : name = key := taken.trans taken'.symm
      have same : tail ++ rest = valueText ++ tail' := dropped.trans dropped'.symm
      rcases ends with rfl | strays
      · rw [List.append_nil]
        exact ⟨identifier, valueText, tail', value, others, same, valueWritten, closes, rfl⟩
      · exact absurd (same ▸ strays.append rest) (valueWritten.not_strays_append closes)

/-- The body of a string is the same however it is followed. -/
theorem Escaped.eq_of_append_eq {quote : Char} (quoted : isQuote quote = true)
    {body text body' text' rest rest' : List Char} (escaped : Escaped quote body text)
    (escaped' : Escaped quote body' text') (same : body ++ quote :: rest = body' ++ quote :: rest') :
    body = body' ∧ rest = rest' := by
  have split := escaped.splitQuoted_append quoted rest
  rw [same, escaped'.splitQuoted_append quoted] at split
  cases split
  exact ⟨rfl, rfl⟩

/-- **An expression in the place of a value is that value**, whole and without blanks in front. -/
theorem Relayed.eq_of_spelled {s rest after l tail : List Char} (relayed : Relayed s)
    (blank : allBlank after = true) (spelled : Spelled l) (closes : Closes tail)
    (stops : Stops rest) (whole : s ++ rest = after ++ (l ++ tail)) : after = [] ∧ s = l := by
  obtain ⟨c, r, begins, visible⟩ := relayed.exists_cons
  obtain rfl : after = [] := by
    rw [begins] at whole
    exact eq_nil_of_cons_eq_append blank visible whole
  refine ⟨rfl, ?_⟩
  rw [List.nil_append] at whole
  obtain ⟨d, l', starts, start⟩ := spelled.exists_cons
  -- What stands behind the expression's name or string ends the option, so it does not stray.
  have ended {t : List Char} (ends : t = [] ∨ Strays t) (same : t ++ rest = tail) : t = [] :=
    ends.resolve_right fun strays => closes.not_strays (same ▸ strays.append rest)
  cases relayed with
  | stuck visible unquoted unnamed r =>
      rw [starts, List.cons_append, List.cons_append, List.cons.injEq] at whole
      rw [← whole.1, unquoted, unnamed] at start
      simp at start
  | @name name t identifier stopsTail ends =>
      cases spelled with
      | name identifier' =>
          rw [List.append_assoc] at whole
          obtain ⟨-, taken, dropped⟩ := eq_append_identifier_iff.mp
            ⟨rfl, identifier, stopsTail.append stops⟩
          obtain ⟨-, taken', dropped'⟩ := eq_append_identifier_iff.mp
            ⟨whole, identifier', closes.stops⟩
          obtain rfl : name = l := taken.trans taken'.symm
          rw [ended ends (dropped.trans dropped'.symm), List.append_nil]
      | string quoted' _ =>
          cases name with
          | nil => cases identifier
          | cons c' name =>
              rw [List.cons_append, List.cons_append, List.cons_append, List.cons.injEq] at whole
              rw [isIdentifier, whole.1, not_isNameStart_of_isQuote quoted'] at identifier
              cases identifier
  | @string quote body text t quoted escaped ends =>
      cases spelled with
      | name identifier' =>
          rw [starts, List.cons_append, List.cons_append, List.cons.injEq] at whole
          rw [starts, isIdentifier, ← whole.1, not_isNameStart_of_isQuote quoted] at identifier'
          cases identifier'
      | string quoted' escaped' =>
          rw [List.cons_append, List.cons_append, List.cons.injEq] at whole
          obtain ⟨rfl, whole⟩ := whole
          rw [List.append_assoc, List.append_assoc, List.cons_append, List.singleton_append] at whole
          obtain ⟨rfl, same⟩ := escaped.eq_of_append_eq quoted escaped' whole
          rw [ended ends same]

/-! ## Arguments -/

/-- **The text is read on its own**: in front of a comma or of nothing it is one option, or nothing
is read. -/
def Standalone (s : List Char) : Prop :=
  ∀ rest items, Closes rest → Item.WrittenList (s ++ rest) items → ∃ i, Item.Written s i

/-- A flag is written as its key. -/
theorem Item.written_flag {s : List Char} (identifier : isIdentifier s = true) :
    Item.Written s ⟨String.ofList s, .flag⟩ := by
  have blank : allBlank [] = true := rfl
  simpa using Item.Written.mk blank identifier .flag blank

/-- An expression alone is an option only if it is an identifier. -/
theorem Relayed.standalone {s : List Char} (relayed : Relayed s) : Standalone s := by
  intro rest items closes written
  exact ⟨_, Item.written_flag (relayed.exists_value closes.stops written).1⟩

/-- An expression alone is read as a flag, if it is read. -/
theorem Relayed.eq_of_written {s : List Char} {i : Item} (relayed : Relayed s)
    (written : Item.Written s i) : i = ⟨String.ofList s, .flag⟩ := by
  have alone : Item.WrittenList (s ++ []) [i] := by
    rw [List.append_nil]
    exact .single written
  have flag := Item.written_flag (relayed.exists_value stops_nil alone).1
  have read := (written.readFrom 1).symm.trans (flag.readFrom 1)
  simpa using read

/-- **Behind a key an expression is read as its value.** -/
theorem Relayed.standalone_keyword {key value : List Char} (named : Relayed key)
    (relayed : Relayed value) : Standalone (key ++ '=' :: value) := by
  intro rest items closes written
  rw [List.append_assoc, List.cons_append] at written
  obtain ⟨identifier, valueText, tail, found, _, whole, valueWritten, ends, -⟩ :=
    named.exists_value (stops_cons (by decide) (value ++ rest)) written
  have equals : isBlank '=' = false := by decide
  rcases valueWritten.cases with rfl | ⟨before, after, l, rfl, blankBefore, blankAfter, spelled⟩
  -- The key is no flag: an equals sign stands behind it.
  · rw [List.nil_append] at whole
    rw [← whole, Closes, List.dropWhile_cons_of_neg (by simp [equals])] at ends
    exact absurd (ends '=' rfl) (by decide)
  · rw [List.append_assoc] at whole
    obtain rfl := eq_nil_of_cons_eq_append blankBefore equals whole
    rw [List.nil_append, List.cons_append, List.cons.injEq, List.append_assoc] at whole
    obtain ⟨rfl, rfl⟩ := relayed.eq_of_spelled blankAfter spelled ends closes.stops whole.2
    have blank : allBlank [] = true := rfl
    exact ⟨_, by simpa using Item.Written.mk blank identifier valueWritten blank⟩

/-- **Every argument of a joined text that is read is one of its options.** -/
theorem exists_item_of_intercalate {pieces : List String}
    (standalone : ∀ p ∈ pieces, Standalone p.toList) {items : List Item}
    (written : Item.WrittenList (", ".intercalate pieces).toList items) :
    ∀ p ∈ pieces, ∃ i ∈ items, Item.Written p.toList i := by
  induction pieces generalizing items with
  | nil => simp
  | cons p others ih =>
      rw [List.forall_mem_cons] at standalone
      cases others with
      | nil =>
          rw [String.intercalate_singleton] at written
          obtain ⟨i, item⟩ := standalone.1 [] items closes_nil (by rwa [List.append_nil])
          have read := written.readFrom 1
          rw [item.readFrom, Except.ok.injEq] at read
          simpa [← read] using item
      | cons next others =>
          rw [toList_intercalate_cons_cons] at written
          obtain ⟨i, item⟩ := standalone.1 _ items (closes_cons_comma _) written
          have read := written.readFrom 1
          rw [item.readFrom_append, Item.readFrom_append_blanks (by decide)] at read
          obtain ⟨later, readLater, rfl⟩ := map_eq_ok_iff.mp read
          have found := ih standalone.2 (Item.readFrom_eq_ok_iff.mp readLater)
          rw [List.forall_mem_cons]
          refine ⟨⟨i, List.mem_cons_self, item⟩, fun q member => ?_⟩
          obtain ⟨j, among, itemWritten⟩ := found q member
          exact ⟨j, List.mem_cons_of_mem i among, itemWritten⟩

/-- A joined text is blank only if nothing is joined. -/
theorem allBlank_intercalate {pieces : List String}
    (visible : ∀ p ∈ pieces, allBlank p.toList = false) :
    allBlank (", ".intercalate pieces).toList = pieces.isEmpty := by
  cases pieces with
  | nil => rfl
  | cons p others =>
      have begins : ∃ rest, (", ".intercalate (p :: others)).toList = p.toList ++ rest := by
        cases others with
        | nil => exact ⟨[], by simp⟩
        | cons next others => exact ⟨_, toList_intercalate_cons_cons p next others⟩
      obtain ⟨rest, whole⟩ := begins
      rw [whole, allBlank, List.all_append, ← allBlank, visible p List.mem_cons_self]
      rfl

/-- Texts that are themselves joined are joined in one. -/
theorem intercalate_map_intercalate {separator : String} {groups : List (List String)}
    (nonempty : ∀ g ∈ groups, g ≠ []) :
    separator.intercalate (groups.map separator.intercalate) =
      separator.intercalate groups.flatten := by
  induction groups with
  | nil => rfl
  | cons g others ih =>
      rw [List.forall_mem_cons] at nonempty
      cases others with
      | nil => simp
      | cons next others =>
          have rest : (next :: others).flatten ≠ [] := by
            simpa using fun empty => absurd empty (nonempty.2 next List.mem_cons_self)
          rw [List.map_cons, List.flatten_cons, String.intercalate_append_of_ne_nil nonempty.1 rest,
            ← ih nonempty.2, List.map_cons, String.intercalate_cons_cons]

end Narrowing.Directive
