import Narrowing.Proofs.Directive.Token

/-!
# The grammar of options

A directive text is a list of options separated by commas, with blanks wherever two
tokens meet.  This module writes that down as a grammar of *texts* and shows that
`Item.ofText` decides it: a text is read exactly when the grammar has it, and it is
read as the options that the grammar gives.

The grammar has three levels, each of which says how a text is put together and what
it means: `Value.Written` for what stands behind a key, `Item.Written` for one option
and `Item.WrittenList` for the whole.  It knows neither tokens nor columns.

### From the grammar to the reader

One option is read off the front of any text that goes on with a comma or ends there
(`Item.Written.scan`).  With `readFrom`, which reads from a given column on, this
becomes an equation for each constructor of the grammar, and the lists follow by
induction on the grammar.

### From the reader to the grammar

The other direction follows the reader's own recursion on tokens, and turns each token
back into the blanks and the spelling that it was read from.

### Printing

`Item.printList` prints options with any choice of blanks, quotes and final comma.  It
is a function into the grammar (`Item.writtenList_printList`), so reading undoes it.

## Main statements

* `Item.readFrom_eq_ok_iff` — a text is read exactly when the grammar has it
* `Item.ofText_iff_written` — the same for a whole directive text, with the rejection of
  every other text and the printed texts
-/

namespace Narrowing.Directive

open Text

/-! ## The grammar -/

/-- **How a value is written behind its key.**  A flag is not written at all; a name or a string
stands behind an equals sign. -/
inductive Value.Written : List Char → Value → Prop
  | flag : Written [] .flag
  | name {before after chars : List Char} (blankBefore : allBlank before = true)
      (blankAfter : allBlank after = true) (identifier : isIdentifier chars = true) :
      Written (before ++ '=' :: (after ++ chars)) (.name (String.ofList chars))
  | string {before after body text : List Char} {quote : Char}
      (blankBefore : allBlank before = true) (blankAfter : allBlank after = true)
      (quoted : isQuote quote = true) (escaped : Escaped quote body text) :
      Written (before ++ '=' :: (after ++ (quote :: body ++ [quote])))
        (.string (String.ofList text))

namespace Item

/-- **How one option is written**: an identifier and a value, between blanks. -/
inductive Written : List Char → Item → Prop
  | mk {before key rest after : List Char} {value : Value} (blankBefore : allBlank before = true)
      (identifier : isIdentifier key = true) (written : value.Written rest)
      (blankAfter : allBlank after = true) :
      Written (before ++ (key ++ (rest ++ after))) ⟨String.ofList key, value⟩

/-- **How a list of options is written**: it is blank, or one option, or an option, a comma and
a list of options.  A comma may therefore end a list, but no two commas meet and none starts
it. -/
inductive WrittenList : List Char → List Item → Prop
  | blank {gap : List Char} (blank : allBlank gap = true) : WrittenList gap []
  | single {s : List Char} {i : Item} (item : Written s i) : WrittenList s [i]
  | cons {s rest : List Char} {i : Item} {items : List Item} (item : Written s i)
      (others : WrittenList rest items) : WrittenList (s ++ ',' :: rest) (i :: items)

/-- Only blank texts are lists without options. -/
theorem writtenList_nil_iff {s : List Char} : WrittenList s [] ↔ allBlank s = true := by
  constructor
  · rintro ⟨blank⟩
    assumption
  · exact .blank

end Item

/-! ## Reading one option -/

/-- The text behind a name does not continue it. -/
def Stops (rest : List Char) : Prop := ∀ c ∈ rest.head?, isNameChar c = false

theorem stops_nil : Stops [] := by simp [Stops]

theorem stops_cons {c : Char} (other : isNameChar c = false) (rest : List Char) :
    Stops (c :: rest) := by
  simpa [Stops] using other

/-- A text stops a name after blanks if it does so without them. -/
theorem Stops.append_blanks {rest : List Char} (stops : Stops rest) {gap : List Char}
    (blank : allBlank gap = true) : Stops (gap ++ rest) := by
  cases gap with
  | nil => exact stops
  | cons c gap =>
      rw [allBlank, List.all_cons, Bool.and_eq_true] at blank
      refine stops_cons (Bool.eq_false_iff.mpr fun char => ?_) (gap ++ rest)
      rw [isBlank_of_isNameChar char] at blank
      exact Bool.false_ne_true blank.1

/-- The tokens do not go on with an equals sign. -/
def Ends (after : List Token) : Prop := ∀ t ∈ after.head?, t.lexeme ≠ .equals

/-- Nothing is taken as a value but what an equals sign introduces. -/
theorem Item.takeValue_of_ends {after : List Token} (ends : Ends after) (key : String) :
    takeValue key after = .ok (.flag, after) := by
  unfold takeValue
  split
  · next column rest =>
      exact absurd rfl (ends ⟨.equals, column⟩ rfl)
  · rfl

/-- The token of a value is taken as that value. -/
theorem Item.takeValue_equals {l : Lexeme} {value : Value} (valued : Value.ofLexeme? l = some value)
    (key : String) (column place : Nat) (after : List Token) :
    takeValue key (⟨.equals, column⟩ :: ⟨l, place⟩ :: after) = .ok (value, after) := by
  simp only [takeValue, valued]

/-- An equals sign and a lexeme, with blanks in front of both, are read as two tokens. -/
theorem Token.scan_equals_append {before after : List Char} (blankBefore : allBlank before = true)
    (blankAfter : allBlank after = true) {l : Lexeme} (proper : l.Proper) {rest : List Char}
    (ends : l.EndsBefore rest) (column : Nat) :
    scan column (before ++ '=' :: (after ++ l.spelling) ++ rest) =
      (scan (column + (before ++ '=' :: (after ++ l.spelling)).length) rest).map
        ([⟨.equals, column + before.length⟩,
          ⟨l, column + before.length + 1 + after.length⟩] ++ ·) := by
  have unbound : Lexeme.equals.EndsBefore (after ++ (l.spelling ++ rest)) := trivial
  have equals := scan_append_spelling .equals unbound (column + before.length)
  have whole : before ++ '=' :: (after ++ l.spelling) ++ rest =
      before ++ (Lexeme.equals.spelling ++ (after ++ (l.spelling ++ rest))) := by
    simp [Lexeme.spelling]
  have length : column + (before ++ '=' :: (after ++ l.spelling)).length =
      column + before.length + 1 + after.length + l.spelling.length := by
    simp only [List.length_append, List.length_cons]
    omega
  rw [whole, scan_append_blanks blankBefore, equals, scan_append_blanks blankAfter,
    scan_append_spelling proper ends, map_map, length]
  rfl

/-- **What is written behind a key is read off as its value**, in front of any text that stops a
name. -/
theorem Value.Written.scan {s : List Char} {value : Value} (written : value.Written s)
    {rest : List Char} (stops : Stops rest) (column : Nat) :
    ∃ tokens, Token.scan column (s ++ rest) =
        (Token.scan (column + s.length) rest).map (tokens ++ ·) ∧
      ∀ key after, Ends after → Item.takeValue key (tokens ++ after) = .ok (value, after) := by
  cases written with
  | flag =>
      refine ⟨[], ?_, fun key after ends => Item.takeValue_of_ends ends key⟩
      exact (map_id _).symm
  | @name before after chars blankBefore blankAfter identifier =>
      have read := Token.scan_equals_append blankBefore blankAfter (.name identifier) stops column
      exact ⟨_, read, fun key rest _ => Item.takeValue_equals rfl key _ _ rest⟩
  | @string before after body text quote blankBefore blankAfter quoted escaped =>
      have ends : (Lexeme.string quote body).EndsBefore rest := trivial
      have read := Token.scan_equals_append blankBefore blankAfter (.string quoted escaped) ends
        column
      have valued : Value.ofLexeme? (.string quote body) = some (.string (String.ofList text)) := by
        rw [Value.ofLexeme?, escaped.unescape_eq]
      exact ⟨_, read, fun key rest _ => Item.takeValue_equals valued key _ _ rest⟩

namespace Item

/-- **One option is read off** in front of any text that stops a name: its first token is the key,
and the others are taken as its value. -/
theorem Written.scan {s : List Char} {i : Item} (written : Written s i) {rest : List Char}
    (stops : Stops rest) (column : Nat) :
    ∃ t tokens, Token.scan column (s ++ rest) =
        (Token.scan (column + s.length) rest).map (fun ts => t :: (tokens ++ ts)) ∧
      t.lexeme = .name i.key.toList ∧
      ∀ after, Ends after → takeValue i.key (tokens ++ after) = .ok (i.value, after) := by
  obtain ⟨blankBefore, identifier, valueWritten, blankAfter⟩ := written
  rename_i before key valueText after value
  have stopsAfter : Stops (after ++ rest) := stops.append_blanks blankAfter
  have stopsKey : Stops (valueText ++ (after ++ rest)) := by
    cases valueWritten with
    | flag => exact stopsAfter
    | name blank | string blank =>
        rw [List.append_assoc, List.cons_append]
        exact (stops_cons (by decide) _).append_blanks blank
  obtain ⟨tokens, read, taken⟩ := valueWritten.scan stopsAfter (column + before.length + key.length)
  refine ⟨⟨.name key, column + before.length⟩, tokens, ?_, ?_, taken _⟩
  · have keyRead := Token.scan_append_spelling (.name identifier) stopsKey (column + before.length)
    have whole : before ++ (key ++ (valueText ++ after)) ++ rest =
        before ++ ((Lexeme.name key).spelling ++ (valueText ++ (after ++ rest))) := by
      simp [Lexeme.spelling]
    have length : column + (before ++ (key ++ (valueText ++ after))).length =
        column + before.length + key.length + valueText.length + after.length := by
      simp only [List.length_append]
      omega
    rw [whole, Token.scan_append_blanks blankBefore, keyRead, Lexeme.spelling, read,
      Token.scan_append_blanks blankAfter, map_map, length]
  · rw [String.toList_ofList]

/-! ## Reading a list -/

/-- The options of a text that starts at the given column. -/
def readFrom (column : Nat) (s : List Char) : Except ItemFault (List Item) :=
  match Token.scan column s with
  | .error fault => .error (.lexical fault)
  | .ok tokens => ofTokens tokens

theorem ofText_eq_readFrom (s : String) : ofText s = readFrom 1 s.toList := rfl

section Unrolling

variable {t : Token} {i : Item} (named : t.lexeme = .name i.key.toList) {rest : List Token}

include named

/-- A key and its value at the end of the tokens. -/
theorem ofTokens_cons_of_last (taken : takeValue i.key rest = .ok (i.value, [])) :
    ofTokens (t :: rest) = .ok [i] := by
  rw [← i.key.ofList_toList] at taken
  rw [ofTokens.eq_def]
  simp only [named, String.ofList_toList]
  split
  · next failed =>
      rw [taken] at failed
      cases failed
  · next found =>
      rw [taken] at found
      cases found
      rfl

/-- A key and its value in front of a comma. -/
theorem ofTokens_cons_of_comma {u : Token} (comma : u.lexeme = .comma) {after : List Token}
    (taken : takeValue i.key rest = .ok (i.value, u :: after)) :
    ofTokens (t :: rest) = (ofTokens after).map (i :: ·) := by
  rw [← i.key.ofList_toList] at taken
  rw [ofTokens.eq_def]
  simp only [named, String.ofList_toList]
  split
  · next failed =>
      rw [taken] at failed
      cases failed
  · next found =>
      rw [taken] at found
      cases found
      exact if_pos comma

end Unrolling

theorem readFrom_of_blank {gap : List Char} (blank : allBlank gap = true) (column : Nat) :
    readFrom column gap = .ok [] := by
  rw [readFrom, Token.scan_eq_ok_nil_iff.mpr blank]
  exact ofTokens.eq_1

/-- Blanks in front of a text only move its columns. -/
theorem readFrom_append_blanks {gap : List Char} (blank : allBlank gap = true) (s : List Char)
    (column : Nat) : readFrom column (gap ++ s) = readFrom (column + gap.length) s := by
  rw [readFrom, Token.scan_append_blanks blank, readFrom]

/-- A text of one option is read as that option. -/
theorem Written.readFrom {s : List Char} {i : Item} (written : Written s i) (column : Nat) :
    readFrom column s = .ok [i] := by
  obtain ⟨t, tokens, read, named, taken⟩ := written.scan stops_nil column
  have empty : Token.scan (column + s.length) [] = .ok [] := Token.scan_eq_ok_nil_iff.mpr rfl
  rw [List.append_nil, empty] at read
  have last := taken [] (by simp [Ends])
  rw [Item.readFrom, read]
  exact ofTokens_cons_of_last named last

/-- **An option and a comma are read off**, and what follows is read from its own column on. -/
theorem Written.readFrom_append {s : List Char} {i : Item} (written : Written s i)
    (rest : List Char) (column : Nat) :
    Item.readFrom column (s ++ ',' :: rest) =
      (Item.readFrom (column + s.length + 1) rest).map (i :: ·) := by
  obtain ⟨t, tokens, read, named, taken⟩ := written.scan (stops_cons (c := ',') (by decide) rest) column
  rw [Token.scan_cons_comma, map_map] at read
  rw [Item.readFrom, Item.readFrom, read]
  cases Token.scan (column + s.length + 1) rest with
  | error fault => rfl
  | ok others =>
      have next := taken (⟨.comma, column + s.length⟩ :: others) (by simp [Ends])
      exact ofTokens_cons_of_comma named rfl next

/-- **The texts of the grammar are read** as the options that the grammar gives. -/
theorem WrittenList.readFrom {s : List Char} {items : List Item} (written : WrittenList s items)
    (column : Nat) : Item.readFrom column s = .ok items := by
  induction written generalizing column with
  | blank blank => exact readFrom_of_blank blank column
  | single item => exact item.readFrom column
  | cons item _ ih =>
      rw [item.readFrom_append, ih]
      rfl

/-! ## From the reader to the grammar -/

/-- What is taken as a value is written behind the key. -/
theorem written_of_takeValue {key : String} {tokens after : List Token} {value : Value}
    (taken : takeValue key tokens = .ok (value, after)) {column : Nat} {s : List Char}
    (read : Token.scan column s = .ok tokens) :
    ∃ column' valueText rest, s = valueText ++ rest ∧ value.Written valueText ∧
      Token.scan column' rest = .ok after := by
  unfold takeValue at taken
  split at taken
  · next place others =>
      split at taken
      · cases taken
      next t others =>
      obtain ⟨l, _⟩ := t
      cases valued : Value.ofLexeme? l with
      | none =>
          rw [valued] at taken
          cases taken
      | some found =>
          rw [valued] at taken
          cases taken
          obtain ⟨before, _, rfl, blankBefore, -, -, -, read⟩ := Token.scan_eq_ok_cons_iff.mp read
          obtain ⟨behind, rest, rfl, blankBehind, proper, -, -, read⟩ :=
            Token.scan_eq_ok_cons_iff.mp read
          refine ⟨_, before ++ '=' :: (behind ++ l.spelling), rest, ?_, ?_, read⟩
          · simp [Lexeme.spelling]
          · cases proper with
            | string quoted escaped =>
                cases valued
                rw [escaped.unescape_eq]
                exact .string blankBefore blankBehind quoted escaped
            | name identifier =>
                cases valued
                exact .name blankBefore blankBehind identifier
            | equals | comma => cases valued
  · cases taken
    exact ⟨column, [], s, rfl, .flag, read⟩

/-- What is read as one option is written as one, up to the blanks behind it. -/
theorem written_of_scan_cons {t : Token} {chars : List Char} (named : t.lexeme = .name chars)
    {rest after : List Token} {value : Value}
    (taken : takeValue (String.ofList chars) rest = .ok (value, after)) {column : Nat}
    {s : List Char} (read : Token.scan column s = .ok (t :: rest)) :
    ∃ column' option others, s = option ++ others ∧ Token.scan column' others = .ok after ∧
      ∀ gap, allBlank gap = true → Written (option ++ gap) ⟨String.ofList chars, value⟩ := by
  obtain ⟨before, behind, rfl, blank, proper, -, -, read⟩ := Token.scan_eq_ok_cons_iff.mp read
  rw [named] at proper
  cases proper with
  | name identifier =>
      obtain ⟨column', valueText, others, rfl, written, read⟩ := written_of_takeValue taken read
      refine ⟨column', before ++ (chars ++ valueText), others, ?_, read, fun gap blankAfter => ?_⟩
      · simp [named, Lexeme.spelling]
      · rw [List.append_assoc, List.append_assoc]
        exact .mk blank identifier written blankAfter

/-- **What is read is in the grammar.**  The induction is on the reader's own recursion. -/
theorem writtenList_of_ofTokens {tokens : List Token} {items : List Item}
    (parsed : ofTokens tokens = .ok items) {column : Nat} {s : List Char}
    (read : Token.scan column s = .ok tokens) : WrittenList s items := by
  fun_induction ofTokens tokens generalizing items column s with
  | case1 =>
      cases parsed
      exact .blank (Token.scan_eq_ok_nil_iff.mp read)
  | case2 => cases parsed
  | case3 t rest chars named value taken =>
      cases parsed
      obtain ⟨_, option, others, rfl, read, written⟩ := written_of_scan_cons named taken read
      exact .single (written others (Token.scan_eq_ok_nil_iff.mp read))
  | case4 t rest chars named value u after taken comma _ ih =>
      obtain ⟨found, parsedRest, rfl⟩ := map_eq_ok_iff.mp parsed
      obtain ⟨_, option, others, rfl, read, written⟩ := written_of_scan_cons named taken read
      obtain ⟨gap, others, rfl, blank, -, -, -, read⟩ := Token.scan_eq_ok_cons_iff.mp read
      -- The blanks in front of the comma belong to the option before it.
      rw [comma, Lexeme.spelling, List.singleton_append, ← List.append_assoc]
      exact .cons (written gap blank) (ih parsedRest read)
  | case5 => cases parsed
  | case6 => cases parsed

/-- **A text is read exactly when the grammar has it**, from any column. -/
theorem readFrom_eq_ok_iff {column : Nat} {s : List Char} {items : List Item} :
    Item.readFrom column s = .ok items ↔ WrittenList s items := by
  constructor
  · intro h
    unfold Item.readFrom at h
    split at h
    · cases h
    · next read => exact writtenList_of_ofTokens h read
  · exact fun written => written.readFrom column

end Item

/-! ## Printing -/

/-- Any number of blanks. -/
abbrev Blanks := { gap : List Char // allBlank gap = true }

/-- **The free choices in printing one option**: the blanks around its tokens, and the quote of a
string. -/
structure Layout where
  before : Blanks := ⟨[], rfl⟩
  beforeEquals : Blanks := ⟨[], rfl⟩
  afterEquals : Blanks := ⟨[], rfl⟩
  after : Blanks := ⟨[], rfl⟩
  quote : { quote : Char // isQuote quote = true } := ⟨'"', rfl⟩

/-- The body of a string in the given quotes: the quote and the backslash are escaped. -/
def escape (quote : Char) : List Char → List Char
  | [] => []
  | c :: r =>
    if c = quote ∨ c = '\\' then '\\' :: c :: escape quote r else c :: escape quote r

/-- An escaped text stands for itself. -/
theorem escaped_escape (quote : Char) (text : List Char) :
    Escaped quote (escape quote text) text := by
  induction text with
  | nil => exact .nil
  | cons c r ih =>
      unfold escape
      split
      · exact .escape ih
      · next plain =>
          rw [not_or] at plain
          exact .plain plain.1 plain.2 ih

/-- What is printed behind a key. -/
def Value.print (l : Layout) : Value → List Char
  | .flag => []
  | .name text => l.beforeEquals ++ '=' :: (l.afterEquals ++ text.toList)
  | .string text =>
    l.beforeEquals ++ '=' ::
      (l.afterEquals ++ (l.quote.val :: escape l.quote text.toList ++ [l.quote.val]))

namespace Item

/-- One printed option. -/
def print (l : Layout) (i : Item) : List Char :=
  l.before ++ (i.key.toList ++ (i.value.print l ++ l.after))

/-- Printed options with commas between them, and with one behind the last if asked for. The
given blanks stand behind that comma, or alone when there is no option. -/
def printList (finalComma : Bool) (gap : Blanks) : List (Layout × Item) → List Char
  | [] => gap
  | [(l, i)] => i.print l ++ if finalComma then ',' :: gap.val else []
  | (l, i) :: next :: others => i.print l ++ ',' :: printList finalComma gap (next :: others)

/-- The option can be printed: its key is an identifier, and so is its value if that is a name. -/
structure Printable (i : Item) : Prop where
  key : isIdentifier i.key.toList = true
  name : ∀ text, i.value = .name text → isIdentifier text.toList = true

/-- A written option can be printed. -/
theorem Written.printable {s : List Char} {i : Item} (written : Written s i) : i.Printable := by
  obtain ⟨-, identifier, valueWritten, -⟩ := written
  refine ⟨by rwa [String.toList_ofList], fun text named => ?_⟩
  cases valueWritten with
  | flag | string => cases named
  | name _ _ valueIdentifier =>
      cases named
      rwa [String.toList_ofList]

/-- So can all options of a written list. -/
theorem WrittenList.printable {s : List Char} {items : List Item} (written : WrittenList s items) :
    ∀ i ∈ items, i.Printable := by
  induction written with
  | blank => simp
  | single item => exact List.forall_mem_singleton.mpr item.printable
  | cons item _ ih => exact List.forall_mem_cons.mpr ⟨item.printable, ih⟩

/-- A printed option is in the grammar. -/
theorem Printable.written_print {i : Item} (printable : i.Printable) (l : Layout) :
    Written (i.print l) i := by
  obtain ⟨key, value⟩ := i
  have valueWritten : value.Written (value.print l) := by
    cases value with
    | flag => exact .flag
    | name text =>
        have named := Value.Written.name l.beforeEquals.2 l.afterEquals.2 (printable.name text rfl)
        rwa [String.ofList_toList] at named
    | string text =>
        have escaped := escaped_escape l.quote text.toList
        have quoted := Value.Written.string l.beforeEquals.2 l.afterEquals.2 l.quote.2 escaped
        rwa [String.ofList_toList] at quoted
  have written := Written.mk l.before.2 printable.key valueWritten l.after.2
  rwa [String.ofList_toList] at written

/-- **Printed options are in the grammar**, whatever the choices. -/
theorem writtenList_printList (finalComma : Bool) (gap : Blanks) {printed : List (Layout × Item)}
    (printable : ∀ p ∈ printed, p.2.Printable) :
    WrittenList (printList finalComma gap printed) (printed.map Prod.snd) := by
  induction printed with
  | nil => exact .blank gap.2
  | cons p others ih =>
      obtain ⟨l, i⟩ := p
      rw [List.forall_mem_cons] at printable
      have written := printable.1.written_print l
      cases others with
      | nil =>
          cases finalComma with
          | true => exact .cons written (.blank gap.2)
          | false =>
              rw [printList, if_neg Bool.false_ne_true, List.append_nil]
              exact .single written
      | cons next others => exact .cons written (ih printable.2)

/-! ## Reading is exact -/

/-- **A directive text is read exactly when it is in the grammar**, and then as the options that
the grammar gives; every other text is rejected.  Printed options are read back, with any blanks
between their tokens, any quotes and with or without a final comma. -/
theorem ofText_iff_written :
    (∀ (s : String) (items : List Item), ofText s = .ok items ↔ WrittenList s.toList items) ∧
      (∀ s : String, (¬ ∃ items, WrittenList s.toList items) → ∃ fault, ofText s = .error fault) ∧
      ∀ (finalComma : Bool) (gap : Blanks) (printed : List (Layout × Item)),
        (∀ p ∈ printed, p.2.Printable) →
          ofText (String.ofList (printList finalComma gap printed)) =
            .ok (printed.map Prod.snd) := by
  have decides : ∀ (s : String) (items : List Item),
      ofText s = .ok items ↔ WrittenList s.toList items := fun s items => by
    rw [ofText_eq_readFrom, readFrom_eq_ok_iff]
  refine ⟨decides, fun s unwritten => ?_, fun finalComma gap printed printable => ?_⟩
  · cases read : ofText s with
    | error fault => exact ⟨fault, rfl⟩
    | ok items => exact absurd ⟨items, (decides s items).mp read⟩ unwritten
  · rw [decides, String.toList_ofList]
    exact writtenList_printList finalComma gap printable

/-- Three options, one of each kind of value; the string holds both quotes, a comma and a
backslash. -/
def scattered : List (Layout × Item) :=
  [({ before := ⟨['\n'], by decide⟩, afterEquals := ⟨['\u2003', ' '], by decide⟩
      quote := ⟨'\'', rfl⟩ }, ⟨"from_type", .string "Bar<'a, \"\\\">"⟩),
    ({ after := ⟨['\t'], by decide⟩ }, ⟨"skip", .flag⟩),
    ({ beforeEquals := ⟨[' '], by decide⟩ }, ⟨"unpack", .name "True"⟩)]

theorem ofText_printList_scattered :
    (∀ p ∈ scattered, p.2.Printable) ∧
      printList true ⟨[' '], rfl⟩ scattered =
        "\nfrom_type=\u2003 'Bar<\\'a, \"\\\\\">',skip\t,unpack =True, ".toList ∧
      ofText "\nfrom_type=\u2003 'Bar<\\'a, \"\\\\\">',skip\t,unpack =True, " =
        .ok [⟨"from_type", .string "Bar<'a, \"\\\">"⟩, ⟨"skip", .flag⟩,
          ⟨"unpack", .name "True"⟩] := by
  have printable : ∀ p ∈ scattered, p.2.Printable := by
    simp only [scattered, List.forall_mem_cons, List.not_mem_nil, false_imp_iff, implies_true,
      and_true]
    exact ⟨⟨by decide, by simp⟩, ⟨by decide, by simp⟩, ⟨by decide, by simp; decide⟩⟩
  exact ⟨printable, by decide, ofText_iff_written.2.2 true ⟨[' '], rfl⟩ scattered printable⟩

end Item

end Narrowing.Directive
