import Narrowing.Code.Impl
import Narrowing.Conversion
import Narrowing.Proofs.StructSource.StringValue
import Narrowing.Proofs.Text

/-!
# The message of an error struct

The error struct of a fallible impl writes its message by a format string, and the format string is
written as a string literal.  So the spelling of the source passes two readers: the literal is read
first, and its value is read as a format string, in which a brace is doubled and a pair of braces is
a placeholder.

The spelling has its braces doubled for the second reader and nothing done to it for the first one.
The second half of the way is therefore never wrong: `formatItems_eq_messageItems_iff` says that the
message is what the format string means, whatever the source.  The first half is right exactly for
the sources that are `Bare`.  A character literal among the arguments of a source may hold a quote,
and then the literal ends inside the spelling (`errorText_quoted`).

## Main statements

* `formatItems_flatMap_written`, `eq_written_of_formatItems` — format strings and what they mean
* `errorText_message_iff` — the sources whose spelling the message returns
-/

namespace Narrowing.Code

/-! ## Format strings -/

/-- An item of a format string: a character that is written, or a place for an argument. -/
inductive FormatItem where
  | char (c : Char)
  | hole (argument : List Char)
deriving DecidableEq, Repr

/-- A brace, which means something in a format string. -/
def isBrace (c : Char) : Bool := c == '\x7b' || c == '\x7d'

theorem isBrace_eq_false_iff {c : Char} : isBrace c = false ↔ c ≠ '\x7b' ∧ c ≠ '\x7d' := by
  rw [isBrace, Bool.or_eq_false_iff, beq_eq_false_iff_ne, beq_eq_false_iff_ne]

namespace FormatItem

/-- How an item is written. -/
def written : FormatItem → List Char
  | char c => if isBrace c then [c, c] else [c]
  | hole argument => '\x7b' :: argument ++ ['\x7d']

/-- What stands between the braces of a placeholder has no braces itself. -/
def Proper : FormatItem → Prop
  | char _ => True
  | hole argument => argument.any isBrace = false

end FormatItem

/-- The items of a format string, behind what has been read of a placeholder, if one is open.
Outside of placeholders a brace is written twice. -/
def formatItemsFrom : Option (List Char) → List Char → Option (List FormatItem)
  | none, [] => some []
  | none, '\x7b' :: '\x7b' :: r => (formatItemsFrom none r).map (.char '\x7b' :: ·)
  | none, '\x7d' :: '\x7d' :: r => (formatItemsFrom none r).map (.char '\x7d' :: ·)
  | none, '\x7b' :: r => formatItemsFrom (some []) r
  | none, '\x7d' :: _ => none
  | none, c :: r => (formatItemsFrom none r).map (.char c :: ·)
  | some _, [] => none
  | some argument, '\x7d' :: r => (formatItemsFrom none r).map (.hole argument :: ·)
  | some _, '\x7b' :: _ => none
  | some argument, c :: r => formatItemsFrom (some (argument ++ [c])) r

/-- The items of a format string, or nothing when its braces do not match. -/
def formatItems (s : List Char) : Option (List FormatItem) := formatItemsFrom none s

theorem eq_written_of_formatItemsFrom {opened : Option (List Char)} {s : List Char}
    {items : List FormatItem} (h : formatItemsFrom opened s = some items) :
    opened.elim [] ('\x7b' :: ·) ++ s = items.flatMap FormatItem.written := by
  fun_induction formatItemsFrom opened s generalizing items with
  | case1 => cases h; rfl
  | case2 r ih | case3 r ih =>
      obtain ⟨others, found, rfl⟩ := Option.map_eq_some_iff.mp h
      rw [List.flatMap_cons, ← ih found]
      rfl
  | case4 r _ ih => exact ih h
  | case6 c r _ _ noOpener noCloser ih =>
      obtain ⟨others, found, rfl⟩ := Option.map_eq_some_iff.mp h
      have plain : isBrace c = false := isBrace_eq_false_iff.mpr ⟨noOpener, noCloser⟩
      rw [List.flatMap_cons, ← ih found, FormatItem.written, plain]
      rfl
  | case8 argument r ih =>
      obtain ⟨others, found, rfl⟩ := Option.map_eq_some_iff.mp h
      rw [List.flatMap_cons, ← ih found, FormatItem.written]
      simp
  | case10 argument c r _ _ ih =>
      rw [← ih h]
      simp
  | case5 | case7 | case9 => cases h

/-- **A format string is written as its items are.** -/
theorem eq_written_of_formatItems {s : List Char} {items : List FormatItem}
    (h : formatItems s = some items) : s = items.flatMap FormatItem.written :=
  eq_written_of_formatItemsFrom h

/-- The characters of a placeholder up to the brace that closes it. -/
theorem formatItemsFrom_append {argument : List Char} (proper : argument.any isBrace = false)
    (before rest : List Char) :
    formatItemsFrom (some before) (argument ++ '\x7d' :: rest) =
      (formatItems rest).map (.hole (before ++ argument) :: ·) := by
  induction argument generalizing before with
  | nil => rw [List.append_nil]; rfl
  | cons c r ih =>
      rw [List.any_cons, Bool.or_eq_false_iff] at proper
      obtain ⟨noOpener, noCloser⟩ := isBrace_eq_false_iff.mp proper.1
      have others := proper.2
      rw [List.cons_append, formatItemsFrom, ih others, List.append_assoc]
      · rfl
      · exact noCloser
      · exact noOpener

theorem formatItems_written_append {item : FormatItem} (proper : item.Proper) (rest : List Char) :
    formatItems (item.written ++ rest) = (formatItems rest).map (item :: ·) := by
  cases item with
  | char c =>
      cases brace : isBrace c with
      | true =>
          rw [isBrace, Bool.or_eq_true, beq_iff_eq, beq_iff_eq] at brace
          rcases brace with rfl | rfl <;> rfl
      | false =>
          obtain ⟨noOpener, noCloser⟩ := isBrace_eq_false_iff.mp brace
          rw [FormatItem.written, brace]
          show formatItemsFrom none (c :: rest) = _
          rw [formatItemsFrom]
          · rfl
          · exact fun _ opener => absurd opener noOpener
          · exact fun _ closer => absurd closer noCloser
          · exact noOpener
          · exact noCloser
  | hole argument =>
      have opened : formatItems (FormatItem.written (.hole argument) ++ rest) =
          formatItemsFrom (some []) (argument ++ '\x7d' :: rest) := by
        rw [FormatItem.written, List.append_assoc]
        show formatItemsFrom none ('\x7b' :: (argument ++ '\x7d' :: rest)) = _
        cases argument with
        | nil => rfl
        | cons c r =>
            -- a second opening brace would make a brace that is written
            rw [List.cons_append, formatItemsFrom]
            intro _ second
            have first := (Bool.or_eq_false_iff.mp proper).1
            exact (isBrace_eq_false_iff.mp first).1 (List.cons.inj second).1
      rw [opened, formatItemsFrom_append proper, List.nil_append]

/-- **Written items are read back.** -/
theorem formatItems_flatMap_written {items : List FormatItem}
    (proper : ∀ item ∈ items, item.Proper) :
    formatItems (items.flatMap FormatItem.written) = some items := by
  induction items with
  | nil => rfl
  | cons item items ih =>
      obtain ⟨first, others⟩ := List.forall_mem_cons.mp proper
      rw [List.flatMap_cons, formatItems_written_append first, ih others, Option.map_some]

/-! ## The message -/

/-- What the message says: one place, for the name of the field, and the source as it is
spelled. -/
def messageItems (source : String) : List FormatItem :=
  "field `".toList.map .char ++ .hole [] ::
    ("` of the super struct " ++ source ++ " is missing").toList.map .char

/-- The format string that the error struct writes the message by. -/
def messageFormat (source : String) : String :=
  "field `\x7b\x7d` of the super struct " ++ formatEscaped source ++ " is missing"

/-- Doubling its braces writes a text as items of a format string. -/
theorem toList_formatEscaped (s : String) :
    (formatEscaped s).toList = (s.toList.map .char).flatMap FormatItem.written := by
  rw [formatEscaped, String.toList_ofList, List.flatMap_map]
  refine congrArg s.toList.flatMap (funext fun c => ?_)
  simp only [FormatItem.written, isBrace, Bool.or_eq_true, beq_iff_eq]

/-- Other characters are items of their own. -/
theorem flatMap_written_map_char {s : List Char} (plain : s.any isBrace = false) :
    (s.map .char).flatMap FormatItem.written = s := by
  induction s with
  | nil => rfl
  | cons c r ih =>
      rw [List.any_cons, Bool.or_eq_false_iff] at plain
      rw [List.map_cons, List.flatMap_cons, ih plain.2, FormatItem.written, plain.1]
      rfl

theorem toList_messageFormat (source : String) :
    (messageFormat source).toList = (messageItems source).flatMap FormatItem.written := by
  have before : "field `".toList.any isBrace = false := rfl
  have between : "` of the super struct ".toList.any isBrace = false := rfl
  have behind : " is missing".toList.any isBrace = false := rfl
  have first : "field `\x7b\x7d` of the super struct ".toList =
      "field `".toList ++ (FormatItem.written (.hole []) ++ "` of the super struct ".toList) := rfl
  unfold messageItems messageFormat
  simp only [String.toList_append, List.map_append, List.flatMap_append, List.flatMap_cons,
    flatMap_written_map_char before, flatMap_written_map_char between,
    flatMap_written_map_char behind, ← toList_formatEscaped, first, List.append_assoc]

theorem proper_of_mem_messageItems {source : String} {item : FormatItem}
    (member : item ∈ messageItems source) : item.Proper := by
  unfold messageItems at member
  rw [List.mem_append, List.mem_cons, List.mem_map, List.mem_map] at member
  rcases member with ⟨c, -, rfl⟩ | rfl | ⟨c, -, rfl⟩
  · trivial
  · exact List.any_nil
  · trivial

/-- **The format string means the message**, and no other text does. -/
theorem formatItems_eq_messageItems_iff (source : String) (s : List Char) :
    formatItems s = some (messageItems source) ↔ s = (messageFormat source).toList := by
  rw [toList_messageFormat]
  constructor
  · exact eq_written_of_formatItems
  · rintro rfl
    exact formatItems_flatMap_written fun item => proper_of_mem_messageItems

/-! ## The literal -/

/-- A text from behind the opening quote of a literal on is read as a literal that ends in front of
the rest, and its value as a format string that means the message. -/
def ReadsAsMessage (source : String) (s rest : List Char) : Prop :=
  ∃ value, StructSource.readString s = some (value, rest) ∧
    formatItems value = some (messageItems source)

/-- Doubling braces adds no other character. -/
theorem mem_formatEscaped {s : String} {c : Char} :
    c ∈ (formatEscaped s).toList ↔ c ∈ s.toList := by
  rw [formatEscaped, String.toList_ofList, List.mem_flatMap]
  constructor
  · rintro ⟨d, member, written⟩
    obtain rfl : c = d := by
      split at written <;> simpa using written
    exact member
  · intro member
    refine ⟨c, member, ?_⟩
    split <;> exact List.mem_cons_self

theorem bare_messageFormat_iff (source : String) :
    StructSource.Bare (messageFormat source).toList ↔ StructSource.Bare source.toList := by
  have before : StructSource.Bare "field `\x7b\x7d` of the super struct ".toList := by decide
  have behind : StructSource.Bare " is missing".toList := by decide
  unfold messageFormat StructSource.Bare at *
  simp only [String.toList_append, List.forall_mem_append, mem_formatEscaped]
  exact ⟨fun bare => bare.1.2, fun bare => ⟨⟨before, bare⟩, behind⟩⟩

/-- **The literal says the message** exactly when the spelling of the source is bare. -/
theorem readsAsMessage_iff (source : String) (rest : List Char) :
    ReadsAsMessage source ((messageFormat source).toList ++ '"' :: rest) rest ↔
      StructSource.Bare source.toList := by
  simp only [ReadsAsMessage, formatItems_eq_messageItems_iff, exists_eq_right]
  rw [StructSource.readString_append_iff, bare_messageFormat_iff]

/-- **The message of an error struct.**  Its literal stands in the tenth line, and ends at the quote
that is written for it with the message as its value exactly when the spelling of the source has no
quote, no backslash and no carriage return.  Braces in it are never mistaken. -/
theorem errorText_message_iff (c : Conversion) :
    ∃ rest,
      (errorText c).toList =
        Text.ofLines ((errorLines c).take 9) ++
          ("        write!(f, \"".toList ++
            ((messageFormat (c.source.spell .angle)).toList ++ '"' :: rest)) ∧
      ", self.field)\n".toList <+: rest ∧
      (ReadsAsMessage (c.source.spell .angle)
          ((messageFormat (c.source.spell .angle)).toList ++ '"' :: rest) rest ↔
        ∀ ch ∈ (c.source.spell .angle).toList, ch ≠ '"' ∧ ch ≠ '\\' ∧ ch ≠ '\r') := by
  refine ⟨", self.field)\n".toList ++ Text.ofLines ((errorLines c).drop 10), ?_,
    List.prefix_append _ _, readsAsMessage_iff _ _⟩
  have nonempty : errorLines c ≠ [] := List.cons_ne_nil _ _
  have cut : errorLines c = (errorLines c).take 9 ++
      ("        write!(f, \"field `\x7b\x7d` of the super struct " ++
        formatEscaped (c.source.spell .angle) ++ " is missing\", self.field)") ::
          (errorLines c).drop 10 := rfl
  have lines := congrArg Text.ofLines cut
  rw [Text.ofLines_append, Text.ofLines_cons] at lines
  rw [errorText, Text.toList_lines nonempty, lines]
  have opening : "        write!(f, \"field `\x7b\x7d` of the super struct ".toList =
      "        write!(f, \"".toList ++ "field `\x7b\x7d` of the super struct ".toList := rfl
  have closing : " is missing\", self.field)".toList =
      " is missing".toList ++ '"' :: ", self.field)".toList := rfl
  have feed : ", self.field)\n".toList = ", self.field)".toList ++ ['\n'] := rfl
  unfold messageFormat
  simp only [String.toList_append, opening, closing, feed, List.append_assoc, List.cons_append,
    List.nil_append]

/-- A target whose source is applied to the given argument. -/
def appliedSource (argument : String) : Declaration where
  schema := { name := "Foo", fields := [{ name := "x", type := "u8" }] }
  directive := some ("from_type = \"Bar<" ++ argument ++ ">\", unpack")

/-- The conversion of such a target. -/
def appliedConversion (argument value : String) : Conversion :=
  ⟨(appliedSource argument).schema, ⟨"Bar", [.bound value]⟩, [⟨"x", "x", true, "u8", none⟩]⟩

/-- The braces of a constant expression are read as braces. -/
theorem errorText_braced :
    (appliedSource "\x7b N \x7d").generate = .ok (appliedConversion "\x7b N \x7d" "\x7b N \x7d") ∧
      ∃ before s rest, (errorText (appliedConversion "\x7b N \x7d" "\x7b N \x7d")).toList =
          before ++ ("        write!(f, \"".toList ++ s) ∧
        ReadsAsMessage "Bar<\x7b N \x7d>" s rest := by
  refine ⟨by decide +kernel, ?_⟩
  obtain ⟨rest, text, -, reads⟩ :=
    errorText_message_iff (appliedConversion "\x7b N \x7d" "\x7b N \x7d")
  have spelled : (appliedConversion "\x7b N \x7d" "\x7b N \x7d").source.spell .angle =
      "Bar<\x7b N \x7d>" := by decide
  have bare : StructSource.Bare "Bar<\x7b N \x7d>".toList := by decide
  rw [spelled] at text reads
  exact ⟨_, _, rest, text, reads.mpr bare⟩

/-- **A message that is cut off**: the quote of a character literal ends the literal that it is
copied into. -/
theorem errorText_quoted :
    (appliedSource "'\\\"'").generate = .ok (appliedConversion "'\\\"'" "'\"'") ∧
      (appliedConversion "'\\\"'" "'\"'").isFallible = true ∧
      (appliedConversion "'\\\"'" "'\"'").source.spell .angle = "Bar<'\"'>" ∧
      ∀ rest,
        StructSource.readString ((messageFormat "Bar<'\"'>").toList ++ '"' :: rest) =
          some ("field `\x7b\x7d` of the super struct Bar<'".toList,
            "'> is missing\"".toList ++ rest) ∧
        ¬ ReadsAsMessage "Bar<'\"'>" ((messageFormat "Bar<'\"'>").toList ++ '"' :: rest) rest := by
  refine ⟨by decide +kernel, by decide +kernel, by decide +kernel, fun rest => ⟨?_, ?_⟩⟩
  · have spelled : (messageFormat "Bar<'\"'>").toList =
        "field `\x7b\x7d` of the super struct Bar<'".toList ++ '"' :: "'> is missing".toList := by
      decide
    rw [spelled, List.append_assoc, List.cons_append]
    exact StructSource.readString_append_iff.mpr (by decide)
  · rw [readsAsMessage_iff]
    decide

end Narrowing.Code
