import Narrowing.Code.Function
import Narrowing.Proofs.ClassSource.TripleQuoted

/-!
# The literals of an emitted function

An emitted function has two kinds of string literals.  The doc string names the source and the
target, copied between triple quotes as they are spelled.  The report that a check raises names the
target field, the source field and the source, each shown between quotes of its own.

Shown texts are read back, whatever they hold, so every report names what it should
(`exists_arguments`).  Copied texts are not: the doc string ends at its own quotes and says what
was written exactly when the spellings of the source and of the target are `Faithful`
(`faithful_docText_iff`).  A source may be applied to a literal with triple quotes, and then the doc
string ends inside of it (`docText_tripled`).

## Main statements

* `text_literals` — the doc string and the reports of an emitted function
-/

namespace Narrowing.Code

open ClassSource Text

namespace Function

variable {named : List Char → Option Nat}

/-! ## The doc string -/

/-- What the doc string says behind the names of the two types. -/
def docTail (fallible : Bool) : List Char :=
  if fallible then
    ofLines [", unpacking optional fields.", "", "    Raises:",
      "        MissingFieldError: for the first unpacked field that is None."] ++ "    ".toList
  else ['.']

/-- What stands between the quotes of the doc string. -/
def docText (f : Function) : List Char :=
  s!"Convert {f.parameterType} into {f.resultType}".toList ++ docTail f.fallible

theorem ofLines_docLines (f : Function) :
    ofLines f.docLines = "    \"\"\"".toList ++ (f.docText ++ "\"\"\"\n".toList) := by
  have quotes : "    \"\"\"".toList = "    ".toList ++ "\"\"\"".toList := rfl
  have feed : "\"\"\"\n".toList = "\"\"\"".toList ++ ['\n'] := rfl
  have stop : ".\"\"\"".toList = '.' :: "\"\"\"".toList := rfl
  unfold docLines docText docTail
  cases f.fallible with
  | true =>
      simp only [if_true, String.toList_append, ofLines_cons, ofLines_nil, toString, quotes, feed,
        List.append_assoc, List.cons_append, List.nil_append]
  | false =>
      simp only [Bool.false_eq_true, if_false, String.toList_append, ofLines_cons, ofLines_nil,
        toString, quotes, feed, stop, List.append_assoc, List.cons_append, List.nil_append]

theorem separates_of_getLast?_docText (f : Function) : ∀ c ∈ f.docText.getLast?, Separates c := by
  intro c last
  have ends : ∃ d, (docTail f.fallible).getLast? = some d ∧ Separates d := by
    cases f.fallible with
    | true => exact ⟨' ', rfl, separates_of (by decide) rfl⟩
    | false => exact ⟨'.', rfl, separates_of (by decide) rfl⟩
  obtain ⟨d, found, separates⟩ := ends
  rw [docText, List.getLast?_append, found, Option.some_or] at last
  rwa [← Option.some.inj last]

/-- **The doc string is faithful** where the names of the two types are: the other words in it are
apart from them. -/
theorem faithful_docText_iff (f : Function) :
    Faithful f.docText ↔ Faithful f.parameterType.toList ∧ Faithful f.resultType.toList := by
  obtain ⟨c, t, tail, apart, rest⟩ :
      ∃ c t, docTail f.fallible = c :: t ∧ Separates c ∧ Faithful t := by
    cases f.fallible with
    | true =>
        exact ⟨',', _, rfl, separates_of (by decide) rfl,
          faithful_of_any rfl (by decide +kernel)⟩
    | false =>
        exact ⟨'.', [], rfl, separates_of (by decide) rfl, faithful_of_any rfl (by decide)⟩
  -- each name stands between characters that no altered part reaches across
  have space : Separates ' ' := separates_of (by decide) rfl
  have first : "Convert ".toList = "Convert".toList ++ [' '] := rfl
  have second : " into ".toList = ' ' :: ("into".toList ++ [' ']) := rfl
  have convert : Faithful "Convert".toList := faithful_of_any rfl (by decide)
  have into : Faithful "into".toList := faithful_of_any rfl (by decide)
  unfold docText
  simp only [toString, String.toList_append, first, second, tail, List.append_assoc,
    List.cons_append, List.nil_append]
  rw [faithful_append_cons_iff space, faithful_append_cons_iff space,
    faithful_append_cons_iff space, faithful_append_cons_iff apart]
  exact ⟨fun h => ⟨h.2.1, h.2.2.2.1⟩, fun h => ⟨convert, h.1, into, h.2, rest⟩⟩

/-! ## The reports -/

theorem ofLines_statementLines_require (x : String) (missing : MissingField) :
    ofLines (statementLines (.require x missing)) =
      ofLines [s!"    if {x} is None:"] ++
        ("        raise MissingFieldError(".toList ++ (quotedChars missing.field.toList ++
          (", ".toList ++ (quotedChars missing.sourceField.toList ++
            (", ".toList ++ (quotedChars (missing.source.getD "").toList ++ ")\n".toList)))))) := by
  have closing : ")\n".toList = ")".toList ++ ['\n'] := rfl
  unfold statementLines
  simp only [String.intercalate_cons_cons, String.intercalate_singleton, quoted, ofLines_cons,
    ofLines_nil, String.toList_append, String.toList_ofList, toString, closing, List.append_assoc,
    List.cons_append, List.nil_append]

/-- **Shown texts between commas are read one after the other.** -/
theorem exists_arguments (named : List Char → Option Nat) (a b c rest : List Char) :
    ∃ s₁ s₂ s₃,
      s₁ = quotedChars a ++ (", ".toList ++ (quotedChars b ++ (", ".toList ++
        (quotedChars c ++ (")\n".toList ++ rest))))) ∧
      readString named s₁ = some (a.map Char.toNat, ", ".toList ++ s₂) ∧
      readString named s₂ = some (b.map Char.toNat, ", ".toList ++ s₃) ∧
      readString named s₃ = some (c.map Char.toNat, ")\n".toList ++ rest) := by
  have apart {d : Char} (unquoted : Directive.isQuote d = false) (s : List Char) :
      some d ≠ some (quoteFor s) := by
    rintro same
    rw [Option.some.inj same, isQuote_quoteFor] at unquoted
    cases unquoted
  exact ⟨_, _, _, rfl, readString_quotedChars (apart rfl a), readString_quotedChars (apart rfl b),
    readString_quotedChars (apart rfl c)⟩

/-- Every report is on an unpacked field. -/
theorem exists_of_require_mem {c : Conversion} {x : String} {missing : MissingField}
    (member : .require x missing ∈ (ofConversion c).body) :
    ∃ m ∈ c.unpackChecks, missing = ⟨m.target, m.source, some (c.source.spell .square)⟩ := by
  rw [ofConversion, List.mem_append, List.mem_flatMap] at member
  rcases member with ⟨m, check, statement⟩ | build
  · rw [checkOf, List.mem_pair] at statement
    rcases statement with read | require
    · cases read
    · cases require
      exact ⟨m, check, rfl⟩
  · cases List.mem_singleton.mp build

/-! ## The text -/

theorem toList_text (f : Function) : f.text.toList = ofLines f.lines :=
  toList_lines (List.cons_ne_nil _ _)

/-- **The literals of an emitted function.**

1. The doc string stands behind the signature.  It ends at the quotes that are written for it, with
   what was written as its value, exactly when the spellings of the source and of the target are
   faithful.
2. Each check raises a report on an unpacked field, and the three literals in it stand for the name
   of the target field, the name of the source field and the spelling of the source, whatever these
   are. -/
theorem text_literals (named : List Char → Option Nat) (c : Conversion) :
    (∃ rest,
      (ofConversion c).text.toList =
        ofLines ((ofConversion c).lines.take 1) ++ ("    ".toList ++
          ("\"\"\"".toList ++ ((ofConversion c).docText ++ ("\"\"\"".toList ++ rest)))) ∧
      (readString named
          ("\"\"\"".toList ++ ((ofConversion c).docText ++ ("\"\"\"".toList ++ rest))) =
          some ((ofConversion c).docText.map Char.toNat, rest) ↔
        Faithful (c.source.spell .square).toList ∧ Faithful (targetType c).toList)) ∧
    ∀ front x missing back, (ofConversion c).body = front ++ .require x missing :: back →
      ∃ m ∈ c.unpackChecks, ∃ s₁ s₂ s₃ rest,
        (ofConversion c).text.toList =
          ofLines ((ofConversion c).lines.take 1 ++ (ofConversion c).docLines ++
            front.flatMap statementLines ++ [s!"    if {x} is None:"]) ++
          ("        raise MissingFieldError(".toList ++ s₁) ∧
        readString named s₁ = some (m.target.toList.map Char.toNat, ", ".toList ++ s₂) ∧
        readString named s₂ = some (m.source.toList.map Char.toNat, ", ".toList ++ s₃) ∧
        readString named s₃ =
          some ((c.source.spell .square).toList.map Char.toNat, ")\n".toList ++ rest) := by
  have text : (ofConversion c).text.toList =
      ofLines ((ofConversion c).lines.take 1) ++ (ofLines (ofConversion c).docLines ++
        ofLines ((ofConversion c).body.flatMap statementLines)) := by
    have cut : (ofConversion c).lines = (ofConversion c).lines.take 1 ++
        ((ofConversion c).docLines ++ (ofConversion c).body.flatMap statementLines) := rfl
    have parts := congrArg ofLines cut
    rwa [ofLines_append, ofLines_append, ← toList_text] at parts
  refine ⟨⟨'\n' :: ofLines ((ofConversion c).body.flatMap statementLines), ?_, ?_⟩, ?_⟩
  · have opening : "    \"\"\"".toList = "    ".toList ++ "\"\"\"".toList := rfl
    have closing : "\"\"\"\n".toList = "\"\"\"".toList ++ ['\n'] := rfl
    rw [text, ofLines_docLines, opening, closing]
    simp only [List.append_assoc, List.cons_append, List.nil_append]
  · exact (readString_tripled_iff (separates_of_getLast?_docText (ofConversion c)) _).trans
      (faithful_docText_iff (ofConversion c))
  · intro front x missing back split
    have member : .require x missing ∈ (ofConversion c).body := by
      rw [split]
      exact List.mem_append_right _ List.mem_cons_self
    obtain ⟨m, check, rfl⟩ := exists_of_require_mem member
    obtain ⟨s₁, s₂, s₃, arguments, reads⟩ := exists_arguments named m.target.toList m.source.toList
      (c.source.spell .square).toList (ofLines (back.flatMap statementLines))
    refine ⟨m, check, s₁, s₂, s₃, ofLines (back.flatMap statementLines), ?_, reads⟩
    rw [text, split, List.flatMap_append, List.flatMap_cons, ofLines_append, ofLines_append,
      ofLines_statementLines_require, arguments, ofLines_append, ofLines_append, ofLines_append]
    simp only [List.append_assoc, Option.getD_some]

/-- A target with one unpacked field, whose source is applied to the type of the given literal. -/
def literalSource (literal : String) : Declaration where
  schema := { name := "Foo", fields := [{ name := "x", type := "int" }] }
  directive := some ("from_type = 'Bar[Literal[" ++ literal ++ "]]', unpack")

/-- The conversion of such a target. -/
def literalConversion (literal : String) : Conversion :=
  ⟨(literalSource literal).schema, ⟨"Bar", [.bound ("Literal[" ++ literal ++ "]")]⟩,
    [⟨"x", "x", true, "int", none⟩]⟩

/-- Quotes in the spelling of a source do no harm on their own. -/
theorem text_literals_quoted :
    (literalSource "\"a\"").generate = .ok (literalConversion "\"a\"") ∧
      (∃ before rest,
        (ofConversion (literalConversion "\"a\"")).text.toList = before ++ ("\"\"\"".toList ++
          ((ofConversion (literalConversion "\"a\"")).docText ++ ("\"\"\"".toList ++ rest))) ∧
        readString (fun _ => none) ("\"\"\"".toList ++
            ((ofConversion (literalConversion "\"a\"")).docText ++ ("\"\"\"".toList ++ rest))) =
          some ((ofConversion (literalConversion "\"a\"")).docText.map Char.toNat, rest)) ∧
      ∃ before s₁ s₂ s₃ rest,
        (ofConversion (literalConversion "\"a\"")).text.toList =
          before ++ ("        raise MissingFieldError(".toList ++ s₁) ∧
        readString (fun _ => none) s₁ = some ("x".toList.map Char.toNat, ", ".toList ++ s₂) ∧
        readString (fun _ => none) s₂ = some ("x".toList.map Char.toNat, ", ".toList ++ s₃) ∧
        readString (fun _ => none) s₃ =
          some ("Bar[Literal[\"a\"]]".toList.map Char.toNat, ")\n".toList ++ rest) := by
  have spelled : (literalConversion "\"a\"").source.spell .square = "Bar[Literal[\"a\"]]" := by
    decide
  have target : targetType (literalConversion "\"a\"") = "Foo" := by decide
  obtain ⟨⟨rest, text, reads⟩, reports⟩ :=
    text_literals (fun _ => none) (literalConversion "\"a\"")
  rw [← List.append_assoc] at text
  refine ⟨by decide +kernel, ⟨_, rest, text, reads.mpr ?_⟩, ?_⟩
  · rw [spelled, target]
    exact ⟨faithful_of_any rfl (by decide), faithful_of_any rfl (by decide)⟩
  · obtain ⟨m, check, s₁, s₂, s₃, rest, text, first, second, third⟩ :=
      reports [.read "field_x" "x"] "field_x" ⟨"x", "x", some "Bar[Literal[\"a\"]]"⟩
        [.build "Foo" [("x", .var "field_x")]] (by decide)
    obtain rfl : m = ⟨"x", "x", true, "int", none⟩ := List.mem_singleton.mp check
    rw [spelled] at third
    exact ⟨_, s₁, s₂, s₃, rest, text, first, second, third⟩

/-- **A doc string that is cut off**: three quotes in the spelling of the source end it. -/
theorem docText_tripled :
    (literalSource "\"\"\"a\"\"\"").generate = .ok (literalConversion "\"\"\"a\"\"\"") ∧
      (literalConversion "\"\"\"a\"\"\"").source.spell .square =
        "Bar[Literal[\"\"\"a\"\"\"]]" ∧
      ∀ named rest,
        readString named ("\"\"\"".toList ++
            ((ofConversion (literalConversion "\"\"\"a\"\"\"")).docText ++
              ("\"\"\"".toList ++ rest))) =
          some ("Convert Bar[Literal[".toList.map Char.toNat,
            "a\"\"\"]] into Foo".toList ++ (docTail true ++ ("\"\"\"".toList ++ rest))) := by
  refine ⟨by decide +kernel, by decide +kernel, fun named rest => ?_⟩
  have doc : (ofConversion (literalConversion "\"\"\"a\"\"\"")).docText =
      "Convert Bar[Literal[".toList ++ ("\"\"\"".toList ++
        ("a\"\"\"]] into Foo".toList ++ docTail true)) := by decide +kernel
  have separates : ∀ c ∈ "Convert Bar[Literal[".toList.getLast?, Separates c := by
    intro c last
    obtain rfl : '[' = c := Option.some.inj last
    exact separates_of (by decide) rfl
  have faithful : Faithful "Convert Bar[Literal[".toList := faithful_of_any rfl (by decide)
  rw [doc, List.append_assoc, List.append_assoc, List.append_assoc]
  exact (readString_tripled_iff separates _).mpr faithful

end Function

end Narrowing.Code
