import Narrowing.Proofs.DocString
import Narrowing.Proofs.Function
import Narrowing.Proofs.ReadBack.Scanner
import Narrowing.Proofs.Reference.Spelling
import Narrowing.Proofs.SnakeCase

/-!
# The statements of an emitted function

A call of an emitted function executes its statements.  Here the statements are read back
from its text, with the doc string as Python reads it, and they are the ones that are
executed.

Nothing but the text is given, so the names in it have to be told apart: from the words
`if` and `return`, with which other statements begin, and from the argument `value`.
Names of variables that stand for fields are (`spelled_ofConversion`).  The types in the
signature are copied as they are spelled, so they must not break a line, and must be
faithful in the doc string.

## Main statements

* `Function.body?_text` — the statements of a function, read from its text
* `Function.runText_text` — what is read is what is executed
-/

namespace Narrowing.Code

open ClassSource Scanner Text

namespace Function

variable (named : List Char → Option Nat)

/-! ## Readers -/

/-- Takes a name. -/
def nameScanner : Scanner String := Scanner.name isWordPart

/-- Takes an operand. -/
def operandScanner : Scanner Operand := operand isWordPart .sourceField .var

/-- Takes the line of a keyword argument. -/
def argumentScanner : Scanner (String × Operand) := entry isWordPart "        " "=" operandScanner

/-- Takes a check behind its first word. -/
def requireScanner : Scanner Statement := do
  literal " "
  let x ← nameScanner
  literal " is None:\n        raise MissingFieldError("
  let field ← shown named
  literal ", "
  let sourceField ← shown named
  literal ", "
  let source ← shown named
  literal ")\n"
  return .require x ⟨field, sourceField, some source⟩

/-- Takes the arguments of the last statement behind the bracket, on lines of their own if there are
any. -/
def argumentsScanner : Scanner (List (String × Operand)) :=
  (do
    literal ")\n"
    return [])
  <|> (do
    literal "\n"
    let args ← many argumentScanner
    literal "    )\n"
    return args)

/-- Takes the last statement behind its first word. -/
def buildScanner : Scanner Statement := do
  literal " "
  let type ← nameScanner
  literal "("
  return .build type (← argumentsScanner)

/-- Takes a statement. -/
def statementScanner : Scanner Statement := do
  literal "    "
  let first ← nameScanner
  if first = "if" then requireScanner named
  else if first = "return" then buildScanner
  else
    literal " = value."
    let field ← nameScanner
    literal "\n"
    return .read first field

/-- Takes a function: its signature, its doc string and its statements. -/
def bodyScanner : Scanner (List Statement) := do
  line
  literal "    "
  let _ ← shown named
  literal "\n"
  many (statementScanner named)

/-- The statements of a function, read from its text. -/
def body? (text : String) : Option (List Statement) := whole? (bodyScanner named) text

/-! ## What can be read -/

/-- The text is a name. -/
abbrev IsPythonName (n : String) : Prop := IsName isWordPart n

/-- An operand that is told from others by its text. -/
inductive Operand.Spelled : Operand → Prop
  | sourceField {field : String} (isName : IsPythonName field) : Spelled (.sourceField field)
  | var {x : String} (isName : IsPythonName x) (other : x ≠ "value") : Spelled (.var x)

/-- A statement that is told from others by its text. -/
inductive Statement.Spelled : Statement → Prop
  | read {x field : String} (isName : IsPythonName x) (other : x ∉ ["if", "return"])
      (isField : IsPythonName field) : Spelled (.read x field)
  | require {x field sourceField source : String} (isName : IsPythonName x) :
      Spelled (.require x ⟨field, sourceField, some source⟩)
  | build {type : String} {args : List (String × Operand)} (isName : IsPythonName type)
      (keys : ∀ a ∈ args, IsPythonName a.1) (operands : ∀ a ∈ args, Operand.Spelled a.2) :
      Spelled (.build type args)

/-- **A function that is read back from its text.** -/
structure Spelled (f : Function) : Prop where
  name : '\n' ∉ f.name.toList
  parameter : '\n' ∉ f.parameterType.toList ∧ Faithful f.parameterType.toList
  result : '\n' ∉ f.resultType.toList ∧ Faithful f.resultType.toList
  body : ∀ s ∈ f.body, Statement.Spelled s

/-! ## Reading -/

theorem run_operandScanner {o : Operand} (spelled : Operand.Spelled o) {t : String}
    (ends : Apart isWordPart t) (s : List Char) :
    operandScanner ((operandText o).toList ++ (t.toList ++ s)) = some (o, t.toList ++ s) := by
  cases spelled with
  | sourceField isName => exact run_operand_field (by decide) (by decide) isName ends s
  | var isName other => exact run_operand_variable isName other ends s

/-- The line of a keyword argument. -/
def argumentLine (a : String × Operand) : String := s!"        {a.1}={operandText a.2},"

theorem run_argumentScanner {a : String × Operand} (key : IsPythonName a.1)
    (operand : Operand.Spelled a.2) (s : List Char) :
    argumentScanner (ofLines [argumentLine a] ++ s) = some (a, s) := by
  rw [ofLines_cons, ofLines_nil, List.append_assoc]
  exact run_entry key (by decide) (fun r => run_operandScanner operand (by decide) r) s

theorem run_requireScanner {x : String} (isName : IsPythonName x)
    (field sourceField source : String) (s : List Char) :
    statementScanner named (ofLines (statementLines (.require x ⟨field, sourceField, some source⟩)) ++ s) =
      some (.require x ⟨field, sourceField, some source⟩, s) := by
  have keyword : IsPythonName "if" := by decide
  have text : ofLines (statementLines (.require x ⟨field, sourceField, some source⟩)) ++ s =
      "    ".toList ++ ("if".toList ++ (" ".toList ++ (x.toList ++
        (" is None:\n        raise MissingFieldError(".toList ++ (quotedChars field.toList ++
          (", ".toList ++ (quotedChars sourceField.toList ++ (", ".toList ++
            (quotedChars source.toList ++ (")\n".toList ++ s)))))))))) := by
    rw [ofLines_statementLines_require]
    simp [toString]
  rw [text, statementScanner, nameScanner, bind_apply (run_literal ..),
    bind_apply (run_name keyword (by decide) _), if_pos rfl, requireScanner, nameScanner,
    bind_apply (run_literal ..), bind_apply (run_name isName (by decide) _), bind_apply (run_literal ..),
    bind_apply (run_shown (by decide) _ _), bind_apply (run_literal ..), bind_apply (run_shown (by decide) _ _),
    bind_apply (run_literal ..), bind_apply (run_shown (by decide) _ _), bind_apply (run_literal ..)]
  rfl

theorem run_readScanner {x field : String} (isName : IsPythonName x) (other : x ∉ ["if", "return"])
    (isField : IsPythonName field) (s : List Char) :
    statementScanner named (ofLines (statementLines (.read x field)) ++ s) =
      some (.read x field, s) := by
  have text : ofLines (statementLines (.read x field)) ++ s = "    ".toList ++ (x.toList ++
      (" = value.".toList ++ (field.toList ++ ("\n".toList ++ s)))) := by
    simp [statementLines, toString]
  rw [List.mem_pair, not_or] at other
  rw [text, statementScanner, nameScanner, bind_apply (run_literal ..),
    bind_apply (run_name isName (by decide) _), if_neg other.1, if_neg other.2,
    bind_apply (run_literal ..), bind_apply (run_name isField (by decide) _),
    bind_apply (run_literal ..)]
  rfl

/-- The arguments of the last statement, behind the bracket. -/
def argumentsText : List (String × Operand) → List Char
  | [] => ")\n".toList
  | a :: args => "\n".toList ++ ((a :: args).flatMap (fun b => ofLines [argumentLine b]) ++ "    )\n".toList)

theorem ofLines_statementLines_build (type : String) (args : List (String × Operand)) :
    ofLines (statementLines (.build type args)) =
      "    ".toList ++ ("return".toList ++ (" ".toList ++ (type.toList ++ ("(".toList ++
        argumentsText args)))) := by
  cases args with
  | nil => simp [statementLines, argumentsText, toString]
  | cons a args =>
      have lines : statementLines (.build type (a :: args)) =
          s!"    return {type}(" :: (a :: args).map argumentLine ++ ["    )"] := rfl
      rw [lines, List.map_eq_flatMap, argumentsText, ← ofLines_flatMap]
      simp [toString]

theorem run_argumentsScanner {args : List (String × Operand)} (keys : ∀ a ∈ args, IsPythonName a.1)
    (operands : ∀ a ∈ args, Operand.Spelled a.2) (s : List Char) :
    argumentsScanner (argumentsText args ++ s) = some (args, s) := by
  cases args with
  | nil =>
      rw [argumentsText, argumentsScanner, orElse_apply, bind_apply (run_literal ..)]
      rfl
  | cons a args =>
      -- the line of the bracket is too short to be one of an argument
      have ends : argumentScanner ("    )\n".toList ++ s) = none := rfl
      have arguments := run_many (p := argumentScanner)
        (fun b member => run_argumentScanner (keys b member) (operands b member)) ends
      have other (r : List Char) :
          (do literal ")\n"; return [] : Scanner (List (String × Operand))) ("\n".toList ++ r) = none :=
        rfl
      rw [argumentsText, List.append_assoc, List.append_assoc, argumentsScanner, orElse_apply, other,
        bind_apply (run_literal ..), bind_apply arguments, bind_apply (run_literal ..)]
      rfl

theorem run_buildScanner {type : String} {args : List (String × Operand)} (isName : IsPythonName type)
    (keys : ∀ a ∈ args, IsPythonName a.1) (operands : ∀ a ∈ args, Operand.Spelled a.2)
    (s : List Char) :
    statementScanner named (ofLines (statementLines (.build type args)) ++ s) =
      some (.build type args, s) := by
  have keyword : IsPythonName "return" := by decide
  rw [ofLines_statementLines_build]
  simp only [List.append_assoc]
  rw [statementScanner, nameScanner, bind_apply (run_literal ..),
    bind_apply (run_name keyword (by decide) _), if_neg (by decide), if_pos rfl, buildScanner,
    nameScanner, bind_apply (run_literal ..), bind_apply (run_name isName (by decide) _),
    bind_apply (run_literal ..), bind_apply (run_argumentsScanner keys operands s)]
  rfl

/-- **A statement is read back from its lines.** -/
theorem run_statementScanner {st : Statement} (spelled : Statement.Spelled st) (s : List Char) :
    statementScanner named (ofLines (statementLines st) ++ s) = some (st, s) := by
  cases spelled with
  | read isName other isField => exact run_readScanner named isName other isField s
  | require isName => exact run_requireScanner named isName _ _ _ s
  | build isName keys operands => exact run_buildScanner named isName keys operands s

/-! ## Functions -/

theorem toList_text_signature (f : Function) :
    f.text.toList = s!"def {f.name}(value: {f.parameterType}) -> {f.resultType}:".toList ++
      '\n' :: (ofLines f.docLines ++ f.body.flatMap fun st => ofLines (statementLines st)) := by
  rw [toList_text, lines, List.cons_append, ofLines_cons, ofLines_append, ofLines_flatMap]

theorem run_docString {f : Function} (faithful : Faithful f.docText) (s : List Char) :
    shown named ("\"\"\"".toList ++ (f.docText ++ ("\"\"\"".toList ++ s))) =
      some (String.ofList f.docText, s) := by
  show (readString named ('"' :: '"' :: '"' :: (f.docText ++ '"' :: '"' :: '"' :: s))).map _ = _
  rw [(readString_tripled_iff (separates_of_getLast?_docText f) s).mpr faithful, Option.map_some,
    map_ofNat_map_toNat]

/-- **The statements of a function are read back from its text.** -/
theorem body?_text {f : Function} (spelled : f.Spelled) : body? named f.text = some f.body := by
  obtain ⟨name, ⟨parameter, source⟩, ⟨result, target⟩, body⟩ := spelled
  have single : '\n' ∉ s!"def {f.name}(value: {f.parameterType}) -> {f.resultType}:".toList := by
    simp [toString, name, parameter, result]
  have doc : ofLines f.docLines ++ f.body.flatMap (fun st => ofLines (statementLines st)) =
      "    ".toList ++ ("\"\"\"".toList ++ (f.docText ++ ("\"\"\"".toList ++ ("\n".toList ++
        (f.body.flatMap (fun st => ofLines (statementLines st)) ++ []))))) := by
    rw [ofLines_docLines]
    simp
  have faithful := (faithful_docText_iff f).mpr ⟨source, target⟩
  have statements := run_many (p := statementScanner named) (s := [])
    (fun st member => run_statementScanner named (body st member)) rfl
  rw [body?, whole?, toList_text_signature, bodyScanner, bind_apply (run_line single _), doc,
    bind_apply (run_literal ..), bind_apply (run_docString named faithful _),
    bind_apply (run_literal ..), statements]

example : body? (fun _ => none)
    "def f(value: Bar) -> Foo:\n    \"\"\"Bar.\"\"\"\n    return Foo(\n        x=value.y,\n    )\n" =
      some [.build "Foo" [("x", .sourceField "y")]] := by
  decide +kernel

/-- What executing the statements of a text does. -/
def runText {V : Type} (isNone : V → Bool) (source : String → Option V) (text : String) :
    Option (Trace V) :=
  (body? named text).map (runStatements isNone source [])

/-- **What is read from the text of a function is what a call executes.** -/
theorem runText_text {V : Type} (isNone : V → Bool) (source : String → Option V) {f : Function}
    (spelled : f.Spelled) : runText named isNone source f.text = some (f.run isNone source) := by
  rw [runText, body?_text named spelled]
  rfl

/-! ## Conversions -/

theorem lowerChar_ne_feed {c : Char} (other : c ≠ '\n') : lowerChar c ≠ '\n' := by
  -- all that the table gives lies above the line feed
  have shifted : ∀ run ∈ lowerCaseRuns, 10 < (run.first : Int) + run.shift := by decide +kernel
  rw [lowerChar]
  split
  · next ascii =>
      have capitals : ∀ n < 0x80, (Char.ofNat n).toLower = '\n' → Char.ofNat n = '\n' := by decide
      have back := capitals c.toNat ascii
      rw [Char.ofNat_toNat] at back
      exact mt back other
  · split
    · next n found =>
        obtain ⟨run, member, lower⟩ := List.exists_of_findSome?_eq_some found
        have above := shifted run member
        rw [CodeRun.image?] at lower
        split at lower
        · next within =>
            cases lower
            intro feed
            have code : _ = 10 := congrArg Char.toNat feed
            rw [Char.toNat_ofNat] at code
            split at code
            · omega
            · cases code
        · cases lower
    · exact other

/-- No letter has a line feed as its lower case. -/
theorem feed_notMem_lower {s : List Char} (single : '\n' ∉ s) : '\n' ∉ lower s := by
  -- a final sigma depends on what stands before, so the induction is over every front
  suffices from_ : ∀ before, '\n' ∉ lowerFrom before s from from_ []
  induction s with
  | nil => exact fun _ => List.not_mem_nil
  | cons c r ih =>
      rw [List.mem_cons, not_or] at single
      intro before
      rw [lowerFrom, List.mem_append, not_or]
      refine ⟨?_, ih single.2 _⟩
      split_ifs <;> simp [(lowerChar_ne_feed (Ne.symm single.1)).symm]

theorem feed_notMem_snakeCase {s : String} (single : '\n' ∉ s.toList) :
    '\n' ∉ (snakeCase s).toList := by
  rw [snakeCase, String.toList_ofList, separateWords_eq_insertBreaks]
  exact feed_notMem_lower fun member =>
    (mem_insertBreaks member).elim (by decide) single

/-- The name of a function is on one line if the names of the two types are. -/
theorem feed_notMem_functionName {c : Conversion} (target : '\n' ∉ c.target.name.toList)
    (source : '\n' ∉ c.source.name.toList) : '\n' ∉ (functionName c).toList := by
  have short : '\n' ∉ c.source.shortName.toList := by
    rw [Reference.shortName, String.toList_ofList, List.getLastD_eq_getLast?]
    cases last : (Reference.nameSegments c.source.name.toList).getLast? with
    | none => exact List.not_mem_nil
    | some segment =>
        exact fun member => source (Reference.mem_of_mem_nameSegments (List.mem_of_getLast? last) member)
  have base : '\n' ∉ s!"{snakeCase c.target.name}_from_{snakeCase c.source.shortName}".toList := by
    simp [toString, feed_notMem_snakeCase target, feed_notMem_snakeCase short]
  rw [functionName]
  split
  · simpa [toString] using base
  · exact base

theorem isPythonName_variableFor {field : String} (isName : IsPythonName field) :
    IsPythonName (variableFor field) :=
  IsName.append (a := "field_") (by decide) isName.2

theorem variableFor_notMem (field : String) : variableFor field ∉ ["if", "return"] := by
  intro member
  have first : (variableFor field).toList.head? = some 'f' := by
    rw [toList_variableFor]
    rfl
  rcases List.mem_pair.mp member with word | word <;> rw [word] at first <;> cases first

/-- **The function of a conversion is read back** if its types are spelled on one line and are
faithful, and all that it names are names. -/
theorem spelled_ofConversion {c : Conversion} (target : IsPythonName c.target.name)
    (fields : ∀ m ∈ c.fields, IsPythonName m.target ∧ IsPythonName m.source)
    (source : '\n' ∉ (c.source.spell .square).toList ∧ Faithful (c.source.spell .square).toList)
    (result : '\n' ∉ (targetType c).toList ∧ Faithful (targetType c).toList) :
    (ofConversion c).Spelled := by
  have single {n : String} (isName : IsPythonName n) : '\n' ∉ n.toList := fun member =>
    absurd (List.all_eq_true.mp isName.2 '\n' member) (by decide)
  have name : '\n' ∉ c.source.name.toList := by
    refine fun member => source.1 ?_
    rw [Reference.spell, Reference.spellWith]
    split
    · exact member
    · simp only [String.toList_append, List.mem_append]
      exact .inl (.inl (.inl member))
  refine ⟨feed_notMem_functionName (single target) name, source, result, fun st member => ?_⟩
  rw [ofConversion, List.mem_append, List.mem_flatMap] at member
  rcases member with ⟨m, check, statement⟩ | build
  · obtain ⟨isTarget, isSource⟩ := fields m (List.mem_of_mem_filter check)
    rw [checkOf, List.mem_pair] at statement
    rcases statement with rfl | rfl
    · exact .read (isPythonName_variableFor isTarget) (variableFor_notMem m.target) isSource
    · exact .require (isPythonName_variableFor isTarget)
  · cases List.mem_singleton.mp build
    refine .build target (fun a among => ?_) (fun a among => ?_)
    · obtain ⟨m, member, rfl⟩ := List.mem_map.mp among
      exact (fields m member).1
    · obtain ⟨m, member, rfl⟩ := List.mem_map.mp among
      rw [argumentOf]
      cases m.unpack with
      | true =>
          exact .var (isPythonName_variableFor (fields m member).1) (variableFor_ne_value m.target)
      | false => exact .sourceField (fields m member).2

end Function

end Narrowing.Code
