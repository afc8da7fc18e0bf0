import Narrowing.Code.Impl
import Narrowing.Proofs.Function
import Narrowing.Proofs.ReadBack.Scanner

/-!
# The checks and initialisers of an emitted impl

What the function of an impl does is said of its checks and of its field initialisers.
Here both are read back from the text of the impl, and they are the ones that are run.

A fallible impl is told by its associated type, and each check returns the error that is
named there.  Bindings are told from the argument `value`, and the types in the header
must not break a line.

## Main statements

* `Impl.content?_text` — the checks and initialisers of an impl, read from its text
* `Impl.runText_text` — what is read is what is run
-/

namespace Narrowing.Code

open Scanner Text

namespace Impl

/-! ## Readers -/

/-- What is read of an impl: the name of its error, its checks and its initialisers. -/
structure Content where
  error : Option String
  checks : List Check
  fields : List (String × Initialiser)
deriving DecidableEq, Repr

/-- What the text of an impl says of it. -/
def content (i : Impl) : Content := ⟨i.error, i.checks, i.fields⟩

/-- A character of a name, which may be a raw one. -/
def isRustPart (c : Char) : Bool := isWordPart c || c == '#'

/-- Takes a name. -/
def nameScanner : Scanner String := Scanner.name isRustPart

/-- Takes a check that returns the given error. -/
def checkScanner (error : String) : Scanner Check := do
  literal "        let "
  let binding ← nameScanner
  literal " = match value."
  let source ← nameScanner
  lineEnd " \x7b"
  lineEnd "            ::std::option::Option::Some(inner) => inner,"
  lineEnd "            ::std::option::Option::None => \x7b"
  literal "                return ::std::result::Result::Err("
  literal error
  literal " \x7b field: \""
  let target ← nameScanner
  lineEnd "\" \x7d)"
  lineEnd "            \x7d"
  lineEnd "        \x7d;"
  return ⟨binding, source, target⟩

/-- Takes an initialiser. -/
def initialiserScanner : Scanner Initialiser := operand isRustPart .sourceField .binding

/-- Takes the line of a field. -/
def fieldScanner : Scanner (String × Initialiser) := entry isRustPart "            " ": " initialiserScanner

/-- Takes what follows the header of a fallible impl. -/
def fallibleScanner : Scanner Content := do
  literal "    type Error = "
  let error ← nameScanner
  lineEnd ";"
  line
  line
  let checks ← many (checkScanner error)
  lineEnd "        ::std::result::Result::Ok(Self \x7b"
  let fields ← many fieldScanner
  lineEnd "        \x7d)"
  lineEnd "    \x7d"
  lineEnd "\x7d"
  return ⟨some error, checks, fields⟩

/-- Takes what follows the header of an infallible impl. -/
def infallibleScanner : Scanner Content := do
  line
  lineEnd "        Self \x7b"
  let fields ← many fieldScanner
  lineEnd "        \x7d"
  lineEnd "    \x7d"
  lineEnd "\x7d"
  return ⟨none, [], fields⟩

/-- Takes an impl. -/
def contentScanner : Scanner Content := do
  line
  fallibleScanner <|> infallibleScanner

/-- The checks and initialisers of an impl, read from its text. -/
def content? (text : String) : Option Content := whole? contentScanner text

/-! ## What can be read -/

/-- The text is a name. -/
abbrev IsRustName (n : String) : Prop := IsName isRustPart n

/-- An initialiser that is told from others by its text. -/
inductive Initialiser.Spelled : Initialiser → Prop
  | sourceField {field : String} (isName : IsRustName field) : Spelled (.sourceField field)
  | binding {x : String} (isName : IsRustName x) (other : x ≠ "value") : Spelled (.binding x)

/-- A check of which all is a name. -/
structure Check.Spelled (c : Check) : Prop where
  binding : IsRustName c.binding
  source : IsRustName c.source
  target : IsRustName c.target

/-- **An impl that is read back from its text.** -/
structure Spelled (i : Impl) : Prop where
  header : ∀ conversionTrait ∈ ["From", "TryFrom"], '\n' ∉ (i.header conversionTrait).toList
  source : '\n' ∉ i.source.toList
  error : ∀ e ∈ i.error, IsRustName e
  /-- Without an error there is nothing to return. -/
  infallible : i.error = none → i.checks = []
  checks : ∀ c ∈ i.checks, Check.Spelled c
  keys : ∀ f ∈ i.fields, IsRustName f.1
  initialisers : ∀ f ∈ i.fields, Initialiser.Spelled f.2

/-! ## Reading -/

theorem run_initialiserScanner {x : Initialiser} (spelled : Initialiser.Spelled x) {t : String}
    (ends : Apart isRustPart t) (s : List Char) :
    initialiserScanner ((initialiserText x).toList ++ (t.toList ++ s)) = some (x, t.toList ++ s) := by
  cases spelled with
  | sourceField isName => exact run_operand_field (by decide) (by decide) isName ends s
  | binding isName other => exact run_operand_variable isName other ends s

/-- **An initialiser is read back from its line.** -/
theorem run_fieldScanner {f : String × Initialiser} (key : IsRustName f.1)
    (initialiser : Initialiser.Spelled f.2) (s : List Char) :
    fieldScanner (ofLines [fieldLine f] ++ s) = some (f, s) := by
  rw [ofLines_cons, ofLines_nil, List.append_assoc]
  exact run_entry key (by decide) (fun r => run_initialiserScanner initialiser (by decide) r) s

/-- **A check is read back from its lines.** -/
theorem run_checkScanner {c : Check} (spelled : Check.Spelled c) (error : String) (s : List Char) :
    checkScanner error (ofLines (checkLines error c) ++ s) = some (c, s) := by
  have text : ofLines (checkLines error c) ++ s = "        let ".toList ++ (c.binding.toList ++
      (" = match value.".toList ++ (c.source.toList ++ (" \x7b".toList ++ '\n' ::
        ("            ::std::option::Option::Some(inner) => inner,".toList ++ '\n' ::
          ("            ::std::option::Option::None => \x7b".toList ++ '\n' ::
            ("                return ::std::result::Result::Err(".toList ++ (error.toList ++
              (" \x7b field: \"".toList ++ (c.target.toList ++ ("\" \x7d)".toList ++ '\n' ::
                ("            \x7d".toList ++ '\n' ::
                  ("        \x7d;".toList ++ '\n' :: s))))))))))))) := by
    simp only [checkLines, toString, ofLines_cons, ofLines_nil, String.toList_append,
      List.append_assoc, List.cons_append, List.nil_append]
  rw [text, checkScanner, nameScanner, bind_apply (run_literal ..),
    bind_apply (run_name spelled.binding (by decide) _), bind_apply (run_literal ..),
    bind_apply (run_name spelled.source (by decide) _), bind_apply (run_lineEnd ..),
    bind_apply (run_lineEnd ..), bind_apply (run_lineEnd ..), bind_apply (run_literal ..),
    bind_apply (run_literal ..), bind_apply (run_literal ..),
    bind_apply (run_name spelled.target (by decide) _), bind_apply (run_lineEnd ..),
    bind_apply (run_lineEnd ..), bind_apply (run_lineEnd ..)]
  rfl

/-! ## Impls -/

theorem run_fields {fields : List (String × Initialiser)} (keys : ∀ f ∈ fields, IsRustName f.1)
    (initialisers : ∀ f ∈ fields, Initialiser.Spelled f.2) {s : List Char}
    (ends : fieldScanner s = none) :
    many fieldScanner (ofLines (fields.map fieldLine) ++ s) = some (fields, s) := by
  rw [List.map_eq_flatMap, ofLines_flatMap]
  exact run_many (fun f member => run_fieldScanner (keys f member) (initialisers f member)) ends

theorem run_infallibleScanner {i : Impl} (spelled : i.Spelled) (infallible : i.error = none) :
    contentScanner (ofLines i.lines) = some (i.content, []) := by
  have header := spelled.header "From" (by decide)
  have signature : '\n' ∉ s!"    fn from(value: {i.source}) -> Self \x7b".toList := by
    simp only [toString, String.toList_append, List.mem_append, not_or]
    exact ⟨⟨by decide, spelled.source⟩, by decide⟩
  have text : ofLines i.lines = (i.header "From").toList ++ '\n' ::
      (s!"    fn from(value: {i.source}) -> Self \x7b".toList ++ '\n' ::
        ("        Self \x7b".toList ++ '\n' :: (ofLines (i.fields.map fieldLine) ++
          ("        \x7d".toList ++ '\n' :: ("    \x7d".toList ++ '\n' ::
            ("\x7d".toList ++ '\n' :: [])))))) := by
    simp only [lines, infallible, ofLines_append, ofLines_cons, ofLines_nil, List.cons_append,
      List.nil_append]
  -- where a fallible impl names its error, this one has its signature
  have other (s : List Char) :
      fallibleScanner (s!"    fn from(value: {i.source}) -> Self \x7b".toList ++ s) = none := by
    simp only [toString, String.toList_append, List.append_assoc]
    rfl
  have fields := fun s => run_fields spelled.keys spelled.initialisers (s := s)
  rw [text, contentScanner, bind_apply (run_line header _), orElse_apply, other, infallibleScanner,
    bind_apply (run_line signature _), bind_apply (run_lineEnd ..), bind_apply (fields _ rfl),
    bind_apply (run_lineEnd ..), bind_apply (run_lineEnd ..), bind_apply (run_lineEnd ..), content,
    infallible, spelled.infallible infallible]
  rfl

theorem run_fallibleScanner {i : Impl} (spelled : i.Spelled) {error : String}
    (fallible : i.error = some error) : contentScanner (ofLines i.lines) = some (i.content, []) := by
  have header := spelled.header "TryFrom" (by decide)
  let signature :=
    s!"    fn try_from(value: {i.source}) -> ::std::result::Result<Self, Self::Error> \x7b"
  have single : '\n' ∉ signature.toList := by
    simp only [signature, toString, String.toList_append, List.mem_append, not_or]
    exact ⟨⟨by decide, spelled.source⟩, by decide⟩
  have text : ofLines i.lines = (i.header "TryFrom").toList ++ '\n' ::
      ("    type Error = ".toList ++ (error.toList ++ (";".toList ++ '\n' :: ([] ++ '\n' ::
        (signature.toList ++ '\n' ::
          (i.checks.flatMap (fun c => ofLines (checkLines error c)) ++
            ("        ::std::result::Result::Ok(Self \x7b".toList ++ '\n' ::
              (ofLines (i.fields.map fieldLine) ++ ("        \x7d)".toList ++ '\n' ::
                ("    \x7d".toList ++ '\n' :: ("\x7d".toList ++ '\n' :: []))))))))))) := by
    rw [lines, fallible]
    simp only [signature, toString, String.toList_append, ofLines_append, ofLines_cons, ofLines_nil,
      ofLines_flatMap, List.append_assoc, List.cons_append, List.nil_append]
    rfl
  have checks := fun s => run_many (p := checkScanner error) (s := s)
    (fun c member => run_checkScanner (spelled.checks c member) error)
  have fields := fun s => run_fields spelled.keys spelled.initialisers (s := s)
  rw [text, contentScanner, bind_apply (run_line header _), orElse_apply, fallibleScanner,
    nameScanner, bind_apply (run_literal ..),
    bind_apply (run_name (spelled.error error (by rw [fallible]; rfl)) (by decide) _), bind_apply (run_lineEnd ..),
    bind_apply (run_line List.not_mem_nil _), bind_apply (run_line single _),
    bind_apply (checks _ rfl), bind_apply (run_lineEnd ..), bind_apply (fields _ rfl),
    bind_apply (run_lineEnd ..), bind_apply (run_lineEnd ..), bind_apply (run_lineEnd ..), content,
    fallible]
  rfl

theorem toList_text (i : Impl) : i.text.toList = ofLines i.lines := by
  refine toList_lines ?_
  rw [lines]
  cases i.error <;> exact List.cons_ne_nil _ _

/-- **The checks and initialisers of an impl are read back from its text.** -/
theorem content?_text {i : Impl} (spelled : i.Spelled) : content? i.text = some i.content := by
  rw [content?, whole?, toList_text]
  cases error : i.error with
  | none => rw [run_infallibleScanner spelled error]
  | some e => rw [run_fallibleScanner spelled error]

example : content? ("impl ::std::convert::From<Bar> for Foo \x7b\n    fn from(value: Bar) -> Self \x7b\n" ++
      "        Self \x7b\n            x: value.y,\n        \x7d\n    \x7d\n\x7d\n") =
    some ⟨none, [], [("x", .sourceField "y")]⟩ := by
  decide +kernel

/-- What running the function of an impl that is given by its text does. -/
def runText {V : Type} (unwrap : V → Option V) (source : String → Option V) (text : String) :
    Option (Trace V) :=
  (content? text).map fun read => runChecks unwrap source [] read.fields read.checks

/-- **What is read from the text of an impl is what its function does.** -/
theorem runText_text {V : Type} (unwrap : V → Option V) (source : String → Option V) {i : Impl}
    (spelled : i.Spelled) : runText unwrap source i.text = some (i.run unwrap source) := by
  rw [runText, content?_text spelled]
  rfl

/-! ## Conversions -/

theorem isRustPart_of_isAlphanum {c : Char} (letter : c.isAlphanum = true) : isRustPart c = true := by
  have name : isNameChar c = true := by rw [isNameChar, letter, Bool.true_or]
  rw [isRustPart, isWordPart, if_pos (toNat_of_isNameChar name).2, name, Bool.true_or]

theorem isRustName_errorName {c : Conversion} (target : IsRustName c.target.name) :
    IsRustName (errorName c) := by
  refine ((target.append (by decide)).append ?_).append (by decide)
  refine List.all_eq_true.mpr fun d member => ?_
  rw [toString, instToStringString, String.toList_ofList] at member
  exact isRustPart_of_isAlphanum (List.of_mem_filter member)

theorem isRustPart_plainName {field : String} (isName : IsRustName field) :
    (plainName field).toList.all isRustPart = true := by
  have parts := isName.2
  rw [plainName]
  split
  · next rest raw =>
      rw [raw, List.all_cons, List.all_cons, Bool.and_eq_true, Bool.and_eq_true] at parts
      rw [String.toList_ofList]
      exact parts.2.2
  · exact parts

theorem isRustName_bindingFor {field : String} (isName : IsRustName field) :
    IsRustName (bindingFor field) :=
  IsName.append (a := "field_") (by decide) (isRustPart_plainName isName)

theorem bindingFor_ne_value (field : String) : bindingFor field ≠ "value" :=
  variableFor_ne_value (plainName field)

/-- **The impl of a conversion is read back** if its header and its source are spelled on one line,
and all that it names are names. -/
theorem spelled_ofConversion {c : Conversion} (target : IsRustName c.target.name)
    (fields : ∀ m ∈ c.fields, IsRustName m.target ∧ IsRustName m.source)
    (source : '\n' ∉ (c.source.spell .angle).toList)
    (header : ∀ conversionTrait ∈ ["From", "TryFrom"],
      '\n' ∉ ((ofConversion c).header conversionTrait).toList) : (ofConversion c).Spelled := by
  have kept {m : Mapping} (member : m ∈ c.fields) : Initialiser.Spelled (.sourceField m.source) :=
    .sourceField (fields m member).2
  refine ⟨header, source, fun e some => ?_, fun none => ?_, fun check member => ?_, fun f member => ?_,
    fun f member => ?_⟩
  · rw [ofConversion] at some
    split at some
    · cases some
      exact isRustName_errorName target
    · cases some
  · rw [ofConversion] at none ⊢
    split at none
    · cases none
    · next infallible => exact if_neg infallible
  · rw [ofConversion] at member
    split at member
    · obtain ⟨m, unpacked, rfl⟩ := List.mem_map.mp member
      obtain ⟨isTarget, isSource⟩ := fields m (List.mem_of_mem_filter unpacked)
      exact ⟨isRustName_bindingFor isTarget, isSource, isTarget⟩
    · cases member
  · rw [ofConversion] at member
    split at member <;>
    · obtain ⟨m, among, rfl⟩ := List.mem_map.mp member
      exact (fields m among).1
  · rw [ofConversion] at member
    split at member
    · obtain ⟨m, among, rfl⟩ := List.mem_map.mp member
      rw [initialiserOf]
      cases m.unpack with
      | true =>
          exact .binding (isRustName_bindingFor (fields m among).1) (bindingFor_ne_value m.target)
      | false => exact kept among
    · obtain ⟨m, among, rfl⟩ := List.mem_map.mp member
      exact kept among

end Impl

end Narrowing.Code
