import Narrowing.Code.Impl
import Narrowing.Proofs.Function

/-!
# Impl and function carry out the same conversion

One conversion is emitted twice, as an impl and as a function, from different data:
the impl chooses its shape first and looks at the unpacking of a field only in a
fallible body, the function looks at the checks and at the unpacking alone.  This
module runs both bodies side by side and shows that they agree on every source.

The impl reads a source in which optional values are marked (`FieldValue`), the
function one in which the empty option is `None` and a full one is its content
(`FieldValue.bare`).  The two runs read the same fields in the same order and end
alike (`Agree`): both miss the same field, both name the same target field, or both
build the target, and the function's values are those of the impl, unmarked.

### What the simulation carries

The checks bind the opened values to names that differ between the two bodies and
that drop the marker of a raw identifier in one of them.  The invariant of the
simulation, `Holds`, says of one checked field that its own binding and its own
variable hold its own opened value.  It survives the later checks as long as the
bindings are different, which is all that is asked of the target fields.

## Main statements

* `Impl.ofConversion_eq_checks` — both shapes of an impl are the fallible one
* `agree_runChecks` — the simulation, with anything after the checks
* `agree_run` — both bodies of any conversion agree on every source
-/

namespace Narrowing.Code

/-- The value of a source field where optional values are marked. -/
inductive FieldValue (V : Type) where
  | plain (v : V)
  | optional (v : Option V)
deriving DecidableEq, Repr

namespace FieldValue

variable {V : Type}

/-- Opens an optional value; a plain one cannot be opened. -/
def unwrap : FieldValue V → Option (FieldValue V)
  | plain _ => none
  | optional v => v.map plain

/-- The value without its mark: the empty option is `None`, a full one is its content. -/
def bare : FieldValue V → Option V
  | plain v => some v
  | optional v => v

end FieldValue

/-- Different plain names have different bindings. -/
theorem plainName_eq_of_bindingFor_eq {left right : String}
    (h : bindingFor left = bindingFor right) : plainName left = plainName right :=
  variableFor_injective (show variableFor (plainName left) = variableFor (plainName right) from h)

namespace Impl

theorem initialiserOf_of_unpack {m : Mapping} (unpack : m.unpack = true) :
    initialiserOf m = (m.target, .binding (bindingFor m.target)) := by
  rw [initialiserOf, if_pos unpack]

theorem initialiserOf_of_plain {m : Mapping} (plain : m.unpack = false) :
    initialiserOf m = (m.target, .sourceField m.source) := by
  rw [initialiserOf, plain, if_neg Bool.false_ne_true]

/-- **Both shapes of an impl are the fallible one**: where no field is unpacked there is nothing
to check and every initialiser takes its field from the source. -/
theorem ofConversion_eq_checks (c : Conversion) :
    (ofConversion c).checks = c.unpackChecks.map checkOf ∧
      (ofConversion c).fields = c.fields.map initialiserOf := by
  cases fallible : c.isFallible with
  | true => simp [ofConversion, fallible]
  | false =>
      have plain : ∀ m ∈ c.fields, m.unpack = false := by
        intro m member
        rw [Conversion.isFallible, List.any_eq_false] at fallible
        simpa using fallible m member
      constructor
      · have none : c.unpackChecks = [] := by
          rw [Conversion.unpackChecks, List.filter_eq_nil_iff]
          intro m member
          simp [plain m member]
        simp [ofConversion, fallible, none]
      · simp only [ofConversion, fallible]
        refine List.map_congr_left fun m member => ?_
        rw [initialiserOf_of_plain (plain m member)]

end Impl

section Agreement

variable {V : Type}

/-- The source as the function reads it: the same fields, their values without marks. -/
def bareSource (source : String → Option (FieldValue V)) (field : String) :
    Option (Option V) :=
  (source field).map FieldValue.bare

/-- What a target field is given: the value of its source field, opened if the field is
unpacked. -/
def Delivered (source : String → Option (FieldValue V)) (m : Mapping)
    (entry : String × FieldValue V) : Prop :=
  entry.1 = m.target ∧ ∃ v, source m.source = some v ∧
    if m.unpack then v.unwrap = some entry.2 else entry.2 = v

/-- An entry of a built target without the mark of its value. -/
def bareEntry (entry : String × FieldValue V) : String × Option V := (entry.1, entry.2.bare)

/-- **Both runs end alike.** -/
inductive SameEnd (source : String → Option (FieldValue V)) (fields : List Mapping)
    (type : String) : Impl.Outcome (FieldValue V) → Function.Outcome (Option V) → Prop
  /-- Both build the target, every field from its own source field, with the same values. -/
  | built {entries : List (String × FieldValue V)}
      (delivered : List.Forall₂ (Delivered source) fields entries) :
      SameEnd source fields type (.built entries) (.built type (entries.map bareEntry))
  /-- Both name the same target field, which is unpacked and whose source field is empty. -/
  | missing {m : Mapping} (member : m ∈ fields) (unpack : m.unpack = true)
      (empty : source m.source = some (.optional none)) {report : MissingField}
      (same : report.field = m.target) :
      SameEnd source fields type (.missing m.target) (.missing report)
  /-- Both miss the same source field. -/
  | absent {field : String} (none : source field = none) :
      SameEnd source fields type (.absent field) (.absent field)

/-- Both runs read the same source fields in the same order and end alike. -/
structure Agree (source : String → Option (FieldValue V)) (fields : List Mapping)
    (type : String) (left : Impl.Trace (FieldValue V)) (right : Function.Trace (Option V)) :
    Prop where
  reads : left.reads = right.reads
  ends : SameEnd source fields type left.outcome right.outcome

/-- The source fields that are unpacked hold optional values, as the host's type check of the
emitted impl demands. -/
def Typed (source : String → Option (FieldValue V)) (fields : List Mapping) : Prop :=
  ∀ m ∈ fields, m.unpack = true → ∀ v, source m.source = some v → ∃ o, v = .optional o

/-- The binding and the variable of a checked field hold its own opened value. -/
def Holds (source : String → Option (FieldValue V)) (bindings : KeyedList (FieldValue V))
    (locals : KeyedList (Option V)) (m : Mapping) : Prop :=
  ∃ v, source m.source = some (.optional (some v)) ∧
    bindings.get? (bindingFor m.target) = some (.plain v) ∧
    locals.get? (variableFor m.target) = some (some v)

variable {source : String → Option (FieldValue V)} {fields : List Mapping} {type : String}

theorem Agree.reading {left : Impl.Trace (FieldValue V)} {right : Function.Trace (Option V)}
    (agree : Agree source fields type left right) (field : String) :
    Agree source fields type (left.reading field) (right.reading field) :=
  ⟨congrArg (field :: ·) agree.reads, agree.ends⟩

/-- A check of another field leaves what is held of a field alone. -/
theorem Holds.put {bindings : KeyedList (FieldValue V)} {locals : KeyedList (Option V)}
    {m other : Mapping} (holds : Holds source bindings locals m)
    (different : plainName m.target ≠ plainName other.target) (v : FieldValue V)
    (w : Option V) :
    Holds source (bindings.put (bindingFor other.target) v)
      (locals.put (variableFor other.target) w) m := by
  obtain ⟨held, found, bound, assigned⟩ := holds
  refine ⟨held, found, ?_, ?_⟩
  · rw [KeyedList.get?_put, if_neg, bound]
    intro same
    exact different (plainName_eq_of_bindingFor_eq same).symm
  · rw [KeyedList.get?_put, if_neg, assigned]
    intro same
    rw [variableFor_injective same] at different
    exact different rfl

/-- The bodies after the checks: initialisers and keyword arguments. -/
theorem agree_runFields {bindings : KeyedList (FieldValue V)} {locals : KeyedList (Option V)} :
    ∀ {rest : List Mapping} (done : List Mapping) {entries : List (String × FieldValue V)},
      List.Forall₂ (Delivered source) done entries.reverse →
      (∀ m ∈ rest, m.unpack = true → Holds source bindings locals m) →
      Agree source (done ++ rest) type
        (Impl.runFields source bindings entries (rest.map Impl.initialiserOf))
        (Function.runArguments (bareSource source) type locals
          (entries.map bareEntry) (rest.map Function.argumentOf)) := by
  intro rest
  induction rest with
  | nil =>
      intro done entries delivered _
      refine ⟨rfl, ?_⟩
      rw [List.append_nil]
      simp only [List.map_nil, Impl.runFields, Function.runArguments]
      rw [← List.map_reverse]
      exact .built delivered
  | cons m rest ih =>
      intro done entries delivered holds
      rw [List.forall_mem_cons] at holds
      -- Whichever way the value is taken, the bodies go on with the same entry.
      have step : ∀ v, Delivered source m (m.target, v) →
          Agree source (done ++ m :: rest) type
            (Impl.runFields source bindings ((m.target, v) :: entries)
              (rest.map Impl.initialiserOf))
            (Function.runArguments (bareSource source) type locals
              ((m.target, v.bare) :: entries.map bareEntry)
              (rest.map Function.argumentOf)) := by
        intro v this
        have more : List.Forall₂ (Delivered source) (done ++ [m])
            ((m.target, v) :: entries).reverse := by
          rw [List.reverse_cons]
          exact List.rel_append delivered (.cons this .nil)
        have agree := ih _ more holds.2
        rwa [List.append_assoc, List.singleton_append] at agree
      rw [List.map_cons, List.map_cons]
      cases unpack : m.unpack with
      | true =>
          obtain ⟨v, found, bound, assigned⟩ := holds.1 unpack
          rw [Impl.initialiserOf_of_unpack unpack, Function.argumentOf_of_unpack unpack]
          simp only [Impl.runFields, Function.runArguments, bound, assigned]
          refine step (.plain v) ⟨rfl, .optional (some v), found, ?_⟩
          simp [unpack, FieldValue.unwrap]
      | false =>
          rw [Impl.initialiserOf_of_plain unpack, Function.argumentOf_of_plain unpack]
          cases found : source m.source with
          | none =>
              simp only [Impl.runFields, Function.runArguments, found, bareSource, Option.map_none]
              exact ⟨rfl, .absent found⟩
          | some v =>
              simp only [Impl.runFields, Function.runArguments, found, bareSource, Option.map_some]
              exact (step v ⟨rfl, v, found, by simp [unpack]⟩).reading m.source

/-- **The simulation of the checks, with anything after them.**  If the rest of both bodies
agrees once every checked field is held, so do the bodies with the checks in front. -/
theorem agree_runChecks {inits : List (String × Initialiser)} {statements : List Statement}
    {sourceType : String} :
    ∀ {checks : List Mapping} (done : List Mapping) {bindings : KeyedList (FieldValue V)}
      {locals : KeyedList (Option V)},
      ((done ++ checks).map fun m => plainName m.target).Nodup →
      (∀ m ∈ checks, m ∈ fields ∧ m.unpack = true) → Typed source checks →
      (∀ m ∈ done, Holds source bindings locals m) →
      (∀ (bindings : KeyedList (FieldValue V)) (locals : KeyedList (Option V)),
        (∀ m ∈ done ++ checks, Holds source bindings locals m) →
        Agree source fields type (Impl.runFields source bindings [] inits)
          (Function.runStatements Option.isNone (bareSource source) locals statements)) →
      Agree source fields type
        (Impl.runChecks FieldValue.unwrap source bindings inits (checks.map Impl.checkOf))
        (Function.runStatements Option.isNone (bareSource source) locals
          (checks.flatMap (Function.checkOf sourceType) ++ statements)) := by
  intro checks
  induction checks with
  | nil =>
      intro done bindings locals _ _ _ holds rest
      rw [List.append_nil] at rest
      exact rest bindings locals holds
  | cons m checks ih =>
      intro done bindings locals distinct members typed holds rest
      rw [List.forall_mem_cons] at members
      rw [Typed, List.forall_mem_cons] at typed
      rw [List.map_cons, List.flatMap_cons, List.append_assoc, Impl.runChecks]
      simp only [Impl.checkOf]
      -- The field is absent, it is empty, or its content is bound and the checks go on.
      cases found : source m.source with
      | none =>
          have stops : Function.Stops Option.isNone (bareSource source) m :=
            Or.inl (by simp [bareSource, found])
          rw [Function.runStatements_checkOf_of_stops stops]
          simp only [Function.stopped, found, bareSource, Option.map_none]
          exact ⟨rfl, .absent found⟩
      | some w =>
          obtain ⟨o, rfl⟩ := typed.1 members.1.2 w found
          cases o with
          | none =>
              have stops : Function.Stops Option.isNone (bareSource source) m :=
                Or.inr ⟨members.1.2, none, by simp [bareSource, found, FieldValue.bare], rfl⟩
              rw [Function.runStatements_checkOf_of_stops stops]
              simp only [Function.stopped, found, bareSource, Option.map_some, Option.map_none,
                FieldValue.unwrap]
              exact ⟨rfl, .missing members.1.1 members.1.2 found rfl⟩
          | some v =>
              have present : bareSource source m.source = some (some v) := by
                simp [bareSource, found, FieldValue.bare]
              rw [Function.runStatements_checkOf present rfl]
              simp only [FieldValue.unwrap, Option.map_some]
              refine Agree.reading ?_ m.source
              rw [List.append_cons] at distinct rest
              refine ih _ distinct members.2 typed.2 ?_ rest
              rw [List.forall_mem_append, List.forall_mem_singleton]
              constructor
              · intro p member
                refine (holds p member).put ?_ (.plain v) (some v)
                intro same
                rw [List.map_append, List.map_append] at distinct
                exact (List.nodup_append.mp (List.nodup_append.mp distinct).1).2.2 _
                  (List.mem_map_of_mem member) _ (List.mem_map_of_mem (List.mem_singleton_self m))
                  same
              · exact ⟨v, found, by rw [KeyedList.get?_put, if_pos rfl],
                  by rw [KeyedList.get?_put, if_pos rfl]⟩

/-- **Impl and function carry out the same conversion.**  Whatever the conversion, as long as
its target fields stay distinct without the marker of raw identifiers, and whatever the source:
the impl is fallible exactly when the function is, and their bodies read the same source fields
in the same order and end alike.  A target field that is built holds the value of its own source
field, opened if the field is unpacked. -/
theorem agree_run (c : Conversion)
    (names : (c.fields.map fun m => plainName m.target).Nodup)
    (source : String → Option (FieldValue V)) (typed : Typed source c.fields) :
    (Impl.ofConversion c).error.isSome = (Function.ofConversion c).fallible ∧
      Agree source c.fields c.target.name
        ((Impl.ofConversion c).run FieldValue.unwrap source)
        ((Function.ofConversion c).run Option.isNone (bareSource source)) := by
  obtain ⟨checks, inits⟩ := Impl.ofConversion_eq_checks c
  constructor
  · cases fallible : c.isFallible <;> simp [Impl.ofConversion, Function.ofConversion, fallible]
  · rw [Impl.run, checks, inits]
    have member : ∀ m ∈ c.unpackChecks, m ∈ c.fields ∧ m.unpack = true := fun m h =>
      List.mem_filter.mp h
    refine agree_runChecks [] ?_ member (fun m h => typed m (member m h).1) (by simp) ?_
    · exact names.sublist ((List.filter_sublist (p := Mapping.unpack)).map _)
    · intro bindings locals holds
      rw [List.nil_append] at holds
      exact agree_runFields [] .nil fun m h unpack =>
        holds m (List.mem_filter.mpr ⟨h, unpack⟩)

/-- A raw identifier that is unpacked from a renamed field, and an optional field that is taken
as it is. -/
def rawConversion : Conversion where
  target :=
    { name := "Foo"
      fields := [{ name := "r#type", type := "u8" }, { name := "b", type := "Option<u8>" }] }
  source := ⟨"Bar", []⟩
  fields := [⟨"r#type", "kind", true, "u8", none⟩, ⟨"b", "b", false, "Option<u8>", none⟩]

/-- A source for `rawConversion` in which one optional field is full and one is empty. -/
def rawSource (field : String) : Option (FieldValue Nat) :=
  if field = "kind" then some (.optional (some 3)) else some (.optional none)

theorem agree_run_raw :
    (rawConversion.fields.map fun m => plainName m.target).Nodup ∧
      Typed rawSource rawConversion.fields ∧
      Agree rawSource rawConversion.fields "Foo"
        ⟨["kind", "b"], .built [("r#type", .plain 3), ("b", .optional none)]⟩
        ⟨["kind", "b"], .built "Foo" [("r#type", some 3), ("b", none)]⟩ := by
  have names : (rawConversion.fields.map fun m => plainName m.target).Nodup := by decide
  have typed : Typed rawSource rawConversion.fields := by
    intro m member unpack v found
    simp only [rawConversion, List.mem_cons, List.not_mem_nil, or_false] at member
    rcases member with rfl | rfl
    · exact ⟨some 3, (Option.some.inj found).symm⟩
    · cases unpack
  exact ⟨names, typed, (agree_run rawConversion names rawSource typed).2⟩

end Agreement

end Narrowing.Code
