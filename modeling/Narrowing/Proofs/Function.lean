import Narrowing.Code.Function
import Narrowing.Proofs.Generation

/-!
# What calling an emitted function does

An emitted function reads its argument in two phases: the checks read the unpacked
fields into variables, and the keyword arguments of the last statement read the
others.  This module states what a call does without its statements, over the list
of mappings alone, and shows that every call of a generated function does it.

The reads happen in `readOrder`.  A read `Stops` the call when the source has no
such field, or when the field is to be unpacked and is `None`.  `Carries` is the
contract: the call ends at the first read that stops it and reads nothing after
that; if none stops it, every target field holds the value of its own source field.

### What carries the proof

Both phases are run with *arbitrary statements after them* (`runStatements_checks`,
`runArguments_append`), so that one lemma a phase serves the calls that pass it and
the calls that end in it.  Between the phases stands one invariant: the variable of
a checked field holds the value of its source field.  It survives the later checks
because the variables of different fields are different.

## Main statements

* `Function.carries_run` — a call of the function of any conversion with distinct
  target and source fields
* `Function.run_generated` — a call of the function of a generated conversion
-/

namespace Narrowing.Code

/-- The mappings in the order in which their source fields are read: first the unpacked ones,
then the others, each in declaration order. -/
def readOrder (fields : List Mapping) : List Mapping :=
  fields.filter Mapping.unpack ++ fields.filter fun m => !m.unpack

/-- Every mapping is read once. -/
theorem readOrder_perm (fields : List Mapping) : (readOrder fields).Perm fields :=
  List.filter_append_perm Mapping.unpack fields

/-- A member of a filtered list splits the list itself. -/
theorem exists_split_of_filter {fields before after : List Mapping} {m : Mapping}
    {p : Mapping → Bool} (h : fields.filter p = before ++ m :: after) :
    ∃ left right, fields = left ++ m :: right ∧ left.filter p = before ∧ p m = true := by
  obtain ⟨left, rest, rfl, rfl, found⟩ := List.filter_eq_append_iff.mp h
  obtain ⟨skipped, right, rfl, none, holds, -⟩ := List.filter_eq_cons_iff.mp found
  refine ⟨left ++ skipped, right, (List.append_assoc ..).symm, ?_, holds⟩
  rw [List.filter_append, List.filter_eq_nil_iff.mpr none, List.append_nil]

theorem toList_variableFor (field : String) :
    (variableFor field).toList = "field_".toList ++ field.toList := by
  show ("field_" ++ field).toList = _
  rw [String.toList_append]

/-- Different fields have different variables. -/
theorem variableFor_injective {left right : String}
    (h : variableFor left = variableFor right) : left = right := by
  have chars := congrArg String.toList h
  rw [toList_variableFor, toList_variableFor, List.append_right_inj] at chars
  exact String.toList_injective chars

/-- No variable has the name of the argument. -/
theorem variableFor_ne_value (field : String) : variableFor field ≠ "value" := by
  intro h
  have chars := congrArg (fun s : String => s.toList.head?) h
  simp [toList_variableFor] at chars

namespace Function

section Contract

variable {V : Type} (isNone : V → Bool) (source : String → Option V)

/-- The read of a field ends the call: the source has no such field, or the field is to be
unpacked and is `None`. -/
def Stops (m : Mapping) : Prop :=
  source m.source = none ∨
    m.unpack = true ∧ ∃ v, source m.source = some v ∧ isNone v = true

/-- How the call ends at a read that stops it: a field that is there was `None`. -/
def stopped (sourceType : String) (m : Mapping) : Outcome V :=
  match source m.source with
  | none => .absent m.source
  | some _ => .missing ⟨m.target, m.source, some sourceType⟩

/-- **The contract of a call**, over the mappings of the target fields in declaration order. -/
structure Carries (fields : List Mapping) (type sourceType : String) (t : Trace V) : Prop where
  /-- No source field is read twice. -/
  distinct : ((readOrder fields).map Mapping.source).Nodup
  /-- The first read that stops the call is the last one and decides how it ends. -/
  stops : ∀ before m after, readOrder fields = before ++ m :: after →
    (∀ p ∈ before, ¬ Stops isNone source p) → Stops isNone source m →
      t = ⟨(before ++ [m]).map Mapping.source, stopped source sourceType m⟩
  /-- If no read stops it, every source field is read and every target field, in declaration
  order, holds the value of its source field. -/
  completes : (∀ m ∈ fields, ¬ Stops isNone source m) →
    ∃ values, t = ⟨(readOrder fields).map Mapping.source, .built type values⟩ ∧
      List.Forall₂ (fun m entry => entry.1 = m.target ∧ source m.source = some entry.2)
        fields values

end Contract

namespace Trace

variable {V : Type}

/-- The trace with more fields read in front. -/
def readingAll (fields : List String) (t : Trace V) : Trace V :=
  { t with reads := fields ++ t.reads }

@[simp] theorem readingAll_nil (t : Trace V) : readingAll [] t = t := rfl

@[simp] theorem reading_readingAll (field : String) (fields : List String) (t : Trace V) :
    (t.readingAll fields).reading field = t.readingAll (field :: fields) := rfl

@[simp] theorem readingAll_mk (fields reads : List String) (outcome : Outcome V) :
    readingAll fields ⟨reads, outcome⟩ = ⟨fields ++ reads, outcome⟩ := rfl

end Trace

section Run

variable {V : Type} {isNone : V → Bool} {source : String → Option V}

/-- A read that does not stop the call gives a value, which is not `None` if it is unpacked. -/
theorem exists_of_not_stops {m : Mapping} (h : ¬ Stops isNone source m) :
    ∃ v, source m.source = some v ∧ (m.unpack = true → isNone v = false) := by
  rw [Stops, not_or] at h
  obtain ⟨v, found⟩ := Option.ne_none_iff_exists'.mp h.1
  refine ⟨v, found, fun unpacked => ?_⟩
  by_contra none
  exact h.2 ⟨unpacked, v, found, by simpa using none⟩

/-! ### The checks -/

/-- A check whose field holds a value assigns its variable and goes on. -/
theorem runStatements_checkOf {sourceType : String} {m : Mapping} {v : V}
    (found : source m.source = some v) (present : isNone v = false) (locals : KeyedList V)
    (rest : List Statement) :
    runStatements isNone source locals (checkOf sourceType m ++ rest) =
      (runStatements isNone source (locals.put (variableFor m.target) v) rest).reading
        m.source := by
  simp [checkOf, runStatements, found, present, KeyedList.get?_put]

/-- A check whose read stops the call ends it. -/
theorem runStatements_checkOf_of_stops {sourceType : String} {m : Mapping}
    (stops : Stops isNone source m) (locals : KeyedList V)
    (rest : List Statement) :
    runStatements isNone source locals (checkOf sourceType m ++ rest) =
      ⟨[m.source], stopped source sourceType m⟩ := by
  rcases stops with absent | ⟨-, v, found, none⟩
  · simp [checkOf, runStatements, stopped, absent]
  · simp [checkOf, runStatements, stopped, found, none, KeyedList.get?_put, Trace.reading]

/-- **The checks, with anything after them.**  If none of them stops the call, their fields are
read in order; afterwards the variable of every checked field holds the value of its source
field, and the other variables are as before. -/
theorem runStatements_checks (sourceType : String) (rest : List Statement) :
    ∀ {checks : List Mapping} (locals : KeyedList V),
      (checks.map Mapping.target).Nodup →
      (∀ m ∈ checks, m.unpack = true ∧ ¬ Stops isNone source m) →
      ∃ assigned : KeyedList V,
        runStatements isNone source locals (checks.flatMap (checkOf sourceType) ++ rest) =
          (runStatements isNone source assigned rest).readingAll
            (checks.map Mapping.source) ∧
        (∀ m ∈ checks, assigned.get? (variableFor m.target) = source m.source) ∧
        ∀ x, x ∉ checks.map Mapping.target →
          assigned.get? (variableFor x) = locals.get? (variableFor x) := by
  intro checks
  induction checks with
  | nil => intro locals _ _; exact ⟨locals, rfl, by simp, fun _ _ => rfl⟩
  | cons m checks ih =>
      intro locals distinct passes
      rw [List.map_cons, List.nodup_cons] at distinct
      rw [List.forall_mem_cons] at passes
      obtain ⟨v, found, present⟩ := exists_of_not_stops passes.1.2
      obtain ⟨assigned, run, holds, frame⟩ :=
        ih (locals.put (variableFor m.target) v) distinct.2 passes.2
      refine ⟨assigned, ?_, ?_, ?_⟩
      · rw [List.flatMap_cons, List.append_assoc,
          runStatements_checkOf found (present passes.1.1), run, Trace.reading_readingAll,
          List.map_cons]
      · rw [List.forall_mem_cons]
        refine ⟨?_, holds⟩
        rw [frame m.target distinct.1, KeyedList.get?_put, if_pos rfl, found]
      · intro x other
        rw [List.map_cons, List.mem_cons, not_or] at other
        rw [frame x other.2, KeyedList.get?_put, if_neg]
        intro same
        exact other.1 (variableFor_injective same).symm

/-! ### The keyword arguments -/

theorem argumentOf_of_unpack {m : Mapping} (unpack : m.unpack = true) :
    argumentOf m = (m.target, .var (variableFor m.target)) := by
  rw [argumentOf, if_pos unpack]

theorem argumentOf_of_plain {m : Mapping} (plain : m.unpack = false) :
    argumentOf m = (m.target, .sourceField m.source) := by
  rw [argumentOf, plain, if_neg Bool.false_ne_true]

/-- **The keyword arguments, with anything after them.**  If none of their reads stops the call
and the variables hold what was checked, the plain fields are read in order and every argument
gets the value of its source field. -/
theorem runArguments_append (type : String) {locals : KeyedList V}
    (rest : List (String × Operand)) :
    ∀ {fields : List Mapping} (values : List (String × V)),
      (∀ m ∈ fields, ¬ Stops isNone source m) →
      (∀ m ∈ fields, m.unpack = true →
        locals.get? (variableFor m.target) = source m.source) →
      ∃ built : List (String × V),
        runArguments source type locals values (fields.map argumentOf ++ rest) =
          (runArguments source type locals (built.reverse ++ values) rest).readingAll
            ((fields.filter fun m => !m.unpack).map Mapping.source) ∧
        List.Forall₂ (fun m entry => entry.1 = m.target ∧ source m.source = some entry.2)
          fields built := by
  intro fields
  induction fields with
  | nil => intro values _ _; exact ⟨[], rfl, .nil⟩
  | cons m fields ih =>
      intro values passes holds
      rw [List.forall_mem_cons] at passes holds
      obtain ⟨v, found, -⟩ := exists_of_not_stops passes.1
      obtain ⟨built, run, matched⟩ := ih ((m.target, v) :: values) passes.2 holds.2
      refine ⟨(m.target, v) :: built, ?_, .cons ⟨rfl, found⟩ matched⟩
      rw [List.reverse_cons, List.append_assoc, List.singleton_append]
      cases unpack : m.unpack with
      | true =>
          have held := holds.1 unpack
          rw [found] at held
          simp [argumentOf_of_unpack, unpack, runArguments, held, run]
      | false => simp [argumentOf_of_plain, unpack, runArguments, found, run]

/-- A keyword argument that takes a plain field whose read stops the call ends it. -/
theorem runArguments_argumentOf_of_stops {type : String} (sourceType : String) {m : Mapping}
    (plain : m.unpack = false) (stops : Stops isNone source m) (locals : KeyedList V)
    (values : List (String × V)) (rest : List (String × Operand)) :
    runArguments source type locals values (argumentOf m :: rest) =
      ⟨[m.source], stopped source sourceType m⟩ := by
  rcases stops with absent | ⟨unpack, -⟩
  · simp [argumentOf_of_plain plain, runArguments, stopped, absent]
  · rw [plain] at unpack
    cases unpack

/-! ### The whole call -/

section Call

variable {c : Conversion}

theorem run_ofConversion (isNone : V → Bool) (source : String → Option V) (c : Conversion) :
    (ofConversion c).run isNone source =
      runStatements isNone source []
        ((c.fields.filter Mapping.unpack).flatMap (checkOf (c.source.spell .square)) ++
          [.build c.target.name (c.fields.map argumentOf)]) := rfl

theorem forall_mem_checks {before : List Mapping}
    (passes : ∀ m ∈ before, ¬ Stops isNone source m)
    (checks : ∀ m ∈ before, m ∈ c.fields.filter Mapping.unpack) :
    ∀ m ∈ before, m.unpack = true ∧ ¬ Stops isNone source m := fun m member =>
  ⟨(List.mem_filter.mp (checks m member)).2, passes m member⟩

/-- The call ends at the first check that stops it. -/
theorem run_of_check_stops (targets : (c.fields.map Mapping.target).Nodup)
    {before after : List Mapping} {m : Mapping}
    (split : c.fields.filter Mapping.unpack = before ++ m :: after)
    (passes : ∀ p ∈ before, ¬ Stops isNone source p) (stops : Stops isNone source m) :
    (ofConversion c).run isNone source =
      ⟨(before ++ [m]).map Mapping.source, stopped source (c.source.spell .square) m⟩ := by
  have distinct : (before.map Mapping.target).Nodup := by
    have h := targets.sublist ((List.filter_sublist (p := Mapping.unpack)).map Mapping.target)
    rw [split, List.map_append] at h
    exact (List.nodup_append.mp h).1
  rw [run_ofConversion, split, List.flatMap_append, List.append_assoc]
  obtain ⟨assigned, run, -, -⟩ := runStatements_checks (c.source.spell .square)
    ((m :: after).flatMap (checkOf (c.source.spell .square)) ++
      [.build c.target.name (c.fields.map argumentOf)])
    ([] : KeyedList V) distinct (forall_mem_checks passes fun p member => by
      rw [split]
      exact List.mem_append_left _ member)
  rw [run, List.flatMap_cons, List.append_assoc, runStatements_checkOf_of_stops stops]
  simp

/-- A call that passes its checks comes to the keyword arguments with the checked values in
the variables. -/
theorem run_of_checks_pass (targets : (c.fields.map Mapping.target).Nodup)
    (passes : ∀ m ∈ c.fields.filter Mapping.unpack, ¬ Stops isNone source m) :
    ∃ assigned : KeyedList V,
      (ofConversion c).run isNone source =
        (runArguments source c.target.name assigned [] (c.fields.map argumentOf)).readingAll
          ((c.fields.filter Mapping.unpack).map Mapping.source) ∧
      ∀ m ∈ c.fields, m.unpack = true →
        assigned.get? (variableFor m.target) = source m.source := by
  have distinct : ((c.fields.filter Mapping.unpack).map Mapping.target).Nodup :=
    targets.sublist ((List.filter_sublist (p := Mapping.unpack)).map Mapping.target)
  obtain ⟨assigned, run, holds, -⟩ := runStatements_checks (c.source.spell .square)
    [.build c.target.name (c.fields.map argumentOf)] ([] : KeyedList V) distinct
    (forall_mem_checks passes fun m member => member)
  refine ⟨assigned, ?_, fun m member unpack => holds m (List.mem_filter.mpr ⟨member, unpack⟩)⟩
  rw [run_ofConversion, run, runStatements]

/-- The call ends at the first plain field that stops it, once every check has passed. -/
theorem run_of_argument_stops (targets : (c.fields.map Mapping.target).Nodup)
    {before after : List Mapping} {m : Mapping}
    (split : (c.fields.filter fun m => !m.unpack) = before ++ m :: after)
    (checksPass : ∀ p ∈ c.fields.filter Mapping.unpack, ¬ Stops isNone source p)
    (passes : ∀ p ∈ before, ¬ Stops isNone source p) (stops : Stops isNone source m) :
    (ofConversion c).run isNone source =
      ⟨(c.fields.filter Mapping.unpack ++ before ++ [m]).map Mapping.source,
        stopped source (c.source.spell .square) m⟩ := by
  obtain ⟨left, right, fieldsSplit, rfl, plain⟩ := exists_split_of_filter split
  obtain ⟨assigned, run, holds⟩ := run_of_checks_pass targets checksPass
  have ofLeft : ∀ p ∈ left, p ∈ c.fields := fun p member => by
    rw [fieldsSplit]
    exact List.mem_append_left _ member
  -- a field in front of `m` was either checked or is plain and read before it
  have leftPasses : ∀ p ∈ left, ¬ Stops isNone source p := by
    intro p member
    cases unpack : p.unpack with
    | true => exact checksPass p (List.mem_filter.mpr ⟨ofLeft p member, unpack⟩)
    | false => exact passes p (List.mem_filter.mpr ⟨member, by simp [unpack]⟩)
  obtain ⟨built, arguments, -⟩ := runArguments_append c.target.name
    (argumentOf m :: right.map argumentOf) [] leftPasses fun p member =>
      holds p (ofLeft p member)
  have spread : c.fields.map argumentOf =
      left.map argumentOf ++ argumentOf m :: right.map argumentOf := by
    rw [fieldsSplit, List.map_append, List.map_cons]
  rw [run, spread, arguments, runArguments_argumentOf_of_stops (c.source.spell .square)
    (by simpa using plain) stops]
  simp

/-- **A call carries out the contract**, whatever the conversion, as long as neither its target
fields nor its source fields repeat. -/
theorem carries_run (targets : (c.fields.map Mapping.target).Nodup)
    (sources : (c.fields.map Mapping.source).Nodup) :
    Carries isNone source c.fields c.target.name (c.source.spell .square)
      ((ofConversion c).run isNone source) := by
  refine ⟨?_, ?_, ?_⟩
  · exact ((readOrder_perm c.fields).map Mapping.source).nodup_iff.mpr sources
  · intro before m after split passes stops
    rcases List.append_eq_append_iff.mp split with
      ⟨plainBefore, rfl, plainSplit⟩ | ⟨checksAfter, checksSplit, rest⟩
    · rw [List.forall_mem_append] at passes
      exact run_of_argument_stops targets plainSplit passes.1 passes.2 stops
    · cases checksAfter with
      | nil =>
          -- `m` is the first plain field
          rw [List.append_nil] at checksSplit
          subst checksSplit
          have first : (c.fields.filter fun m => !m.unpack) = [] ++ m :: after := rest.symm
          have h := run_of_argument_stops targets first passes (by simp) stops
          simpa using h
      | cons first checksAfter =>
          rw [List.cons_append, List.cons.injEq] at rest
          obtain ⟨rfl, -⟩ := rest
          exact run_of_check_stops targets checksSplit passes stops
  · intro passes
    obtain ⟨assigned, run, holds⟩ := run_of_checks_pass targets fun m member =>
      passes m (List.mem_filter.mp member).1
    obtain ⟨built, arguments, matched⟩ := runArguments_append c.target.name [] [] passes
      holds
    refine ⟨built, ?_, matched⟩
    rw [List.append_nil] at arguments
    rw [run, arguments, runArguments]
    simp [readOrder]

/-- No variable that a function assigns hides its argument. -/
theorem ne_value_of_read_mem_body {x field : String}
    (h : Statement.read x field ∈ (ofConversion c).body) : x ≠ "value" := by
  rw [ofConversion, List.mem_append, List.mem_singleton] at h
  rcases h with checked | last
  · obtain ⟨m, -, member⟩ := List.mem_flatMap.mp checked
    rw [checkOf, List.mem_pair] at member
    rcases member with read | require
    · cases read
      exact variableFor_ne_value m.target
    · cases require
  · cases last

end Call

/-- **What calling a generated function does.**  The source fields of the unpacked target fields
are read first and those of the others after them, each in declaration order and none twice.
The first read that the source cannot serve, or that finds `None` in an unpacked field, ends the
call: with the field that is absent, or with the report of the target field, its source field
and the spelling of the source in square brackets.  Otherwise every declared field holds the
value of the source field that it is renamed from, or of the one of its own name. -/
theorem run_generated {d : Declaration} {c : Conversion} (h : d.generate = .ok c)
    (isNone : V → Bool) (source : String → Option V) :
    ∃ written reference options, d.Accepted written reference options ∧
      c = ⟨d.schema, reference, d.mappings written options⟩ ∧
      Carries isNone source (d.mappings written options) d.schema.name
        (reference.spell .square) ((ofConversion c).run isNone source) ∧
      ∀ x field, Statement.read x field ∈ (ofConversion c).body → x ≠ "value" := by
  obtain ⟨written, reference, options, accepted, rfl⟩ := Declaration.generate_eq_ok_iff.mp h
  refine ⟨written, reference, options, accepted, rfl, ?_, fun x field =>
    ne_value_of_read_mem_body⟩
  refine carries_run (c := ⟨d.schema, reference, d.mappings written options⟩) ?_
    accepted.distinct
  rw [Declaration.map_target_mappings]
  exact accepted.nodup_targets

/-- Of two fields that are renamed from each other's names, the unpacked one is read first and
reported under its own name. -/
theorem run_swapped :
    Declaration.swapped.generate = .ok Declaration.swappedConversion ∧
      (ofConversion Declaration.swappedConversion).run Option.isNone
          (fun field => if field = "a" then some (some 1) else some (none : Option Nat)) =
        ⟨["b"], .missing ⟨"a", "b", some "lib.Bar[T, list[int]]"⟩⟩ := by
  refine ⟨Declaration.generate_swapped, ?_⟩
  obtain ⟨written, reference, options, -, same, carries, -⟩ :=
    run_generated Declaration.generate_swapped Option.isNone
      (fun field => if field = "a" then some (some 1) else some (none : Option Nat))
  simp only [Conversion.mk.injEq, Declaration.swappedConversion] at same
  obtain ⟨-, rfl, fields⟩ := same
  rw [← fields] at carries
  exact carries.stops [] _ _ rfl (by simp) (Or.inr ⟨rfl, none, rfl, rfl⟩)

end Run

end Function

end Narrowing.Code
