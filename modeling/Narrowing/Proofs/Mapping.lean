import Narrowing.Proofs.KeyedList
import Narrowing.Proofs.Request
import Narrowing.Proofs.Stray

/-!
# Shared source fields, exactly

Every field of a target reads one source field, and the mapping of the fields ends at the
first one whose source field is read before.  This module says which field that is and what
is reported about it, from the source fields alone.

### What the record of claims is

The mapping keeps a record of the source fields claimed so far.  It is exactly the record of
the fields that were passed, each under its own source field (`Request.readers`): every
passed field claims a source field that none before it claims, so no claim is ever
overwritten (`Request.mappingsFrom_readers_append`).  The reader that the record gives for a
shared source field is therefore the only field that reads it so far.

A field that is renamed from the name of a later field does not share with it unless the
later field keeps its own name; names are compared only through the source fields that they
stand for (`Request.sourceOf`).

## Main statements

* `Request.mappingsFrom_of_shared` — the first shared source field is reported
* `Request.mappings_outcome` — when fields are mapped, and the report otherwise
-/

namespace Narrowing

namespace Request

variable {r : Request}

/-! ## The source field of a field -/

/-- The source field that the options of a field name.  An empty name counts as none. -/
def renaming? (r : Request) (field : Field) : Option String :=
  (r.optionsFor field.name).source.filter (· ≠ "")

/-- The source field of a field: the one that its options name, or else the one of its name. -/
def sourceOf (r : Request) (field : Field) : String := (r.renaming? field).getD field.name

theorem isRenaming_optionsFor (r : Request) (field : Field) :
    (r.optionsFor field.name).isRenaming = (r.renaming? field).isSome := by
  rw [renaming?, Directive.FieldOptions.isRenaming]
  cases (r.optionsFor field.name).source with
  | none => rfl
  | some source => by_cases empty : source = "" <;> simp [empty, Option.filter]

theorem source_mapping (r : Request) (field : Field) :
    (r.mapping field).source = r.sourceOf field := by
  rw [mapping, sourceOf, renaming?, Directive.FieldOptions.sourceFor]
  cases (r.optionsFor field.name).source with
  | none => rfl
  | some source => by_cases empty : source = "" <;> simp [empty, Option.filter]

/-! ## The record of claims -/

/-- The fields under the source fields that they read. -/
def readers (r : Request) (fields : List Field) : KeyedList String :=
  .ofPairs (fields.map fun field => (r.sourceOf field, field.name))

theorem readers_concat (r : Request) (fields : List Field) (field : Field) :
    r.readers (fields ++ [field]) = (r.readers fields).put (r.sourceOf field) field.name := by
  rw [readers, List.map_append, List.map_singleton, KeyedList.ofPairs_concat, readers]

theorem map_fst_readers (r : Request) (fields : List Field) :
    (fields.map fun field => (r.sourceOf field, field.name)).map Prod.fst =
      fields.map r.sourceOf := by
  rw [List.map_map]
  rfl

/-- A source field that no field reads is not claimed. -/
theorem get?_readers_of_notMem {fields : List Field} {source : String}
    (free : source ∉ fields.map r.sourceOf) : (r.readers fields).get? source = none := by
  refine KeyedList.get?_eq_none_iff.mpr fun claimed => free ?_
  rwa [readers, KeyedList.mem_keys_ofPairs, map_fst_readers] at claimed

/-- A source field that is read once is claimed by its reader. -/
theorem get?_readers {fields : List Field} (distinct : (fields.map r.sourceOf).Nodup)
    {reader : Field} (member : reader ∈ fields) :
    (r.readers fields).get? (r.sourceOf reader) = some reader.name := by
  rw [← map_fst_readers] at distinct
  exact KeyedList.get?_ofPairs_of_mem distinct
    (List.mem_map_of_mem (f := fun field => (r.sourceOf field, field.name)) member)

/-- A field whose source field is free is mapped and recorded. -/
theorem mappingsFrom_readers_cons {front : List Field} {field : Field}
    (free : r.sourceOf field ∉ front.map r.sourceOf) (rest : List Field) :
    r.mappingsFrom (r.readers front) (field :: rest) =
      (r.mappingsFrom (r.readers (front ++ [field])) rest).map (r.mapping field :: ·) := by
  simp only [mappingsFrom, source_mapping, get?_readers_of_notMem free, readers_concat]

/-- **The claims are those of the fields passed**, as long as no source field is shared. -/
theorem mappingsFrom_readers_append {front fields : List Field}
    (distinct : ((front ++ fields).map r.sourceOf).Nodup) (rest : List Field) :
    r.mappingsFrom (r.readers front) (fields ++ rest) =
      (r.mappingsFrom (r.readers (front ++ fields)) rest).map (fields.map r.mapping ++ ·) := by
  induction fields generalizing front with
  | nil =>
      rw [List.append_nil]
      exact (map_id _).symm
  | cons field fields ih =>
      have free : r.sourceOf field ∉ front.map r.sourceOf := fun claimed => by
        rw [List.map_append, List.map_cons] at distinct
        exact (List.nodup_append.mp distinct).2.2 _ claimed _ List.mem_cons_self rfl
      rw [List.append_cons] at distinct
      rw [List.cons_append, mappingsFrom_readers_cons free, ih distinct, map_map,
        List.append_assoc, List.singleton_append]
      rfl

/-- **The first shared source field is reported**, with the one field that reads it before. -/
theorem mappingsFrom_of_shared {front back : List Field} {reader field : Field}
    (distinct : (front.map r.sourceOf).Nodup) (member : reader ∈ front)
    (same : r.sourceOf reader = r.sourceOf field) :
    r.mappingsFrom [] (front ++ field :: back) =
      .error ⟨field, r.sourceOf field, reader.name, (r.renaming? field).isSome⟩ := by
  have passed : r.mappingsFrom (r.readers []) (front ++ field :: back) = _ :=
    mappingsFrom_readers_append distinct _
  have claimed : (r.readers front).get? (r.sourceOf field) = some reader.name := by
    rw [← same]
    exact get?_readers distinct member
  rw [List.nil_append] at passed
  refine passed.trans ?_
  simp only [mappingsFrom, source_mapping, claimed, isRenaming_optionsFor]
  rfl

/-! ## Positions -/

/-- The fields at the two positions, the first one before the second, read one source field. -/
def SharesAt (r : Request) (fields : List Field) (i j : Nat) : Prop :=
  i < j ∧ ∃ reader field, fields[i]? = some reader ∧ fields[j]? = some field ∧
    r.sourceOf reader = r.sourceOf field

/-- A source field repeats where a field shares it with an earlier one. -/
theorem straysAt_map_sourceOf_iff {fields : List Field} {j : Nat} :
    StraysAt (fun _ => True) (fields.map r.sourceOf) j ↔ ∃ i, r.SharesAt fields i j := by
  simp only [StraysAt, not_true_eq_false, false_or, List.getElem?_map, Option.map_eq_some_iff,
    mem_take_iff]
  constructor
  · rintro ⟨_, ⟨field, stands, rfl⟩, i, less, claimed⟩
    obtain ⟨reader, earlier, same⟩ := claimed
    exact ⟨i, less, reader, field, earlier, stands, same⟩
  · rintro ⟨i, less, reader, field, earlier, stands, same⟩
    exact ⟨_, ⟨field, stands, rfl⟩, i, less, reader, earlier, same⟩

/-- No source field repeats when no two fields share one. -/
theorem nodup_map_sourceOf_iff {fields : List Field} :
    (fields.map r.sourceOf).Nodup ↔ ∀ j i, ¬ r.SharesAt fields i j := by
  have orderly : (fields.map r.sourceOf).Nodup ↔ Orderly (fun _ => True) (fields.map r.sourceOf) :=
    ⟨fun distinct => ⟨fun _ _ => trivial, distinct⟩, Orderly.distinct⟩
  rw [orderly, ← forall_not_straysAt_iff]
  exact forall_congr' fun j => by rw [straysAt_map_sourceOf_iff, not_exists]

/-- If any two fields share a source field, there is a first field that shares one with an earlier
field, and only one earlier field that it shares it with: otherwise those two would share one. -/
theorem exists_first_sharesAt {fields : List Field}
    (shared : ∃ i j, r.SharesAt fields i j) :
    ∃ i j, r.SharesAt fields i j ∧ (∀ k < j, ∀ i, ¬ r.SharesAt fields i k) ∧
      ∀ k, r.SharesAt fields k j → k = i := by
  have disorderly : ¬ Orderly (fun _ => True) (fields.map r.sourceOf) := by
    obtain ⟨i, j, shares⟩ := shared
    rw [← forall_not_straysAt_iff]
    exact fun none => none j (straysAt_map_sourceOf_iff.mpr ⟨i, shares⟩)
  obtain ⟨j, name, stray⟩ := exists_firstStray disorderly
  obtain ⟨i, shares⟩ := straysAt_map_sourceOf_iff.mp ⟨name, stray.stands, stray.strays⟩
  have first : ∀ k < j, ∀ i, ¬ r.SharesAt fields i k := fun k before i shares =>
    stray.first k before (straysAt_map_sourceOf_iff.mpr ⟨i, shares⟩)
  refine ⟨i, j, shares, first, fun k again => ?_⟩
  obtain ⟨less, reader, field, earlier, stands, same⟩ := shares
  obtain ⟨less', reader', field', earlier', stands', same'⟩ := again
  obtain rfl : field = field' := Option.some.inj (stands.symm.trans stands')
  rcases Nat.lt_trichotomy k i with before | equal | behind
  · exact absurd ⟨before, reader', reader, earlier', earlier, same'.trans same.symm⟩ (first i less k)
  · exact equal
  · exact absurd ⟨behind, reader, reader', earlier, earlier', same.trans same'.symm⟩ (first k less' i)

/-! ## The outcome -/

/-- The fields are mapped exactly when no source field is read twice. -/
theorem exists_mappings_iff {target : Schema} :
    (∃ ms, r.mappings target = .ok ms) ↔ (target.fields.map r.sourceOf).Nodup := by
  have sources : (target.fields.map r.mapping).map Mapping.source =
      target.fields.map r.sourceOf := by
    rw [List.map_map]
    exact List.map_congr_left fun field _ => source_mapping r field
  simp only [mappings_eq_ok_iff, exists_eq_left, sources]

/-- The report at the first field that shares its source field. -/
theorem mappings_of_sharesAt {target : Schema} {i j : Nat} {reader field : Field}
    (less : i < j) (earlier : target.fields[i]? = some reader)
    (stands : target.fields[j]? = some field) (same : r.sourceOf reader = r.sourceOf field)
    (first : ∀ k < j, ∀ i, ¬ r.SharesAt target.fields i k) :
    r.mappings target =
      .error (SharedSource.diagnose
        ⟨field, r.sourceOf field, reader.name, (r.renaming? field).isSome⟩ target) := by
  have orderly : Orderly (fun _ => True) ((target.fields.map r.sourceOf).take j) :=
    orderly_take fun k before => by
      rw [straysAt_map_sourceOf_iff, not_exists]
      exact first k before
  have distinct : ((target.fields.take j).map r.sourceOf).Nodup := by
    rw [List.map_take]
    exact orderly.distinct
  have member : reader ∈ target.fields.take j := mem_take_iff.mpr ⟨i, less, earlier⟩
  have shared : r.mappingsFrom [] (target.fields.take j ++ field :: target.fields.drop (j + 1)) = _ :=
    mappingsFrom_of_shared distinct member same
  rw [take_append_cons_drop stands] at shared
  rw [mappings, shared]
  rfl

/-- **The mapping of the fields of a target, exactly.**  It fails when two fields read one source
field.  What is reported then names the first field whose source field is read before, and the
only field before it that reads it; its option is at fault exactly when it has one that names the
source field; and the report stands at the field, or else at the target.  If the mapping succeeds,
there is one mapping a field, in the order of the declaration, and it is that of the field.
Whether it succeeds does not depend on the order of the fields. -/
theorem mappings_outcome (r : Request) (target : Schema) :
    ((∃ d, r.mappings target = .error d) ↔ ∃ i j, r.SharesAt target.fields i j) ∧
    (∀ d, r.mappings target = .error d →
      ∃ i j reader field, r.SharesAt target.fields i j ∧
        (∀ k < j, ∀ i, ¬ r.SharesAt target.fields i k) ∧
        (∀ k, r.SharesAt target.fields k j → k = i) ∧
        target.fields[i]? = some reader ∧ target.fields[j]? = some field ∧
        d = { kind := .conflictingFieldDirective
              message := "source field '" ++ r.sourceOf field ++ "' is already read by field '" ++
                reader.name ++ "'"
              schema := target.name, field := some field.name
              key := if (r.renaming? field).isSome then some "rename_from" else none
              location := field.location.or target.location }) ∧
    (∀ ms, r.mappings target = .ok ms →
      ms.length = target.fields.length ∧
        ∀ (k : Nat) (field : Field), target.fields[k]? = some field →
          ms[k]? = some
            { target := field.name, source := r.sourceOf field
              unpack := (r.optionsFor field.name).unpack.getD r.unpack
              type := field.type, location := field.location }) ∧
    ∀ other : Schema, other.fields.Perm target.fields →
      ((∃ ms, r.mappings other = .ok ms) ↔ ∃ ms, r.mappings target = .ok ms) := by
  have fails : (∃ d, r.mappings target = .error d) ↔ ∃ i j, r.SharesAt target.fields i j := by
    rw [exists_error_iff, exists_mappings_iff, nodup_map_sourceOf_iff, exists_comm]
    simp only [not_forall, not_not]
  refine ⟨fails, fun d failed => ?_, fun ms done => ?_, fun other perm => ?_⟩
  · obtain ⟨i, j, shares, first, only⟩ := exists_first_sharesAt (fails.mp ⟨d, failed⟩)
    obtain ⟨less, reader, field, earlier, stands, same⟩ := id shares
    rw [mappings_of_sharesAt less earlier stands same first, Except.error.injEq] at failed
    exact ⟨i, j, reader, field, shares, first, only, earlier, stands, failed.symm⟩
  · obtain ⟨rfl, -⟩ := mappings_eq_ok_iff.mp done
    refine ⟨List.length_map _, fun k field stands => ?_⟩
    rw [List.getElem?_map, stands, Option.map_some, ← source_mapping]
    rfl
  · rw [exists_mappings_iff, exists_mappings_iff, (perm.map r.sourceOf).nodup_iff]

/-- Two fields that are renamed from each other, and a third one that is renamed from the second. -/
def crossed : Request where
  schema := "Foo"
  options := [("a", { source := some "b" }), ("b", { source := some "a" }),
    ("c", { source := some "b" })]

/-- The target of `crossed`, whose fields have no places. -/
def crossedTarget : Schema where
  name := "Foo"
  fields := [{ name := "a", type := "u8" }, { name := "b", type := "u8" },
    { name := "c", type := "u8" }]
  location := some { path := "models.rs", line := 1 }

theorem mappings_outcome_crossed :
    ∃ d, crossed.mappings crossedTarget = .error d ∧
      d.message = "source field 'b' is already read by field 'a'" ∧ d.field = some "c" ∧
      d.key = some "rename_from" ∧ d.location = some { path := "models.rs", line := 1 } ∧
      ∃ i j, crossed.SharesAt crossedTarget.fields i j ∧
        ∀ k, crossed.SharesAt crossedTarget.fields k j → k = i := by
  have failed : crossed.mappings crossedTarget =
      .error
        { kind := .conflictingFieldDirective
          message := "source field 'b' is already read by field 'a'"
          schema := "Foo", field := some "c", key := some "rename_from"
          location := some { path := "models.rs", line := 1 } } := by decide
  obtain ⟨i, j, _, _, shares, -, only, -⟩ := (mappings_outcome crossed crossedTarget).2.1 _ failed
  exact ⟨_, failed, rfl, rfl, rfl, rfl, i, j, shares, only⟩

end Request

end Narrowing
