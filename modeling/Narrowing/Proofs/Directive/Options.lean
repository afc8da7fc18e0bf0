import Narrowing.Directive.Options
import Narrowing.Proofs.Directive.Token
import Narrowing.Proofs.KeyedList
import Narrowing.Proofs.Stray

/-!
# Collected options

Collecting options refuses unknown and repeated keys, so nothing that was written is
lost on the way: what is collected are the items themselves, one option an item
(`Options.collect_eq_ok_iff`).  The record of the options seen is exact at every step
(`Options.collect_ofItems_append`), which also says where collecting ends: at the first
stray key.

A key without a value means true, and the only option that can be true is `unpack`.
In a directive that is read no other key stands alone.

## Main statements

* `Options.collect_eq_ok_iff`, `Options.collect_of_firstStray` — when items are collected,
  and what is reported otherwise
* `SchemaOptions.eq_unpack_of_flag`, `FieldOptions.eq_unpack_of_flag` — a key that stands
  alone is `unpack`
-/

namespace Narrowing.Directive

namespace Options

variable {scope : Scope} {options : Options} {items : List Item}

/-- The options that items stand for, in the order of the items. -/
def ofItems (items : List Item) : Options := items.map fun i => (i.key, i.value)

theorem keys_ofItems (items : List Item) : (ofItems items).keys = items.map Item.key := by
  rw [KeyedList.keys, ofItems, List.map_map]
  rfl

/-- Under distinct keys the items say the values. -/
theorem get?_ofItems_eq_some_iff (distinct : (items.map Item.key).Nodup) {key : String}
    {value : Value} : (ofItems items).get? key = some value ↔ ⟨key, value⟩ ∈ items := by
  rw [← keys_ofItems] at distinct
  rw [KeyedList.get?_eq_some_iff distinct, ofItems, List.mem_map]
  constructor
  · rintro ⟨i, member, same⟩
    rw [Prod.mk.injEq] at same
    rwa [← same.1, ← same.2]
  · intro member
    exact ⟨_, member, rfl⟩

/-- A key that no item has is missing. -/
theorem get?_ofItems_eq_none_iff {key : String} :
    (ofItems items).get? key = none ↔ key ∉ items.map Item.key := by
  rw [KeyedList.get?_eq_none_iff, keys_ofItems]

/-! ## Collecting -/

/-- An item with a known key that is new is recorded behind the others. -/
theorem collect_ofItems_cons {front : List Item} {i : Item} (known : i.key ∈ scope.keys)
    (new : i.key ∉ front.map Item.key) (rest : List Item) :
    collect scope (ofItems front) (i :: rest) = collect scope (ofItems (front ++ [i])) rest := by
  have missing := get?_ofItems_eq_none_iff.mpr new
  rw [← keys_ofItems] at new
  rw [collect, if_neg (not_not.mpr known), missing, if_neg (by simp), KeyedList.put_of_notMem new,
    ofItems, ofItems, List.map_append, List.map_singleton]

/-- **The options seen are those of the items passed**, as long as no key strays. -/
theorem collect_ofItems_append {front : List Item}
    (orderly : Orderly (· ∈ scope.keys) ((front ++ items).map Item.key)) (rest : List Item) :
    collect scope (ofItems front) (items ++ rest) =
      collect scope (ofItems (front ++ items)) rest := by
  induction items generalizing front with
  | nil => rw [List.nil_append, List.append_nil]
  | cons i items ih =>
      rw [List.append_cons] at orderly
      obtain ⟨-, known, new⟩ : Orderly _ (front.map Item.key) ∧ i.key ∈ scope.keys ∧ _ := by
        rw [List.map_append, List.map_append, List.map_singleton] at orderly
        exact orderly_concat_iff.mp orderly.of_append
      rw [List.cons_append, collect_ofItems_cons known new, ih orderly, List.append_assoc,
        List.singleton_append]

/-- Items with known and distinct keys are collected as a whole. -/
theorem collect_of_orderly (orderly : Orderly (· ∈ scope.keys) (items.map Item.key)) :
    collect scope [] items = .ok (ofItems items) := by
  have passed : collect scope (ofItems []) (items ++ []) = _ := collect_ofItems_append orderly []
  rw [List.append_nil] at passed
  exact passed

/-- **The first stray key is reported**: as unknown, or else as repeated. -/
theorem collect_of_firstStray {i : Nat} {key : String}
    (stray : FirstStray (· ∈ scope.keys) (items.map Item.key) i key) :
    collect scope [] items =
      .error (if key ∈ scope.keys then .repeatedOption key scope else .unknownOption key scope) := by
  obtain ⟨item, stands, rfl⟩ := Option.map_eq_some_iff.mp (List.getElem?_map ▸ stray.stands)
  have orderly : Orderly (· ∈ scope.keys) (([] ++ items.take i).map Item.key) := by
    rw [List.nil_append, List.map_take]
    exact stray.orderly_take
  have passed := collect_ofItems_append orderly (item :: items.drop (i + 1))
  rw [take_append_cons_drop stands] at passed
  refine passed.trans ?_
  rw [List.nil_append, collect]
  by_cases known : item.key ∈ scope.keys
  · have again : item.key ∈ (items.take i).map Item.key := by
      rw [List.map_take]
      exact stray.mem_take known
    have seen : ((ofItems (items.take i)).get? item.key).isSome := by
      rw [Option.isSome_iff_ne_none, Ne, get?_ofItems_eq_none_iff, not_not]
      exact again
    rw [if_neg (not_not.mpr known), if_pos seen, if_pos known]
  · rw [if_pos known, if_neg known]

/-- **Items are collected exactly when their keys are known and distinct**, and then all of them
are kept. -/
theorem collect_eq_ok_iff :
    collect scope [] items = .ok options ↔
      Orderly (· ∈ scope.keys) (items.map Item.key) ∧ options = ofItems items := by
  by_cases orderly : Orderly (· ∈ scope.keys) (items.map Item.key)
  · rw [collect_of_orderly orderly, Except.ok.injEq, and_iff_right orderly, eq_comm]
  · obtain ⟨i, key, stray⟩ := exists_firstStray orderly
    rw [collect_of_firstStray stray]
    exact ⟨nofun, fun kept => absurd kept.1 orderly⟩

/-- The items of a directive text that is read, under their keys. -/
theorem get?_of_ofText {text : String} (read : ofText scope text = .ok options) :
    ∃ items, Item.ofText text = .ok items ∧
      ∀ i ∈ items, i.key ∈ scope.keys ∧ options.get? i.key = some i.value := by
  unfold ofText at read
  split at read
  · cases read
  · next items parsed =>
      obtain ⟨orderly, rfl⟩ := collect_eq_ok_iff.mp read
      exact ⟨items, parsed, fun i member =>
        ⟨orderly.known _ (List.mem_map_of_mem member),
          (get?_ofItems_eq_some_iff orderly.distinct).mpr member⟩⟩

/-- Where the only other key needs a value, a key that stands alone is `unpack`. -/
theorem eq_unpack_of_flag {text valued : String} (keys : scope.keys = [valued, "unpack"])
    (read : ofText scope text = .ok options) (needed : options.get? valued ≠ some .flag) :
    ∃ items, Item.ofText text = .ok items ∧ ∀ i ∈ items, i.value = .flag → i.key = "unpack" := by
  obtain ⟨items, parsed, kept⟩ := get?_of_ofText read
  refine ⟨items, parsed, fun i member flag => ?_⟩
  obtain ⟨known, value⟩ := kept i member
  rw [keys, List.mem_cons, List.mem_singleton] at known
  refine known.resolve_left fun key => needed ?_
  rw [← key, value, flag]

/-- A string is not read from a key that stands alone. -/
theorem string?_flag (key : String) : string? key .flag = .error (.stringExpected key .flag) := rfl

end Options

/-- **A key that stands alone in the directive of a schema is `unpack`.** -/
theorem SchemaOptions.eq_unpack_of_flag {text : String} {options : SchemaOptions}
    (visible : Text.allBlank text.toList = false) (read : ofText (some text) = .ok options) :
    ∃ items, Item.ofText text = .ok items ∧ ∀ i ∈ items, i.value = .flag → i.key = "unpack" := by
  unfold ofText at read
  rw [isSilent, visible, if_neg Bool.false_ne_true, Option.getD_some] at read
  split at read
  · cases read
  next found =>
  refine Options.eq_unpack_of_flag rfl found fun alone => ?_
  simp only [ofOptions, alone, Options.string?_flag] at read
  cases read

/-- **A key that stands alone in the directive of a field is `unpack`.** -/
theorem FieldOptions.eq_unpack_of_flag {text : String} {options : FieldOptions}
    (visible : Text.allBlank text.toList = false) (read : ofText (some text) = .ok options) :
    ∃ items, Item.ofText text = .ok items ∧ ∀ i ∈ items, i.value = .flag → i.key = "unpack" := by
  unfold ofText at read
  rw [isSilent, visible, if_neg Bool.false_ne_true, Option.getD_some] at read
  split at read
  · cases read
  next found =>
  refine Options.eq_unpack_of_flag rfl found fun alone => ?_
  simp only [ofOptions, source?, alone, Options.string?_flag] at read
  cases read

end Narrowing.Directive
