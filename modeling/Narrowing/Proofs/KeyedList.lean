import Mathlib.Data.List.Induction
import Mathlib.Data.List.Nodup
import Narrowing.KeyedList

/-!
# Writing many keys

`KeyedList.ofPairs` writes pairs one after another.  A new key goes behind the others, so
pairs with distinct keys are kept as they are (`KeyedList.ofPairs_eq_self`).
-/

namespace Narrowing.KeyedList

variable {α : Type}

theorem ofPairs_concat (pairs : List (String × α)) (p : String × α) :
    ofPairs (pairs ++ [p]) = put (ofPairs pairs) p.1 p.2 := by
  rw [ofPairs, List.foldl_append]
  rfl

theorem mem_keys_put {l : KeyedList α} {key k : String} {value : α} :
    k ∈ keys (put l key value) ↔ k = key ∨ k ∈ keys l := by
  induction l with
  | nil => simp [put, keys]
  | cons p r ih =>
      rw [put]
      split
      · next same => simp [keys, same]
      · rw [keys, List.map_cons, List.mem_cons, ← keys, ih, or_left_comm, keys, keys, List.map_cons,
          List.mem_cons]

/-- A new key is written behind the others. -/
theorem put_of_notMem {l : KeyedList α} {key : String} (new : key ∉ keys l) (value : α) :
    put l key value = l ++ [(key, value)] := by
  induction l with
  | nil => rfl
  | cons p l ih =>
      rw [keys, List.map_cons, List.mem_cons, not_or] at new
      rw [put, if_neg (Ne.symm new.1), ih new.2, List.cons_append]

/-- A key is missing exactly when no pair has it. -/
theorem get?_eq_none_iff {l : KeyedList α} {key : String} : get? l key = none ↔ key ∉ keys l := by
  induction l with
  | nil => simp [keys]
  | cons p l ih =>
      rw [get?_cons, keys, List.map_cons, List.mem_cons, not_or, ← keys]
      split
      · next same => simp [same]
      · next other => rw [ih, and_iff_right (Ne.symm other)]

/-- **Where the keys are distinct, the pairs say the values.** -/
theorem get?_eq_some_iff {l : KeyedList α} (distinct : (keys l).Nodup) {key : String} {value : α} :
    get? l key = some value ↔ (key, value) ∈ l := by
  induction l with
  | nil => simp
  | cons p l ih =>
      rw [keys, List.map_cons, List.nodup_cons, ← keys] at distinct
      rw [get?_cons, List.mem_cons]
      split
      · next same =>
          subst same
          have once : (p.1, value) ∉ l := fun member =>
            distinct.1 (List.mem_map.mpr ⟨_, member, rfl⟩)
          rw [or_iff_left once, Option.some.injEq, Prod.ext_iff, and_iff_right rfl, eq_comm]
      · next other =>
          have first : (key, value) ≠ p := by
            rintro rfl
            exact other rfl
          rw [ih distinct.2, or_iff_right first]

/-- The keys are those of the pairs. -/
theorem mem_keys_ofPairs {pairs : List (String × α)} {k : String} :
    k ∈ keys (ofPairs pairs) ↔ k ∈ pairs.map Prod.fst := by
  induction pairs using List.reverseRecOn with
  | nil => rfl
  | append_singleton pairs p ih =>
      rw [ofPairs_concat, mem_keys_put, ih, List.map_append, List.mem_append, or_comm]
      simp

/-- Pairs with distinct keys are written as they are. -/
theorem ofPairs_eq_self {pairs : List (String × α)} (distinct : (pairs.map Prod.fst).Nodup) :
    ofPairs pairs = pairs := by
  induction pairs using List.reverseRecOn with
  | nil => rfl
  | append_singleton pairs p ih =>
      rw [List.map_append, List.map_singleton, List.nodup_append_comm, List.singleton_append,
        List.nodup_cons] at distinct
      rw [ofPairs_concat, ih distinct.2, put_of_notMem distinct.1]

/-- **Where no key is written twice, every pair is kept.** -/
theorem get?_ofPairs_of_mem {pairs : List (String × α)} (distinct : (pairs.map Prod.fst).Nodup)
    {p : String × α} (member : p ∈ pairs) : get? (ofPairs pairs) p.1 = some p.2 := by
  rw [ofPairs_eq_self distinct]
  exact (get?_eq_some_iff distinct).mpr member

/-! ## Things with a value or without one -/

section Given

variable {β : Type} {name : β → String}

/-- The keys that are given a value are among the names. -/
theorem map_fst_given_sublist (entries : List (β × Option α)) :
    ((entries.filterMap fun (b, value) => value.map (name b, ·)).map Prod.fst).Sublist
      (entries.map fun e => name e.1) := by
  induction entries with
  | nil => exact .slnil
  | cons e entries ih =>
      obtain ⟨b, value⟩ := e
      cases value with
      | none => exact ih.cons (name b)
      | some value => exact ih.cons_cons (name b)

/-- **Things with distinct names are found with the value that they were given, or without one.** -/
theorem get?_ofPairs_given {entries : List (β × Option α)}
    (distinct : (entries.map fun e => name e.1).Nodup) {b : β} {value : Option α}
    (member : (b, value) ∈ entries) :
    get? (ofPairs (entries.filterMap fun (b, value) => value.map (name b, ·))) (name b) = value := by
  cases value with
  | some value =>
      have written : (name b, value) ∈ entries.filterMap fun (b, value) => value.map (name b, ·) :=
        List.mem_filterMap.mpr ⟨_, member, rfl⟩
      exact get?_ofPairs_of_mem (distinct.sublist (map_fst_given_sublist entries)) written
  | none =>
      refine get?_eq_none_iff.mpr fun key => ?_
      rw [mem_keys_ofPairs, List.mem_map] at key
      obtain ⟨p, written, same⟩ := key
      obtain ⟨⟨other, given⟩, member', made⟩ := List.mem_filterMap.mp written
      obtain ⟨value, rfl, rfl⟩ := Option.map_eq_some_iff.mp made
      have equal := List.inj_on_of_nodup_map distinct member member' same.symm
      rw [Prod.mk.injEq] at equal
      cases equal.2

end Given

end Narrowing.KeyedList
