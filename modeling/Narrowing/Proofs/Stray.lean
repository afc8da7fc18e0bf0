import Mathlib.Data.List.Nodup
import Mathlib.Data.Nat.Find

/-!
# The first stray name of a list

The free arguments of a source, the options of a directive and the source fields of a
request are all gone through in the same way: from left to right, up to the first name
that may not stand where it stands.  A name is *stray* if it is not one of the known
names or if it repeats an earlier one.

Such a walk keeps a record of the names it has passed.  Up to the first stray name this
record is exact, for the names passed are known and distinct (`FirstStray.orderly_take`);
and a list without a stray name is passed as a whole (`forall_not_straysAt_iff`).

## Main statements

* `forall_not_straysAt_iff` — a list has no stray name when its names are known and distinct
* `exists_firstStray` — any other list has a first one
-/

namespace Narrowing

section Stray

variable {α : Type} {Known : α → Prop} {names : List α} {i : Nat} {name : α}

/-- **The names are known and distinct.** -/
structure Orderly (Known : α → Prop) (names : List α) : Prop where
  /-- Every name is a known one. -/
  known : ∀ name ∈ names, Known name
  /-- No name repeats an earlier one. -/
  distinct : names.Nodup

/-- The name at position `i` is unknown or repeats an earlier one. -/
def StraysAt (Known : α → Prop) (names : List α) (i : Nat) : Prop :=
  ∃ name, names[i]? = some name ∧ (¬ Known name ∨ name ∈ names.take i)

/-- **The first stray name of a list**, and where it stands. -/
structure FirstStray (Known : α → Prop) (names : List α) (i : Nat) (name : α) : Prop where
  /-- The name stands at position `i`. -/
  stands : names[i]? = some name
  /-- It is unknown or repeats an earlier one. -/
  strays : ¬ Known name ∨ name ∈ names.take i
  /-- No name before it does so. -/
  first : ∀ k < i, ¬ StraysAt Known names k

/-- A list around one of its members. -/
theorem take_append_cons_drop (stands : names[i]? = some name) :
    names.take i ++ name :: names.drop (i + 1) = names := by
  obtain ⟨bound, here⟩ := List.getElem?_eq_some_iff.mp stands
  rw [← here, List.getElem_cons_drop, List.take_append_drop]

/-- The names in front of a position are those at smaller positions. -/
theorem mem_take_iff : name ∈ names.take i ↔ ∃ k < i, names[k]? = some name := by
  rw [List.mem_iff_getElem?]
  refine exists_congr fun k => ?_
  rw [List.getElem?_take]
  split
  · next less => exact ⟨fun stands => ⟨less, stands⟩, And.right⟩
  · next notLess => exact ⟨nofun, fun stands => absurd stands.1 notLess⟩

theorem orderly_nil : Orderly Known ([] : List α) := ⟨by simp, List.nodup_nil⟩

/-- A name may follow orderly ones when it is known and new. -/
theorem orderly_concat_iff :
    Orderly Known (names ++ [name]) ↔ Orderly Known names ∧ Known name ∧ name ∉ names := by
  constructor
  · rintro ⟨known, distinct⟩
    rw [List.forall_mem_append, List.forall_mem_singleton] at known
    rw [List.nodup_append_comm, List.singleton_append, List.nodup_cons] at distinct
    exact ⟨⟨known.1, distinct.2⟩, known.2, distinct.1⟩
  · rintro ⟨⟨known, distinct⟩, own, new⟩
    refine ⟨List.forall_mem_append.mpr ⟨known, List.forall_mem_singleton.mpr own⟩, ?_⟩
    rw [List.nodup_append_comm, List.singleton_append, List.nodup_cons]
    exact ⟨new, distinct⟩

/-- The first ones of orderly names are orderly. -/
theorem Orderly.of_append {front back : List α} (orderly : Orderly Known (front ++ back)) :
    Orderly Known front :=
  ⟨fun name member => orderly.known name (List.mem_append_left back member),
    orderly.distinct.of_append_left⟩

/-- The names before a position are orderly when none of them strays.  The induction is on the
position: one more name is known and new. -/
theorem orderly_take (before : ∀ k < i, ¬ StraysAt Known names k) :
    Orderly Known (names.take i) := by
  induction i with
  | zero => exact orderly_nil
  | succ i ih =>
      have earlier := ih fun k less => before k (Nat.lt_succ_of_lt less)
      rw [List.take_add_one]
      cases stands : names[i]? with
      | none =>
          rw [Option.toList_none, List.append_nil]
          exact earlier
      | some name =>
          have fits : ¬ (¬ Known name ∨ name ∈ names.take i) := fun strays =>
            before i (Nat.lt_succ_self i) ⟨name, stands, strays⟩
          rw [not_or, not_not] at fits
          exact orderly_concat_iff.mpr ⟨earlier, fits⟩

/-- **A list without a stray name** is one of known and distinct names. -/
theorem forall_not_straysAt_iff :
    (∀ i, ¬ StraysAt Known names i) ↔ Orderly Known names := by
  constructor
  · intro none
    have all := orderly_take (i := names.length) fun k _ => none k
    rwa [List.take_length] at all
  · rintro ⟨known, distinct⟩ i ⟨name, stands, strays⟩
    rcases strays with unknown | again
    · exact unknown (known name (List.mem_of_getElem? stands))
    · obtain ⟨k, less, earlier⟩ := mem_take_iff.mp again
      have bound := (List.getElem?_eq_some_iff.mp stands).1
      exact List.nodup_iff_getElem?_ne_getElem?.mp distinct k i less bound (earlier.trans stands.symm)

/-- **Any other list has a first stray name.** -/
theorem exists_firstStray (disorderly : ¬ Orderly Known names) :
    ∃ i name, FirstStray Known names i name := by
  classical
  have strays : ∃ i, StraysAt Known names i := by
    rw [← forall_not_straysAt_iff] at disorderly
    exact not_forall_not.mp disorderly
  obtain ⟨name, stands, stray⟩ := Nat.find_spec strays
  exact ⟨Nat.find strays, name, stands, stray, fun k less => Nat.find_min strays less⟩

/-- A stray name behind orderly ones is the first. -/
theorem firstStray_append {front : List α} (orderly : Orderly Known front)
    (strays : ¬ Known name ∨ name ∈ front) (back : List α) :
    FirstStray Known (front ++ name :: back) front.length name := by
  refine ⟨by simp, ?_, ?_⟩
  · rwa [List.take_left]
  · rintro k less ⟨earlier, stands, stray⟩
    rw [List.getElem?_append_left less] at stands
    rw [List.take_append_of_le_length (Nat.le_of_lt less)] at stray
    exact forall_not_straysAt_iff.mpr orderly k ⟨earlier, stands, stray⟩

namespace FirstStray

/-- The names before the first stray one are known and distinct. -/
theorem orderly_take (stray : FirstStray Known names i name) : Orderly Known (names.take i) :=
  Narrowing.orderly_take stray.first

/-- A stray name that is known repeats an earlier one. -/
theorem mem_take (stray : FirstStray Known names i name) (known : Known name) :
    name ∈ names.take i :=
  stray.strays.resolve_left (not_not.mpr known)

end FirstStray

end Stray

end Narrowing
