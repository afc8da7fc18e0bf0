/-!
# Keyed lists

Pairs in the order in which their keys were first written, one pair a key.
Writing a key again replaces its value and keeps its place.

## Main definitions

* `KeyedList.put` — write one key
* `KeyedList.ofPairs` — write the pairs one after another
* `KeyedList.keys` — the keys in order
-/

namespace Narrowing

/-- Pairs of a key and a value, in the order in which the keys were first written. -/
abbrev KeyedList (α : Type) := List (String × α)

namespace KeyedList

variable {α : Type}

/-- Writes a key: its value is replaced if it is there, else the pair is added at the end. -/
def put (l : KeyedList α) (key : String) (value : α) : KeyedList α :=
  match l with
  | [] => [(key, value)]
  | p :: r => if p.1 = key then (key, value) :: r else p :: put r key value

/-- Writes the pairs one after another. -/
def ofPairs (pairs : List (String × α)) : KeyedList α :=
  pairs.foldl (fun l p => put l p.1 p.2) []

/-- The value of a key, if it is there. -/
def get? (l : KeyedList α) (key : String) : Option α := l.lookup key

/-- The keys in order. -/
def keys (l : KeyedList α) : List String := l.map Prod.fst

@[simp] theorem get?_nil (key : String) : get? ([] : KeyedList α) key = none := rfl

theorem get?_cons (p : String × α) (l : KeyedList α) (key : String) :
    get? (p :: l) key = if p.1 = key then some p.2 else get? l key := by
  obtain ⟨k, v⟩ := p
  by_cases h : k = key
  · subst h
    simp [get?]
  · have h' : (key == k) = false := by simpa using fun e => h e.symm
    simp [get?, List.lookup_cons, h', h]

/-- Reading after writing: the written key has the new value, the others are as before. -/
theorem get?_put (l : KeyedList α) (key other : String) (value : α) :
    get? (put l key value) other = if key = other then some value else get? l other := by
  induction l with
  | nil => simp [put, get?_cons]
  | cons p r ih =>
    by_cases h : p.1 = key
    · by_cases ho : key = other <;> simp [put, h, get?_cons, ho]
    · have hput : put (p :: r) key value = p :: put r key value := by simp [put, h]
      rw [hput, get?_cons, get?_cons, ih]
      by_cases hp : p.1 = other
      · have hk : ¬ key = other := fun e => h (hp.trans e.symm)
        rw [if_pos hp, if_neg hk, if_pos hp]
      · rw [if_neg hp, if_neg hp]

end KeyedList

end Narrowing
