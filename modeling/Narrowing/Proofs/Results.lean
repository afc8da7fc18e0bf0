import Mathlib.Data.List.Forall2

/-!
# Results and failures

Every stage of the library gives a result or a failure, and stages are put together by
carrying results on.  This module says when a composition has a result: exactly when all
of its stages have one.
-/

namespace Narrowing

section Results

variable {ε ε' α β γ : Type}

theorem map_id (e : Except ε α) : e.map (fun a => a) = e := by
  cases e <;> rfl

theorem map_map (e : Except ε α) (f : α → β) (g : β → γ) :
    (e.map f).map g = e.map fun a => g (f a) := by
  cases e <;> rfl

theorem mapError_map (e : Except ε α) (f : α → β) (g : ε → ε') :
    (e.map f).mapError g = (e.mapError g).map f := by
  cases e <;> rfl

/-- A result is only carried on when there is one. -/
theorem map_eq_ok_iff {e : Except ε α} {f : α → β} {b : β} :
    e.map f = .ok b ↔ ∃ a, e = .ok a ∧ f a = b := by
  cases e with
  | error fault => exact ⟨nofun, nofun⟩
  | ok a =>
      constructor
      · rintro ⟨⟩
        exact ⟨a, rfl, rfl⟩
      · rintro ⟨_, ⟨⟩, rfl⟩
        rfl

/-- A problem is only reworded: what was read without one stays as it is. -/
theorem mapError_eq_ok_iff {e : Except ε α} {f : ε → ε'} {a : α} :
    e.mapError f = .ok a ↔ e = .ok a := by
  cases e with
  | error fault => exact ⟨nofun, nofun⟩
  | ok found =>
      show Except.ok found = Except.ok a ↔ Except.ok found = Except.ok a
      rw [Except.ok.injEq, Except.ok.injEq]

/-- There is a failure exactly when there is no result. -/
theorem exists_error_iff {e : Except ε α} :
    (∃ fault, e = .error fault) ↔ ¬ ∃ a, e = .ok a := by
  cases e with
  | error fault => simp
  | ok a => simp

/-- A failure stays what it is when results are carried on. -/
theorem map_eq_error_iff {e : Except ε α} {f : α → β} {fault : ε} :
    e.map f = .error fault ↔ e = .error fault := by
  cases e with
  | ok a => exact ⟨nofun, nofun⟩
  | error found =>
      show Except.error found = Except.error fault ↔ Except.error found = Except.error fault
      rw [Except.error.injEq, Except.error.injEq]

/-- A reworded failure comes from one that was there. -/
theorem mapError_eq_error_iff {e : Except ε α} {f : ε → ε'} {fault : ε'} :
    e.mapError f = .error fault ↔ ∃ found, e = .error found ∧ f found = fault := by
  cases e with
  | ok a => exact ⟨nofun, nofun⟩
  | error found =>
      constructor
      · rintro ⟨⟩
        exact ⟨found, rfl, rfl⟩
      · rintro ⟨_, ⟨⟩, rfl⟩
        rfl

theorem bind_eq_ok_iff {e : Except ε α} {f : α → Except ε β} {r : β} :
    (e >>= f) = .ok r ↔ ∃ a, e = .ok a ∧ f a = .ok r := by
  cases e with
  | error fault => exact ⟨nofun, nofun⟩
  | ok a =>
      show f a = .ok r ↔ _
      simp

theorem pure_eq_ok_iff {a r : α} : (pure a : Except ε α) = .ok r ↔ a = r := by
  show Except.ok a = Except.ok r ↔ _
  rw [Except.ok.injEq]

theorem bind_eq_error_iff {e : Except ε α} {f : α → Except ε β} {fault : ε} :
    (e >>= f) = .error fault ↔ e = .error fault ∨ ∃ a, e = .ok a ∧ f a = .error fault := by
  cases e with
  | error found =>
      show Except.error found = .error fault ↔ _
      simp
  | ok a =>
      show f a = .error fault ↔ _
      simp

/-- A list has results exactly when every member has one, and they are these in order. -/
theorem mapM_eq_ok_iff {f : α → Except ε β} {l : List α} {results : List β} :
    l.mapM f = .ok results ↔ l.map f = results.map .ok := by
  induction l generalizing results with
  | nil =>
      rw [List.mapM_nil, pure_eq_ok_iff, List.map_nil, eq_comm, eq_comm (a := []), List.map_eq_nil_iff]
  | cons a l ih =>
      rw [List.mapM_cons, bind_eq_ok_iff, List.map_cons]
      constructor
      · rintro ⟨b, first, done⟩
        obtain ⟨others, rest, done⟩ := bind_eq_ok_iff.mp done
        rw [pure_eq_ok_iff] at done
        rw [← done, List.map_cons, first, ih.mp rest]
      · intro same
        cases results with
        | nil => cases same
        | cons b others =>
            rw [List.map_cons, List.cons.injEq] at same
            refine ⟨b, same.1, bind_eq_ok_iff.mpr ⟨others, ih.mpr same.2, pure_eq_ok_iff.mpr rfl⟩⟩

/-- **A list fails with the first of its members that fails.** -/
theorem mapM_eq_error_iff {f : α → Except ε β} {l : List α} {fault : ε} :
    l.mapM f = .error fault ↔
      ∃ before a after, l = before ++ a :: after ∧ (∀ b ∈ before, ∃ r, f b = .ok r) ∧
        f a = .error fault := by
  induction l with
  | nil =>
      rw [List.mapM_nil]
      refine ⟨nofun, ?_⟩
      rintro ⟨before, a, after, whole, -⟩
      simp at whole
  | cons first l ih =>
      rw [List.mapM_cons, bind_eq_error_iff]
      constructor
      · rintro (failed | ⟨b, done, failed⟩)
        · exact ⟨[], first, l, rfl, by simp, failed⟩
        rcases bind_eq_error_iff.mp failed with failed | ⟨others, -, failed⟩
        · obtain ⟨before, a, after, rfl, passed, failed⟩ := ih.mp failed
          exact ⟨first :: before, a, after, rfl, List.forall_mem_cons.mpr ⟨⟨b, done⟩, passed⟩, failed⟩
        · cases failed
      · rintro ⟨before, a, after, whole, passed, failed⟩
        cases before with
        | nil =>
            obtain ⟨rfl, rfl⟩ := List.cons.inj whole
            exact .inl failed
        | cons b before =>
            obtain ⟨rfl, rfl⟩ := List.cons.inj whole
            obtain ⟨⟨r, done⟩, passed⟩ := List.forall_mem_cons.mp passed
            exact .inr ⟨r, done, bind_eq_error_iff.mpr
              (.inl (ih.mpr ⟨before, a, after, rfl, passed, failed⟩))⟩

/-- **When every member of a list has a result**, it is among the results. -/
theorem exists_of_mapM {f : α → Except ε β} {l : List α} {results : List β}
    (done : l.mapM f = .ok results) : ∀ a ∈ l, ∃ b ∈ results, f a = .ok b := by
  induction l generalizing results with
  | nil => simp
  | cons a l ih =>
      rw [List.mapM_cons, bind_eq_ok_iff] at done
      obtain ⟨b, first, done⟩ := done
      obtain ⟨others, rest, done⟩ := bind_eq_ok_iff.mp done
      rw [pure_eq_ok_iff] at done
      subst done
      rw [List.forall_mem_cons]
      refine ⟨⟨b, List.mem_cons_self, first⟩, fun a' member => ?_⟩
      obtain ⟨b', member', found⟩ := ih rest a' member
      exact ⟨b', List.mem_cons_of_mem b member', found⟩

/-- What optional results hold together. -/
theorem flatMap_toList (results : List (Option α)) :
    results.flatMap Option.toList = results.filterMap id :=
  (List.filterMap_eq_flatMap_toList id results).symm

/-- **Where every picked member of a list gives one thing and every other member none**, the
results hold one thing for every picked member, in order. -/
theorem forall₂_filter_of_mapM {f : α → Except ε γ} {given : γ → List β} {p : α → Bool}
    {R : α → β → Prop} {l : List α} {results : List γ} (done : l.mapM f = .ok results)
    (unpicked : ∀ a ∈ l, p a = false → ∀ r, f a = .ok r → given r = [])
    (picked : ∀ a ∈ l, p a = true → ∀ r, f a = .ok r → ∃ b, given r = [b] ∧ R a b) :
    List.Forall₂ R (l.filter p) (results.flatMap given) := by
  rw [mapM_eq_ok_iff] at done
  induction l generalizing results with
  | nil =>
      rw [List.map_nil, eq_comm, List.map_eq_nil_iff] at done
      subst done
      exact .nil
  | cons a l ih =>
      obtain ⟨r, others, rfl, first, rest⟩ := List.map_eq_cons_iff.mp done.symm
      rw [List.forall_mem_cons] at unpicked picked
      have behind := ih rest.symm unpicked.2 picked.2
      rw [List.filter_cons, List.flatMap_cons]
      split
      · next among =>
          obtain ⟨b, one, holds⟩ := picked.1 among r first.symm
          rw [one]
          exact .cons holds behind
      · next among =>
          rw [unpicked.1 (by simpa using among) r first.symm]
          exact behind

end Results

end Narrowing
