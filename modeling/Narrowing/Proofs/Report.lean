import Narrowing.Proofs.Generation
import Narrowing.Report

/-!
# Reports are independent

A report on many declarations is put together from the reports on each of them, and
those do not know of each other.  This module says so in two ways: a report lists what
`Declaration.generate` gives for its declarations one by one (`ofDeclarations_eq`), and
it is the same however the declarations are cut into batches
(`ofDeclarations_append`, `foldl_append_ofDeclarations`).

### Why nothing is lost

`Report.ofDeclaration` has a case for a failure that is no diagnostic, and a
declaration that came to it would leave no entry at all.  It does not arise:
`rejected_of_generate` shows that every failure is a reported diagnostic.  So every
declaration leaves exactly one entry (`ofDeclaration_cases`), and a report has as many
entries as declarations.

## Main statements

* `Report.ofDeclaration_cases` — what one declaration leaves in a report
* `Report.ofDeclarations_eq` — a report, entry by entry
* `Report.ofDeclarations_independent` — order, cuts and success of a whole batch
-/

namespace Narrowing

/-! ## One declaration -/

namespace Declaration

/-- The conversion of a declaration, if there is one. -/
def conversion? (d : Declaration) : Option Conversion := d.generate.toOption

/-- The diagnostic with which a declaration is rejected, if it is. -/
def rejection? (d : Declaration) : Option Diagnostic :=
  match d.generate with
  | .error (.rejected diagnostic) => some diagnostic
  | _ => none

theorem rejection?_eq_some_iff {d : Declaration} {diagnostic : Diagnostic} :
    d.rejection? = some diagnostic ↔ d.generate = .error (.rejected diagnostic) := by
  rw [rejection?]
  split
  · next found => rw [found, Option.some.injEq, Except.error.injEq, Failure.rejected.injEq]
  · next other => exact ⟨nofun, fun rejected => (other diagnostic rejected).elim⟩

end Declaration

namespace Report

/-! ## Appending -/

@[simp] theorem empty_append (r : Report) : append {} r = r := rfl

@[simp] theorem append_empty (r : Report) : append r {} = r := by simp [append]

theorem append_assoc (r s t : Report) : append (append r s) t = append r (append s t) := by
  simp [append]

/-! ## A report, entry by entry -/

/-- **What one declaration leaves in a report**: its conversion or the diagnostic it is rejected
with, exactly one of the two. -/
theorem ofDeclaration_cases (d : Declaration) :
    (∃ c, d.generate = .ok c ∧ ofDeclaration d = ⟨[c], []⟩) ∨
      ∃ diagnostic, d.generate = .error (.rejected diagnostic) ∧
        ofDeclaration d = ⟨[], [diagnostic]⟩ := by
  cases generated : d.generate with
  | ok c => exact .inl ⟨c, rfl, by rw [ofDeclaration, generated]⟩
  | error failure =>
      obtain ⟨diagnostic, rfl⟩ := Declaration.rejected_of_generate generated
      exact .inr ⟨diagnostic, rfl, by rw [ofDeclaration, generated]⟩

theorem ofDeclaration_eq (d : Declaration) :
    ofDeclaration d = ⟨d.conversion?.toList, d.rejection?.toList⟩ := by
  rcases ofDeclaration_cases d with ⟨c, generated, left⟩ | ⟨diagnostic, generated, left⟩
  · simp [left, Declaration.conversion?, Declaration.rejection?, generated, Except.toOption]
  · simp [left, Declaration.conversion?, Declaration.rejection?, generated, Except.toOption]

theorem ofDeclarations_cons (d : Declaration) (ds : List Declaration) :
    ofDeclarations (d :: ds) = (ofDeclaration d).append (ofDeclarations ds) := rfl

/-- **A report lists what its declarations give one by one**, in their order. -/
theorem ofDeclarations_eq (ds : List Declaration) :
    ofDeclarations ds =
      ⟨ds.filterMap Declaration.conversion?, ds.filterMap Declaration.rejection?⟩ := by
  rw [List.filterMap_eq_flatMap_toList, List.filterMap_eq_flatMap_toList]
  induction ds with
  | nil => rfl
  | cons d ds ih =>
      rw [ofDeclarations_cons, ih, ofDeclaration_eq, append, List.flatMap_cons, List.flatMap_cons]

/-- A report has one entry a declaration. -/
theorem length_ofDeclarations (ds : List Declaration) :
    (ofDeclarations ds).conversions.length + (ofDeclarations ds).diagnostics.length =
      ds.length := by
  induction ds with
  | nil => rfl
  | cons d ds ih =>
      rw [ofDeclarations_cons, append, List.length_append, List.length_append, List.length_cons,
        ← ih]
      rcases ofDeclaration_cases d with ⟨c, -, left⟩ | ⟨diagnostic, -, left⟩
      · rw [left, List.length_singleton, List.length_nil]
        omega
      · rw [left, List.length_singleton, List.length_nil]
        omega

/-- A batch succeeds when each of its declarations does. -/
theorem ok_ofDeclarations_iff {ds : List Declaration} :
    (ofDeclarations ds).ok = true ↔ ∀ d ∈ ds, ∃ c, d.generate = .ok c := by
  rw [ofDeclarations_eq, ok, List.isEmpty_iff, List.filterMap_eq_nil_iff]
  refine forall₂_congr fun d _ => ?_
  constructor
  · intro accepted
    rcases ofDeclaration_cases d with ⟨c, generated, -⟩ | ⟨diagnostic, generated, -⟩
    · exact ⟨c, generated⟩
    · rw [Declaration.rejection?_eq_some_iff.mpr generated] at accepted
      cases accepted
  · rintro ⟨c, generated⟩
    rw [Declaration.rejection?, generated]

/-! ## Batches -/

/-- **The report on two batches** is the report on one followed by that on the other. -/
theorem ofDeclarations_append (ds es : List Declaration) :
    ofDeclarations (ds ++ es) = (ofDeclarations ds).append (ofDeclarations es) := by
  induction ds with
  | nil => rfl
  | cons d ds ih =>
      rw [List.cons_append, ofDeclarations_cons, ih, ofDeclarations_cons, append_assoc]

/-- **A running report**: batches reported on one after another leave what one batch of them all
leaves. -/
theorem foldl_append_ofDeclarations (running : Report) (batches : List (List Declaration)) :
    batches.foldl (fun r batch => r.append (ofDeclarations batch)) running =
      running.append (ofDeclarations batches.flatten) := by
  induction batches generalizing running with
  | nil => exact (append_empty running).symm
  | cons batch batches ih =>
      rw [List.foldl_cons, ih, List.flatten_cons, ofDeclarations_append, append_assoc]

/-- Another order of the declarations is another order of the entries. -/
theorem ofDeclarations_perm {ds es : List Declaration} (reordered : ds.Perm es) :
    (ofDeclarations ds).conversions.Perm (ofDeclarations es).conversions ∧
      (ofDeclarations ds).diagnostics.Perm (ofDeclarations es).diagnostics := by
  rw [ofDeclarations_eq, ofDeclarations_eq]
  exact ⟨reordered.filterMap _, reordered.filterMap _⟩

/-- **Declarations do not affect each other's reports.**  Each one leaves its conversion or the
diagnostic it is rejected with, exactly one of the two, and a batch lists what its declarations
leave alone, in their order.  Reporting on parts of a batch one after the other, in a report that
may already hold something, is reporting on the batch.  Another order only reorders the entries,
and a batch succeeds exactly when each of its declarations does alone. -/
theorem ofDeclarations_independent (ds : List Declaration) :
    (∀ d, (∃ c, d.generate = .ok c ∧ ofDeclaration d = ⟨[c], []⟩) ∨
      ∃ diagnostic, d.generate = .error (.rejected diagnostic) ∧
        ofDeclaration d = ⟨[], [diagnostic]⟩) ∧
    (ofDeclarations ds).conversions = ds.filterMap Declaration.conversion? ∧
    (ofDeclarations ds).diagnostics = ds.filterMap Declaration.rejection? ∧
    (ofDeclarations ds).conversions.length + (ofDeclarations ds).diagnostics.length =
      ds.length ∧
    (∀ xs ys, ds = xs ++ ys →
      (ofDeclarations xs).append (ofDeclarations ys) = ofDeclarations ds) ∧
    (∀ (running : Report) (batches : List (List Declaration)), ds = batches.flatten →
      batches.foldl (fun r batch => r.append (ofDeclarations batch)) running =
        running.append (ofDeclarations ds)) ∧
    (∀ es, ds.Perm es →
      (ofDeclarations ds).conversions.Perm (ofDeclarations es).conversions ∧
      (ofDeclarations ds).diagnostics.Perm (ofDeclarations es).diagnostics ∧
      (ofDeclarations ds).ok = (ofDeclarations es).ok) ∧
    ((ofDeclarations ds).ok = true ↔ ∀ d ∈ ds, ∃ c, d.generate = .ok c) := by
  have entries := ofDeclarations_eq ds
  refine ⟨ofDeclaration_cases, by rw [entries], by rw [entries], length_ofDeclarations ds,
    ?_, ?_, ?_, ok_ofDeclarations_iff⟩
  · rintro xs ys rfl
    exact (ofDeclarations_append xs ys).symm
  · rintro running batches rfl
    exact foldl_append_ofDeclarations running batches
  · intro es reordered
    obtain ⟨conversions, diagnostics⟩ := ofDeclarations_perm reordered
    exact ⟨conversions, diagnostics, diagnostics.isEmpty_eq⟩

/-- A schema that is marked without options, so that it names no source. -/
def sourceless : Declaration where
  schema := { name := "Baz", fields := [{ name := "a", type := "int" }] }

/-- A batch in which only the first declaration has a conversion, reported on in another order and
as a running report on its two parts. -/
theorem ofDeclarations_swapped_sourceless :
    [Declaration.swapped, sourceless].Perm [sourceless, Declaration.swapped] ∧
      (ofDeclarations [sourceless, Declaration.swapped]).conversions =
        [Declaration.swappedConversion] ∧
      ([[Declaration.swapped], [sourceless]].foldl
        (fun (r : Report) batch => r.append (ofDeclarations batch)) {}).ok = false := by
  have reordered : [Declaration.swapped, sourceless].Perm [sourceless, Declaration.swapped] :=
    .swap ..
  obtain ⟨-, listed, -, -, -, running, order, -⟩ :=
    ofDeclarations_independent [Declaration.swapped, sourceless]
  have first : [Declaration.swapped, sourceless].filterMap Declaration.conversion? =
      [Declaration.swappedConversion] := by decide +kernel
  obtain ⟨conversions, -, -⟩ := order _ reordered
  rw [listed, first] at conversions
  refine ⟨reordered, (List.singleton_perm.mp conversions).symm, ?_⟩
  rw [running {} [[Declaration.swapped], [sourceless]] rfl, empty_append]
  decide +kernel

end Report

end Narrowing
