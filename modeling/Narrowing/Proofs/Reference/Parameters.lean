import Mathlib.Data.List.Perm.Basic
import Narrowing.Proofs.Stray
import Narrowing.Reference.Parameters

/-!
# Free arguments against declared parameters, exactly

The free arguments of a source are compared with the declared parameters of its target
in two scans.  The first one goes through the free arguments and ends at the first stray
one; the second one looks for declared parameters that are left over.  So which
difference is reported depends on the order of the free arguments, and whether there is
one does not.

### What the record of the first scan is

The names seen so far are kept in reverse.  While no name strays they are exactly the
names passed (`checkNames_append`), hence declared and distinct.  Both ends of the scan
are read off from there: `checkNames_of_firstStray` for a stray name and
`checkNames_of_orderly` for a list without one.

## Main statements

* `Reference.checkParams_eq_ok_iff` — the references that fit declared parameters
* `Reference.checkParams_outcome` — the same, and the difference that is reported otherwise
-/

namespace Narrowing

namespace Reference

section Scans

variable {declared : List String}

/-- A declared name that is new is recorded. -/
theorem checkNames_cons {seen : List String} {name : String} (known : name ∈ declared)
    (new : name ∉ seen) (rest : List String) :
    checkNames declared seen (name :: rest) = checkNames declared (name :: seen) rest := by
  rw [checkNames, if_neg (not_not.mpr known), if_neg new]

/-- **The names seen are the names passed**, as long as none of them strays. -/
theorem checkNames_append {seen front : List String}
    (orderly : Orderly (· ∈ declared) (seen.reverse ++ front)) (rest : List String) :
    checkNames declared seen (front ++ rest) = checkNames declared (front.reverse ++ seen) rest := by
  induction front generalizing seen with
  | nil => rfl
  | cons name front ih =>
      rw [List.append_cons] at orderly
      obtain ⟨-, known, new⟩ := orderly_concat_iff.mp (orderly.of_append)
      rw [List.cons_append, checkNames_cons known (by simpa using new), ih (by simpa using orderly),
        List.reverse_cons, List.append_assoc]
      rfl

/-- **The first stray name is reported.** -/
theorem checkNames_of_firstStray {names : List String} {i : Nat} {name : String}
    (stray : FirstStray (· ∈ declared) names i name) :
    checkNames declared [] names =
      .error (if name ∈ declared then .repeated name else .undeclared name) := by
  have passed : checkNames declared [] (names.take i ++ name :: names.drop (i + 1)) = _ :=
    checkNames_append stray.orderly_take _
  rw [take_append_cons_drop stray.stands, List.append_nil] at passed
  rw [passed, checkNames]
  by_cases known : name ∈ declared
  · have again : name ∈ (names.take i).reverse := List.mem_reverse.mpr (stray.mem_take known)
    rw [if_neg (not_not.mpr known), if_pos again, if_pos known]
  · rw [if_pos known, if_neg known]

/-- **Without a stray name, the declared names that are left over are reported.** -/
theorem checkNames_of_orderly {names : List String} (orderly : Orderly (· ∈ declared) names) :
    checkNames declared [] names =
      if ∀ name ∈ declared, name ∈ names then .ok ()
      else .error (.missing (declared.filter (· ∉ names))) := by
  have passed : checkNames declared [] (names ++ []) = _ := checkNames_append orderly []
  rw [List.append_nil, List.append_nil] at passed
  simp only [passed, checkNames, List.mem_reverse, List.isEmpty_iff, List.filter_eq_nil_iff,
    decide_eq_true_eq, not_not]

end Scans

/-- **A reference fits declared parameters** when its free arguments name each of them exactly
once and nothing else. -/
theorem checkParams_eq_ok_iff {r : Reference} {declared : List String} :
    r.checkParams declared = .ok () ↔
      r.freeParams.Nodup ∧ ∀ name, name ∈ r.freeParams ↔ name ∈ declared := by
  rw [checkParams]
  by_cases orderly : Orderly (· ∈ declared) r.freeParams
  · rw [checkNames_of_orderly orderly]
    constructor
    · intro fits
      split at fits
      · next all => exact ⟨orderly.distinct, fun name => ⟨orderly.known name, all name⟩⟩
      · cases fits
    · rintro ⟨-, same⟩
      rw [if_pos fun name => (same name).mpr]
  · obtain ⟨i, name, stray⟩ := exists_firstStray orderly
    rw [checkNames_of_firstStray stray]
    refine ⟨nofun, fun ⟨distinct, same⟩ => ?_⟩
    exact absurd ⟨fun name => (same name).mp, distinct⟩ orderly

/-- Only the free arguments and the declared names count, and their order does not. -/
theorem checkParams_eq_ok_of_perm {r r' : Reference} {declared declared' : List String}
    (free : r'.freeParams.Perm r.freeParams) (names : declared'.Perm declared) :
    r'.checkParams declared' = .ok () ↔ r.checkParams declared = .ok () := by
  simp only [checkParams_eq_ok_iff, free.nodup_iff, free.mem_iff, names.mem_iff]

/-- **The comparison of a source with a target, exactly.**  It succeeds when the free arguments
are distinct and name the same parameters as the target declares; for distinct declared parameters
this says that one is a permutation of the other.  So bound arguments, the order of the arguments
and the order of the declaration do not matter.  If it fails, the first free argument that is
undeclared or repeats an earlier one is reported, under the kind of its fault; and if there is
none, the declared parameters that do not occur are, in the order of their declaration. -/
theorem checkParams_outcome (source : Reference) (target : Schema) :
    (source.checkParams target.params = .ok () ↔
      source.freeParams.Nodup ∧ ∀ name, name ∈ source.freeParams ↔ name ∈ target.params) ∧
    (target.params.Nodup →
      (source.checkParams target.params = .ok () ↔ source.freeParams.Perm target.params)) ∧
    (∀ (source' : Reference) (target' : Schema), source'.freeParams.Perm source.freeParams →
      target'.params.Perm target.params →
        (source'.checkParams target'.params = .ok () ↔
          source.checkParams target.params = .ok ())) ∧
    (∀ i name, FirstStray (· ∈ target.params) source.freeParams i name →
      ∃ fault, source.checkParams target.params = .error fault ∧
        if name ∈ target.params then
          fault = .repeated name ∧ (fault.diagnose source target).kind = .arityMismatch
        else
          fault = .undeclared name ∧
            (fault.diagnose source target).kind = .unknownGenericParameter) ∧
    ((∀ i, ¬ StraysAt (· ∈ target.params) source.freeParams i) →
      source.checkParams target.params ≠ .ok () →
        ∃ missing, source.checkParams target.params = .error (.missing missing) ∧
          missing = target.params.filter (· ∉ source.freeParams) ∧
          ((ParameterFault.missing missing).diagnose source target).kind = .arityMismatch ∧
          ((ParameterFault.missing missing).diagnose source target).message =
            "declared parameter(s) " ++ ", ".intercalate missing ++ " missing from '" ++
              source.text ++ "'; " ++ "each must appear once as a free '#' argument") := by
  refine ⟨checkParams_eq_ok_iff, fun distinct => ?_, ?_, fun i name stray => ?_, ?_⟩
  · rw [checkParams_eq_ok_iff]
    constructor
    · rintro ⟨free, same⟩
      exact (List.perm_ext_iff_of_nodup free distinct).mpr same
    · intro perm
      exact ⟨perm.nodup_iff.mpr distinct, fun name => perm.mem_iff⟩
  · intro source' target' free names
    exact checkParams_eq_ok_of_perm free names
  · refine ⟨_, checkNames_of_firstStray stray, ?_⟩
    split
    · exact ⟨rfl, rfl⟩
    · exact ⟨rfl, rfl⟩
  · intro none fails
    have outcome := checkNames_of_orderly (forall_not_straysAt_iff.mp none)
    rw [← checkParams] at outcome
    split at outcome
    · exact absurd outcome fails
    · exact ⟨_, outcome, rfl, rfl, rfl⟩

/-- A source that repeats a parameter behind a bound argument, before it names an undeclared one
and while it leaves one out. -/
def mixedSource : Reference :=
  ⟨"lib.Bar", [.free "T", .bound "u8", .free "U", .free "T", .free "X"]⟩

/-- A target with three parameters. -/
def threefold : Schema := { name := "Foo", params := ["U", "T", "V"] }

theorem checkParams_outcome_mixed :
    FirstStray (· ∈ threefold.params) mixedSource.freeParams 2 "T" ∧ "T" ∈ threefold.params ∧
      ∃ fault, mixedSource.checkParams threefold.params = .error fault ∧ fault = .repeated "T" ∧
        (fault.diagnose mixedSource threefold).kind = .arityMismatch := by
  have orderly : Orderly (· ∈ threefold.params) ["T", "U"] := ⟨by decide, by decide⟩
  have stray : FirstStray (· ∈ threefold.params) mixedSource.freeParams 2 "T" :=
    firstStray_append orderly (.inr (by decide)) ["X"]
  have declared : "T" ∈ threefold.params := by decide
  obtain ⟨fault, outcome, reported⟩ := (checkParams_outcome mixedSource threefold).2.2.2.1 2 "T" stray
  rw [if_pos declared] at reported
  exact ⟨stray, declared, fault, outcome, reported⟩

end Reference

end Narrowing
