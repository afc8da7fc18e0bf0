import Narrowing.Code.FunctionModule
import Narrowing.Proofs.DocString
import Narrowing.Proofs.Reference.Parameters
import Narrowing.Proofs.Report

/-!
# What a module declares and what it uses

A module of conversion functions is emitted in parts that look at different data.  The
type variables come from the parameters of the targets, the imports from the parameters
and from the kinds of the conversions, the export list from the names of the functions,
and the functions from sources, mappings and checks.  This module says that the parts
fit: what the functions use is declared, and nothing else is.

### Where the parts meet

Two facts about a generated conversion carry the agreement.  The signature of a function
spells its *source*, while the type variables are collected from its *target*; that both
name the same parameters is the comparison that every declaration has passed
(`mem_freeParams_iff_of_mem_conversions`).  And a function raises exactly when its
conversion is fallible, because the checks are the unpacked fields
(`raises_ofConversion_iff`).

### The text as lines

`toList_text` gives the text of a module as lines, section by section.  It is stated over
the functions alone as far as the export list and the definitions are concerned, so the
names that are exported are those of the functions below.

## Main statements

* `toList_text` — the lines of a module
* `pairwise_idxOf_typeVariables` — the order of the type variables
* `declares_used` — what a module declares is what it uses
-/

namespace Narrowing

/-- The conversions of a report are those of its declarations. -/
theorem Report.mem_conversions_iff {ds : List Declaration} {c : Conversion} :
    c ∈ (ofDeclarations ds).conversions ↔ ∃ d ∈ ds, d.generate = .ok c := by
  rw [ofDeclarations_eq, List.mem_filterMap]
  refine exists_congr fun d => and_congr_right fun _ => ?_
  rw [Declaration.conversion?]
  cases d.generate <;> simp [Except.toOption]

/-- **Source and target name the same parameters**, each of them once in the source. -/
theorem Declaration.mem_freeParams_iff_of_generate {d : Declaration} {c : Conversion}
    (generated : d.generate = .ok c) (name : String) :
    name ∈ c.source.freeParams ↔ name ∈ c.target.params := by
  obtain ⟨written, source, options, accepted, rfl⟩ := generate_eq_ok_iff.mp generated
  exact (Reference.checkParams_eq_ok_iff.mp accepted.params).2 name

namespace Code

open Text

/-! ## Functions -/

/-- Some statement of the function raises the report of a missing field. -/
def Function.Raises (f : Function) : Prop := ∃ x missing, .require x missing ∈ f.body

/-- **A function raises exactly when its conversion is fallible.** -/
theorem Function.raises_ofConversion_iff {c : Conversion} :
    (ofConversion c).Raises ↔ c.isFallible = true := by
  rw [Conversion.isFallible, List.any_eq_true]
  constructor
  · rintro ⟨x, missing, member⟩
    obtain ⟨m, check, -⟩ := exists_of_require_mem member
    exact ⟨m, List.mem_filter.mp check⟩
  · rintro ⟨m, member, unpack⟩
    -- The statement that raises is the second one of the check of an unpacked field.
    have check : m ∈ c.unpackChecks := List.mem_filter.mpr ⟨member, unpack⟩
    have raised : .require (variableFor m.target)
        ⟨m.target, m.source, some (c.source.spell .square)⟩ ∈ checkOf (c.source.spell .square) m :=
      List.mem_cons_of_mem _ List.mem_cons_self
    exact ⟨_, _, List.mem_append_left _ (List.mem_flatMap.mpr ⟨m, check, raised⟩)⟩

namespace FunctionModule

/-! ## Type variables -/

/-- The names that are kept are those that occur and were not seen before. -/
theorem mem_distinct_iff {seen names : List String} {name : String} :
    name ∈ distinct seen names ↔ name ∈ names ∧ name ∉ seen := by
  induction names generalizing seen with
  | nil => simp [distinct]
  | cons first rest ih =>
      rw [distinct]
      split
      · next known =>
          rw [ih, List.mem_cons]
          constructor
          · exact fun ⟨member, new⟩ => ⟨.inr member, new⟩
          · rintro ⟨rfl | member, new⟩
            · exact absurd known new
            · exact ⟨member, new⟩
      · next new =>
          rw [List.mem_cons, ih, List.mem_cons, List.mem_cons, not_or]
          constructor
          · rintro (rfl | ⟨member, -, unseen⟩)
            · exact ⟨.inl rfl, new⟩
            · exact ⟨.inr member, unseen⟩
          · rintro ⟨rfl | member, unseen⟩
            · exact .inl rfl
            · by_cases same : name = first
              · exact .inl same
              · exact .inr ⟨member, same, unseen⟩

/-- **The names are kept in the order of their first places.** -/
theorem pairwise_idxOf_distinct (seen names : List String) :
    (distinct seen names).Pairwise fun a b => names.idxOf a < names.idxOf b := by
  induction names generalizing seen with
  | nil => exact .nil
  | cons first rest ih =>
      -- Names other than the first one stand one place further behind it.
      have shifted {seen : List String} (known : first ∈ seen) :
          (distinct seen rest).Pairwise fun a b =>
            (first :: rest).idxOf a < (first :: rest).idxOf b := by
        refine (ih seen).imp_of_mem fun {a b} left right before => ?_
        have apart {name : String} (kept : name ∈ distinct seen rest) : first ≠ name := by
          rintro rfl
          exact (mem_distinct_iff.mp kept).2 known
        rw [List.idxOf_cons_ne _ (apart left), List.idxOf_cons_ne _ (apart right)]
        exact Nat.succ_lt_succ before
      rw [distinct]
      split
      · next known => exact shifted known
      · refine List.pairwise_cons.mpr ⟨fun name kept => ?_, shifted List.mem_cons_self⟩
        have other : first ≠ name := by
          rintro rfl
          exact (mem_distinct_iff.mp kept).2 List.mem_cons_self
        rw [List.idxOf_cons_self, List.idxOf_cons_ne _ other]
        exact Nat.succ_pos _

/-- The parameters of the targets, as they are declared one after the other. -/
def declaredParams (cs : List Conversion) : List String := cs.flatMap fun c => c.target.params

theorem mem_typeVariables_iff {cs : List Conversion} {name : String} :
    name ∈ typeVariables cs ↔ ∃ c ∈ cs, name ∈ c.target.params := by
  rw [typeVariables, mem_distinct_iff, List.mem_flatMap]
  simp

theorem pairwise_idxOf_typeVariables (cs : List Conversion) :
    (typeVariables cs).Pairwise fun a b =>
      (declaredParams cs).idxOf a < (declaredParams cs).idxOf b :=
  pairwise_idxOf_distinct [] _

theorem nodup_typeVariables (cs : List Conversion) : (typeVariables cs).Nodup :=
  (pairwise_idxOf_typeVariables cs).imp fun before same => by
    rw [same] at before
    exact absurd before (Nat.lt_irrefl _)

/-! ## Imports -/

/-- The line that imports what declares type variables. -/
def typingImport : String := "from typing import TypeVar"

/-- The line that imports the report of a missing field. -/
def runtimeImport : String := "from fromsuper.runtime import MissingFieldError"

/-- The lines of the import section. -/
def importLines (s : FileSettings) (cs : List Conversion) : List String :=
  if importGroups s cs = [] then [] else "" :: [""].intercalate (importGroups s cs)

/-- A line other than a separator stands in one of the groups that are separated. -/
theorem mem_intercalate_iff {separator line : String} (other : line ≠ separator)
    (groups : List (List String)) :
    line ∈ [separator].intercalate groups ↔ ∃ group ∈ groups, line ∈ group := by
  induction groups with
  | nil => simp
  | cons group groups ih =>
      cases groups with
      | nil => simp
      | cons next groups =>
          rw [List.intercalate_cons_cons, List.mem_append, List.mem_append, ih,
            List.mem_singleton, List.exists_mem_cons_iff]
          simp [other]

theorem mem_importLines_iff {s : FileSettings} {cs : List Conversion} {line : String}
    (visible : line ≠ "") :
    line ∈ importLines s cs ↔
      (line = typingImport ∧ needsTypeVariables cs = true) ∨
        (line = runtimeImport ∧ needsMissingField cs = true) ∨ line ∈ s.imports := by
  have listed : line ∈ importLines s cs ↔ ∃ group ∈ importGroups s cs, line ∈ group := by
    rw [importLines]
    split
    · next none => simp [none]
    · rw [List.mem_cons, mem_intercalate_iff visible]
      simp [visible]
  have asked : (∃ group ∈ if s.imports.isEmpty then [] else [s.imports], line ∈ group) ↔
      line ∈ s.imports := by
    cases s.imports <;> simp
  rw [listed, importGroups]
  simp only [List.mem_append, or_and_right, exists_or, asked, or_assoc]
  refine or_congr ?_ (or_congr ?_ Iff.rfl)
  · cases needsTypeVariables cs <;> simp [typingImport]
  · cases needsMissingField cs <;> simp [runtimeImport]

/-- Type variables are imported exactly when there are any. -/
theorem needsTypeVariables_iff {cs : List Conversion} :
    needsTypeVariables cs = true ↔ typeVariables cs ≠ [] := by
  rw [needsTypeVariables, List.any_eq_true]
  constructor
  · rintro ⟨c, member, declares⟩
    obtain ⟨name, param⟩ := List.exists_mem_of_ne_nil c.target.params (by simpa using declares)
    exact List.ne_nil_of_mem (mem_typeVariables_iff.mpr ⟨c, member, param⟩)
  · intro some
    obtain ⟨name, declared⟩ := List.exists_mem_of_ne_nil _ some
    obtain ⟨c, member, param⟩ := mem_typeVariables_iff.mp declared
    exact ⟨c, member, by simpa using List.ne_nil_of_mem param⟩

/-- The functions of a module, in order. -/
def functions (cs : List Conversion) : List Function := cs.map Function.ofConversion

/-- The report of a missing field is imported exactly when some function raises it. -/
theorem needsMissingField_iff {cs : List Conversion} :
    needsMissingField cs = true ↔ ∃ f ∈ functions cs, f.Raises := by
  rw [needsMissingField, List.any_eq_true]
  simp only [functions, List.mem_map, exists_exists_and_eq_and, Function.raises_ofConversion_iff]

/-! ## The text as lines -/

/-- The lines of the header. -/
def headerLines (s : FileSettings) : List String :=
  ["# AUTO-GENERATED by fromsuper", "# DO NOT EDIT MANUALLY"] ++ s.labelLines "#"
    ++ ["\"\"\"Conversions generated from fromsuper directives.\"\"\"", "",
      "from __future__ import annotations"]

/-- The line that declares a type variable. -/
def typeVariableLine (name : String) : String := s!"{name} = TypeVar(\"{name}\")"

/-- The line of the export list that names a function. -/
def exportLine (name : String) : String := s!"    \"{name}\","

theorem toList_unlines (lines : List String) : (unlines lines).toList = ofLines lines := by
  rw [unlines, String.toList_join, List.flatMap_map, ofLines]
  simp only [String.toList_append]
  rfl

/-- Lines between groups of lines. -/
theorem ofLines_intercalate (separator : List String) (groups : List (List String)) :
    ofLines (separator.intercalate groups) =
      (ofLines separator).intercalate (groups.map ofLines) := by
  induction groups with
  | nil => rfl
  | cons group groups ih =>
      cases groups with
      | nil => simp
      | cons next groups =>
          rw [List.intercalate_cons_cons, ofLines_append, ofLines_append, ih]
          exact List.intercalate_cons_cons.symm

theorem toList_header_append (s : FileSettings) (cs : List Conversion) :
    (header s ++ importSection s cs).toList = ofLines (headerLines s ++ importLines s cs) := by
  have imported : (importSection s cs).toList = ofLines (importLines s cs) := by
    rw [importSection, importLines]
    cases importGroups s cs with
    | nil => rfl
    | cons group groups =>
        rw [if_neg (List.cons_ne_nil group groups), ofLines_cons, ← toList_unlines]
        exact String.toList_append
  rw [String.toList_append, imported, ofLines_append, header, toList_unlines]
  rfl

theorem map_toList_typeVariableSection (cs : List Conversion) :
    (typeVariableSection cs).map String.toList =
      (if typeVariables cs = [] then []
        else [(typeVariables cs).map typeVariableLine]).map ofLines := by
  rw [typeVariableSection]
  cases typeVariables cs with
  | nil => rfl
  | cons name names =>
      rw [if_neg (List.cons_ne_nil name names), List.map_singleton, List.map_singleton,
        toList_unlines]
      rfl

/-- **The lines of a module**, section by section: header and imports, type variables if there are
any, the export list with the names of the functions, and the functions. -/
theorem toList_text (s : FileSettings) (cs : List Conversion) :
    (text s cs).toList =
      ofLines (["", ""].intercalate
        ([headerLines s ++ importLines s cs]
          ++ (if typeVariables cs = [] then [] else [(typeVariables cs).map typeVariableLine])
          ++ [["__all__ = ["] ++ (functions cs).map (fun f => exportLine f.name) ++ ["]"]]
          ++ (functions cs).map Function.lines)) := by
  have exported : (exportSection cs).toList =
      ofLines (["__all__ = ["] ++ (functions cs).map (fun f => exportLine f.name) ++ ["]"]) := by
    rw [exportSection, toList_unlines, exports, functions, List.map_map, List.map_map]
    rfl
  have defined : (cs.map fun c => (Function.ofConversion c).text).map String.toList =
      ((functions cs).map Function.lines).map ofLines := by
    rw [functions, List.map_map, List.map_map, List.map_map]
    exact List.map_congr_left fun c _ => Function.toList_text _
  rw [text, String.toList_intercalate, ofLines_intercalate]
  simp only [List.map_append, List.map_singleton, toList_header_append,
    map_toList_typeVariableSection, exported, defined]
  rfl

/-- **What a module declares is what it uses.**  For the conversions of any declarations:

1. The text of the module consists of the lines of its sections, the export list with the names of
   the functions that are defined below it, in their order.
2. The source of a conversion names the parameters of its target, and those are the type variables
   that are declared, each of them once and in the order of first declaration.
3. What declares type variables is imported exactly when there are any, and the report of a missing
   field exactly when some function raises it, unless the file was asked to import them anyway. -/
theorem declares_used {ds : List Declaration} {cs : List Conversion}
    (generated : (Report.ofDeclarations ds).conversions = cs) (s : FileSettings) :
    ((text s cs).toList =
      ofLines (["", ""].intercalate
        ([headerLines s ++ importLines s cs]
          ++ (if typeVariables cs = [] then [] else [(typeVariables cs).map typeVariableLine])
          ++ [["__all__ = ["] ++ (functions cs).map (fun f => exportLine f.name) ++ ["]"]]
          ++ (functions cs).map Function.lines)) ∧
      exports cs = (functions cs).map Function.name) ∧
    ((∀ c ∈ cs, ∀ name, name ∈ c.source.freeParams ↔ name ∈ c.target.params) ∧
      (typeVariables cs).Nodup ∧
      (∀ name, name ∈ typeVariables cs ↔ ∃ c ∈ cs, name ∈ c.source.freeParams) ∧
      (typeVariables cs).Pairwise fun a b =>
        (declaredParams cs).idxOf a < (declaredParams cs).idxOf b) ∧
    ((typingImport ∈ importLines s cs ↔ typeVariables cs ≠ [] ∨ typingImport ∈ s.imports) ∧
      (runtimeImport ∈ importLines s cs ↔
        (∃ f ∈ functions cs, f.Raises) ∨ runtimeImport ∈ s.imports)) := by
  have fits : ∀ c ∈ cs, ∀ name, name ∈ c.source.freeParams ↔ name ∈ c.target.params := by
    intro c member
    rw [← generated] at member
    obtain ⟨d, -, accepted⟩ := Report.mem_conversions_iff.mp member
    exact Declaration.mem_freeParams_iff_of_generate accepted
  have other : typingImport ≠ runtimeImport := by decide
  refine ⟨⟨toList_text s cs, by rw [exports, functions, List.map_map]; rfl⟩,
    ⟨fits, nodup_typeVariables cs, fun name => ?_, pairwise_idxOf_typeVariables cs⟩, ?_, ?_⟩
  · rw [mem_typeVariables_iff]
    exact exists_congr fun c => and_congr_right fun member => (fits c member name).symm
  · rw [mem_importLines_iff (by decide), needsTypeVariables_iff]
    simp [other]
  · rw [mem_importLines_iff (by decide), needsMissingField_iff]
    simp [other.symm]

/-- A target that shares a parameter with another one and declares it behind one of its own. -/
def pairTarget : Declaration where
  schema := { name := "Pair", params := ["U", "T"], fields := [{ name := "left", type := "U" }] }
  directive := some "from_type = 'lib.Triple[#T, int, #U]'"

/-- The conversion of `pairTarget`. -/
def pairConversion : Conversion :=
  ⟨pairTarget.schema, ⟨"lib.Triple", [.free "T", .bound "int", .free "U"]⟩,
    [⟨"left", "left", false, "U", none⟩]⟩

theorem declares_used_shared :
    (Report.ofDeclarations [pairTarget, Report.sourceless, Declaration.swapped]).conversions =
        [pairConversion, Declaration.swappedConversion] ∧
      typeVariables [pairConversion, Declaration.swappedConversion] = ["U", "T"] ∧
      (∀ name, name ∈ ["U", "T"] ↔
        ∃ c ∈ [pairConversion, Declaration.swappedConversion], name ∈ c.source.freeParams) ∧
      runtimeImport ∈ importLines {} [pairConversion, Declaration.swappedConversion] ∧
      ∃ f ∈ functions [pairConversion, Declaration.swappedConversion], f.Raises := by
  have generated : (Report.ofDeclarations
      [pairTarget, Report.sourceless, Declaration.swapped]).conversions =
        [pairConversion, Declaration.swappedConversion] := by decide +kernel
  have declared :
      typeVariables [pairConversion, Declaration.swappedConversion] = ["U", "T"] := by
    decide
  have imported : runtimeImport ∈
      importLines {} [pairConversion, Declaration.swappedConversion] := by decide
  obtain ⟨-, ⟨-, -, used, -⟩, -, raised⟩ := declares_used generated {}
  rw [declared] at used
  exact ⟨generated, declared, used, imported, (raised.mp imported).resolve_right nofun⟩

end FunctionModule

end Code

end Narrowing
