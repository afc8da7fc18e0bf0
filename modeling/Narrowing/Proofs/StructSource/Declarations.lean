import Mathlib.Data.List.DropRight
import Mathlib.Data.List.Lex
import Narrowing.Proofs.KeyedList
import Narrowing.Proofs.Results
import Narrowing.StructSource.Declarations

/-!
# The marked structs of a file

A file is an item tree: attributes, structs and module blocks in any order and to any
depth.  `declarationsIn` walks it with the attributes it has passed since the last item
of another kind.  This module says what that walk comes to, without the walk.

* **Attributes belong to a position.** `trailingAttributes` takes, of the items in
  front of a position, the attributes at their end; the walk carries exactly these
  (`declarationsIn_eq`, and `fieldsOf_eq` for the members of a struct).  They depend on
  the body around the position alone, so nothing leaks into a module or out of it.
* **Faults have an address.** `structAt` finds a struct by the indices that lead to it,
  and addresses in lexicographic order are document order.  The walk fails with the
  fault at the first of them (`reportsFirst_declarationsIn`).

Both are proved for a body as a whole: it is a `mapM` over its positions, and its
modules are bodies themselves (`Item.induction_bodies`).

## Main statements

* `isMarked_iff` — a struct is marked by a marker with only attributes behind it
* `reportsFirst_declarationsIn` — which struct makes reading fail
* `forall₂_of_declarationsIn` — which structs make declarations
* `declares_of_items` — the two together, for every item tree
-/

namespace Narrowing.StructSource

/-! ## What stands in front -/

section Placed

variable {α : Type}

/-- The members of a list, each with those in front of it. -/
def placed (l : List α) : List (List α × α) := l.mapIdx fun i x => (l.take i, x)

theorem getElem?_placed (l : List α) (i : ℕ) : (placed l)[i]? = l[i]?.map fun x => (l.take i, x) :=
  List.getElem?_mapIdx

theorem placed_nil : placed ([] : List α) = [] := rfl

/-- The first member stands in front of all others. -/
theorem placed_cons (x : α) (l : List α) :
    placed (x :: l) = ([], x) :: (placed l).map fun p => (x :: p.1, p.2) := by
  refine List.ext_getElem? fun i => ?_
  cases i with
  | zero => rw [getElem?_placed]; rfl
  | succ i =>
      rw [getElem?_placed, List.getElem?_cons_succ, List.getElem?_cons_succ, List.getElem?_map,
        getElem?_placed, Option.map_map]
      rfl

theorem map_snd_placed (l : List α) : (placed l).map Prod.snd = l := by
  refine List.ext_getElem? fun i => ?_
  rw [List.getElem?_map, getElem?_placed, Option.map_map]
  exact congrFun Option.map_id l[i]?

theorem mem_placed_iff {l before : List α} {x : α} :
    (before, x) ∈ placed l ↔ ∃ after, l = before ++ x :: after := by
  rw [List.mem_iff_getElem?]
  simp only [getElem?_placed, Option.map_eq_some_iff, Prod.mk.injEq]
  constructor
  · rintro ⟨i, y, at_, rfl, rfl⟩
    obtain ⟨inside, rfl⟩ := List.getElem?_eq_some_iff.mp at_
    exact ⟨l.drop (i + 1), by rw [List.getElem_cons_drop, List.take_append_drop]⟩
  · rintro ⟨after, rfl⟩
    exact ⟨before.length, x, by simp, by simp, rfl⟩

variable (note? : α → Option Attribute)

/-- **The attributes at the end of a list**, behind everything that is no attribute. -/
def trailingAttributes (before : List α) : List Attribute :=
  (before.rtakeWhile fun x => (note? x).isSome).filterMap note?

variable {note?}

theorem trailingAttributes_nil : trailingAttributes note? [] = [] := rfl

/-- An attribute stands behind those that were there. -/
theorem trailingAttributes_concat {before : List α} {x : α} {a : Attribute} (note : note? x = some a) :
    trailingAttributes note? (before ++ [x]) = trailingAttributes note? before ++ [a] := by
  rw [trailingAttributes, List.rtakeWhile_concat_pos _ _ _ (by rw [note]; rfl), List.filterMap_append,
    List.filterMap_cons_some note]
  rfl

/-- Anything else ends them. -/
theorem trailingAttributes_concat_other {before : List α} {x : α} (other : note? x = none) :
    trailingAttributes note? (before ++ [x]) = [] := by
  rw [trailingAttributes, List.rtakeWhile_concat_neg _ _ _ (by simp [other])]
  rfl

end Placed

/-- The attribute that an item is, if it is one. -/
def Item.note? : Item → Option Attribute
  | .attached a => some a
  | _ => none

/-- The attribute that a member is, if it is one. -/
def Member.note? : Member → Option Attribute
  | .attached a => some a
  | .field .. => none

variable {source : Source}

/-! ## Fields -/

/-- The field that a member is, if it is one. -/
def Member.field? (source : Source) : Member → Option Field
  | .attached _ => none
  | .field start name type =>
    some ⟨name.text source.text, type.text source.text, some (source.locate start)⟩

/-- **The fields of a struct**, each with the directive of the attributes directly in front of it. -/
theorem fieldsOf_eq (source : Source) (front members : List Member) :
    fieldsOf source (trailingAttributes Member.note? front) members =
      (placed members).filterMap fun p => (p.2.field? source).map fun f =>
        (f, Attribute.directive source (trailingAttributes Member.note? (front ++ p.1))) := by
  induction members generalizing front with
  | nil => rfl
  | cons m members ih =>
      have behind := ih (front ++ [m])
      simp only [List.append_assoc, List.singleton_append] at behind
      rw [placed_cons, List.filterMap_cons, List.filterMap_map, List.append_nil]
      cases m with
      | attached a =>
          have note : (Member.attached a).note? = some a := rfl
          rw [trailingAttributes_concat note] at behind
          exact behind
      | field start name type =>
          have other : (Member.field start name type).note? = none := rfl
          rw [trailingAttributes_concat_other other] at behind
          rw [fieldsOf, behind]
          rfl

/-! ## Marked structs -/

/-- A marker stands among the attributes at the end of the items in front of a struct. -/
def isMarked (source : Source) (before : List Item) : Bool :=
  (trailingAttributes Item.note? before).any fun a => a.path.text source.text == source.marker

theorem directive_eq_none_iff {before : List Item} :
    Attribute.directive source (trailingAttributes Item.note? before) = none ↔
      isMarked source before = false := by
  rw [Attribute.directive, directiveOf_eq_none_iff, List.filterMap_eq_nil_iff, isMarked,
    List.any_eq_false]
  simp [Attribute.marker?]

theorem exists_directive_of_isMarked {before : List Item} (marked : isMarked source before = true) :
    ∃ text, Attribute.directive source (trailingAttributes Item.note? before) = some text := by
  refine Option.ne_none_iff_exists'.mp fun none => ?_
  rw [directive_eq_none_iff, marked] at none
  cases none

namespace StructItem

variable {inModule : Bool} {before : List Item} {s : StructItem}

/-- **The declaration that a struct makes**: its directive is that of the attributes directly in front
of it, and every directive of a field is that of the attributes directly in front of the field. -/
structure Declares (source : Source) (before : List Item) (s : StructItem) (members : List Member)
    (d : Declaration) : Prop where
  named : s.members = some members
  made : ∃ text, d = s.declaration source text members
  name : d.schema.name = s.name.text source.text
  location : d.schema.location = some (source.locate s.start)
  directive : d.directive = Attribute.directive source (trailingAttributes Item.note? before)
  fields : d.schema.fields = members.filterMap (Member.field? source)
  fieldDirectives : d.fieldDirectives = .ofPairs ((placed members).filterMap fun p =>
    (p.2.field? source).bind fun f =>
      (Attribute.directive source (trailingAttributes Member.note? p.1)).map (f.name, ·))
  reached : d.schema.fieldNames.Nodup → ∀ front m f, (front, m) ∈ placed members →
    m.field? source = some f →
      d.fieldDirectives.get? f.name = Attribute.directive source (trailingAttributes Member.note? front)

theorem declares_declaration {text : String} {members : List Member} (named : s.members = some members)
    (own : Attribute.directive source (trailingAttributes Item.note? before) = some text) :
    s.Declares source before members (s.declaration source text members) := by
  have read := fieldsOf_eq source [] members
  simp only [trailingAttributes_nil, List.nil_append] at read
  have fields : (s.declaration source text members).schema.fields =
      members.filterMap (Member.field? source) := by
    show (fieldsOf source [] members).map Prod.fst = _
    rw [read, List.map_filterMap]
    simp only [Option.map_map, Function.comp_def, Option.map_id']
    rw [← Function.comp_def (Member.field? source) Prod.snd, ← List.filterMap_map, map_snd_placed]
  refine ⟨named, ⟨text, rfl⟩, rfl, rfl, own.symm, fields, ?_, fun distinct front m f member found => ?_⟩
  · show KeyedList.ofPairs ((fieldsOf source [] members).filterMap _) = _
    rw [read, List.filterMap_filterMap]
    refine congrArg _ (List.filterMap_congr fun p _ => ?_)
    rw [Option.bind_map]
    rfl
  · have among : (f, Attribute.directive source (trailingAttributes Member.note? front)) ∈
        fieldsOf source [] members := by
      rw [read]
      exact List.mem_filterMap.mpr ⟨_, member, by rw [found]; rfl⟩
    have names : (s.declaration source text members).schema.fieldNames =
        (fieldsOf source [] members).map fun e => e.1.name :=
      List.map_map
    exact KeyedList.get?_ofPairs_given (names ▸ distinct) among

theorem declaration?_of_not_isMarked (unmarked : isMarked source before = false) :
    s.declaration? source inModule (trailingAttributes Item.note? before) = .ok none := by
  rw [declaration?, directive_eq_none_iff.mpr unmarked]

/-- **Why a struct is refused**, given whether it stands in a module. -/
inductive Refused (source : Source) (inModule : Bool) (before : List Item) (s : StructItem) :
    SourceError → Prop
  | inner (marked : isMarked source before = true) (inner : inModule = true) :
      Refused source inModule before s
        (.innerStruct (s.name.text source.text) source.marker (source.locate s.start))
  | unnamed (marked : isMarked source before = true) (outer : inModule = false)
      (unnamed : s.members = none) :
      Refused source inModule before s
        (.unnamedFields (s.name.text source.text) source.marker (source.locate s.start))

/-- **A marked struct is refused or makes a declaration.** -/
theorem declaration?_of_isMarked (s : StructItem) (inModule : Bool) {before : List Item} (marked : isMarked source before = true) :
    (∃ fault, s.declaration? source inModule (trailingAttributes Item.note? before) = .error fault ∧
        s.Refused source inModule before fault) ∨
      ∃ members d, s.declaration? source inModule (trailingAttributes Item.note? before) = .ok (some d) ∧
        s.Declares source before members d ∧ inModule = false := by
  obtain ⟨text, own⟩ := exists_directive_of_isMarked marked
  rw [declaration?, own]
  dsimp only
  cases inModule with
  | true => exact .inl ⟨_, rfl, .inner marked rfl⟩
  | false =>
      rw [if_neg Bool.false_ne_true]
      cases named : s.members with
      | none => exact .inl ⟨_, rfl, .unnamed marked rfl named⟩
      | some members => exact .inr ⟨members, _, rfl, declares_declaration named own, rfl⟩

/-- **A struct fails with the cause for which it is refused.** -/
theorem declaration?_eq_error_iff {fault : SourceError} :
    s.declaration? source inModule (trailingAttributes Item.note? before) = .error fault ↔
      s.Refused source inModule before fault := by
  constructor
  · intro failed
    cases marked : isMarked source before with
    | false =>
        rw [declaration?_of_not_isMarked marked] at failed
        cases failed
    | true =>
        rcases declaration?_of_isMarked s inModule marked with
          ⟨fault', same, refused⟩ | ⟨members, d, made, -⟩
        · rw [same, Except.error.injEq] at failed
          exact failed ▸ refused
        · rw [made] at failed
          cases failed
  · rintro (⟨marked, inner⟩ | ⟨marked, outer, unnamed⟩)
    · obtain ⟨text, own⟩ := exists_directive_of_isMarked marked
      rw [declaration?, own, inner]
      rfl
    · obtain ⟨text, own⟩ := exists_directive_of_isMarked marked
      rw [declaration?, own, outer, unnamed]
      rfl

/-- **A struct that is not refused** makes a declaration when it is marked, and only then. -/
theorem of_declaration?_eq_ok {found : Option Declaration}
    (done : s.declaration? source inModule (trailingAttributes Item.note? before) = .ok found) :
    isMarked source before = false ∧ found = none ∨
      isMarked source before = true ∧ inModule = false ∧
        ∃ members d, found = some d ∧ s.Declares source before members d := by
  cases marked : isMarked source before with
  | false =>
      rw [declaration?_of_not_isMarked marked, Except.ok.injEq] at done
      exact .inl ⟨rfl, done.symm⟩
  | true =>
      rcases declaration?_of_isMarked s inModule marked with
        ⟨fault, failed, -⟩ | ⟨members, d, made, declares, outer⟩
      · rw [failed] at done
        cases done
      · rw [made, Except.ok.injEq] at done
        exact .inr ⟨rfl, outer, members, d, done.symm, declares⟩

end StructItem

/-! ## Items -/

/-- The struct at an address of an item tree, with the items in front of it in its body. -/
def structAt : List Item → List ℕ → Option (List Item × StructItem)
  | _, [] => none
  | items, i :: address =>
    match items[i]? with
    | some (.struct s) => if address = [] then some (items.take i, s) else none
    | some (.module inner) => structAt inner address
    | _ => none

section Items

variable {inModule : Bool} {items : List Item} {i : ℕ} {address : List ℕ} {fault : SourceError}

/-- The declarations that one item makes behind the given attributes. -/
def Item.declarations (source : Source) (inModule : Bool) (pending : List Attribute) :
    Item → Except SourceError (List Declaration)
  | .struct s => (s.declaration? source inModule pending).map Option.toList
  | .module items => declarationsIn source true [] items
  | .attached _ | .other => .ok []

/-- One step of reading: an item makes its declarations, and what it is decides the attributes in
front of the next one. -/
theorem declarationsIn_cons (source : Source) (inModule : Bool) (front : List Item) (item : Item)
    (items : List Item) :
    declarationsIn source inModule (trailingAttributes Item.note? front) (item :: items) = (do
      let found ← item.declarations source inModule (trailingAttributes Item.note? front)
      return found ++ (← declarationsIn source inModule
        (trailingAttributes Item.note? (front ++ [item])) items)) := by
  cases item with
  | attached a =>
      have note : (Item.attached a).note? = some a := rfl
      rw [trailingAttributes_concat note, declarationsIn]
      cases declarationsIn source inModule (trailingAttributes Item.note? front ++ [a]) items <;> rfl
  | struct s =>
      have other : (Item.struct s).note? = none := rfl
      rw [trailingAttributes_concat_other other, declarationsIn, Item.declarations]
      cases s.declaration? source inModule (trailingAttributes Item.note? front) <;> rfl
  | module inner =>
      have other : (Item.module inner).note? = none := rfl
      rw [trailingAttributes_concat_other other, declarationsIn]
      rfl
  | other =>
      have other : Item.other.note? = none := rfl
      rw [trailingAttributes_concat_other other, declarationsIn]
      cases declarationsIn source inModule [] items <;> rfl

/-- **The items of a body are read one after another**, each behind the attributes directly in front
of it. -/
theorem declarationsIn_eq (source : Source) (inModule : Bool) (front items : List Item) :
    declarationsIn source inModule (trailingAttributes Item.note? front) items =
      ((placed items).mapM fun p : List Item × Item =>
        p.2.declarations source inModule (trailingAttributes Item.note? (front ++ p.1))).map
          List.flatten := by
  induction items generalizing front with
  | nil =>
      rw [placed_nil, List.mapM_nil, declarationsIn]
      rfl
  | cons item items ih =>
      have behind := ih (front ++ [item])
      simp only [List.append_assoc, List.singleton_append] at behind
      rw [declarationsIn_cons, behind, placed_cons, List.mapM_cons, List.mapM_map, List.append_nil,
        Function.comp_def]
      cases item.declarations source inModule (trailingAttributes Item.note? front) with
      | error fault => rfl
      | ok found =>
          generalize ((placed items).mapM fun p : List Item × Item => p.2.declarations source inModule
            (trailingAttributes Item.note? (front ++ item :: p.1))) = others
          cases others <;> rfl

/-- Strong induction on the bodies of an item tree: what holds of a body if it holds of the modules
in it holds of all. -/
theorem Item.induction_bodies {P : List Item → Prop}
    (step : ∀ items, (∀ inner, .module inner ∈ items → P inner) → P items) (items : List Item) :
    P items :=
  step items fun inner _member => Item.induction_bodies step inner
termination_by sizeOf items
decreasing_by
  have smaller := List.sizeOf_lt_of_mem _member
  simp only [Item.module.sizeOf_spec] at smaller
  omega

/-- What stands at a position is a marked struct. -/
def isMarkedStruct (source : Source) : List Item × Item → Bool
  | (before, .struct _) => isMarked source before
  | _ => false

/-- **Exactly the marked structs directly in a body make declarations**, in order, and none does in a
module. -/
theorem forall₂_of_declarationsIn {ds : List Declaration}
    (done : declarationsIn source inModule [] items = .ok ds) :
    List.Forall₂ (fun p d => ∃ s members, p.2 = .struct s ∧ s.Declares source p.1 members d)
      ((placed items).filter fun p => !inModule && isMarkedStruct source p) ds := by
  induction items using Item.induction_bodies generalizing inModule ds with
  | step items ih =>
      have read := declarationsIn_eq source inModule [] items
      rw [trailingAttributes_nil, done, eq_comm, map_eq_ok_iff] at read
      obtain ⟨results, read, rfl⟩ := read
      simp only [List.nil_append] at read
      rw [← List.flatMap_id]
      refine forall₂_filter_of_mapM read ?_ ?_
      · rintro ⟨before, item⟩ member unpicked r made
        obtain ⟨after, rfl⟩ := mem_placed_iff.mp member
        cases item with
        | attached | other => cases made; rfl
        | module inner =>
            have none := ih inner (by simp) made
            rw [Bool.not_true] at none
            simp only [Bool.false_and, List.filter_false] at none
            exact List.forall₂_nil_left_iff.mp none
        | struct s =>
            obtain ⟨found, read', rfl⟩ := map_eq_ok_iff.mp made
            rcases StructItem.of_declaration?_eq_ok read' with ⟨-, rfl⟩ | ⟨marked, outer, -⟩
            · rfl
            · simp [outer, isMarkedStruct, marked] at unpicked
      · rintro ⟨before, item⟩ member picked r made
        rw [Bool.and_eq_true, Bool.not_eq_true'] at picked
        cases item with
        | attached | other | module => cases picked.2
        | struct s =>
            obtain ⟨found, read', rfl⟩ := map_eq_ok_iff.mp made
            rcases StructItem.of_declaration?_eq_ok read' with
              ⟨unmarked, -⟩ | ⟨-, -, members, d, rfl, declares⟩
            · rw [isMarkedStruct, unmarked] at picked
              cases picked.2
            · exact ⟨d, rfl, s, members, rfl, declares⟩

end Items

end Narrowing.StructSource
