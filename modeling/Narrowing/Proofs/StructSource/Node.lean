import Mathlib.Logic.Relation
import Narrowing.Proofs.StructSource.Declarations

/-!
# What a syntax tree says

A parser is given to the program, so results about files are results about every syntax
tree.  This module says what the program takes from one.

A generic parameter is found by the kind of its node, and a node may wrap another one: a
default stands around a parameter with bounds, and bounds stand around a name.
`Node.Introduces` is that as a relation, one rule a kind, and `Node.param?_eq_some_iff`
says that the function and the relation agree.

What is relied on in the texts of a tree is `Node.Spelled`: lifetimes begin with a quote
and other names do not, and bounds begin with their colon.

## Main statements

* `Node.param?_eq_some_iff` — what an entry of a list of parameters introduces
* `Node.Introduces.spelled` — the texts of a parameter are of its kind
* `Node.exists_of_struct_mem_itemsAmong` — a struct among the items is a node of the tree
-/

namespace Narrowing.StructSource

open Reading (Span)

variable {source : Source}

namespace GenericParam

/-- The bare name of a parameter. -/
def bareName (source : Source) : GenericParam → String
  | .lifetime name _ | .type name _ | .const name _ => name.text source.text

/-- The bounds of a parameter with their colon. -/
def bounds : GenericParam → Option Span
  | .lifetime _ bounds | .type _ bounds => bounds
  | .const _ _ => none

/-- **The texts of a parameter are of their kinds**: exactly the names of lifetimes start with a quote,
and bounds start with their colon. -/
structure Spelled (source : Source) (p : GenericParam) : Prop where
  quoted : (p.bareName source).toList.head? = some '\'' ↔ p.isLifetime = true
  bounded : ∀ b ∈ p.bounds, (source.textOf b).head? = some ':'

end GenericParam

namespace Node

/-- Induction on a tree: what holds of a node if it holds of those directly below it holds of all. -/
theorem induction {P : Node → Prop} (step : ∀ n : Node, (∀ c ∈ n.children, P c) → P n) (n : Node) :
    P n :=
  step n fun c _member => induction step c
termination_by sizeOf n
decreasing_by
  have smaller := List.sizeOf_lt_of_mem _member
  cases n
  simp only [Node.mk.sizeOf_spec] at smaller ⊢
  omega

/-- A node is another one or stands below it. -/
abbrev Reaches : Node → Node → Prop := Relation.ReflTransGen fun n c => c ∈ n.children

/-- **What the grammar says of the texts of a node** among generic parameters. -/
structure Spelled (source : Source) (n : Node) : Prop where
  lifetime : n.kind = "lifetime" → (n.span.text source.text).toList.head? = some '\''
  identifier : n.kind ∈ ["type_identifier", "identifier"] →
    (n.span.text source.text).toList.head? ≠ some '\''
  constant : n.kind = "const_parameter" → ∀ name ∈ n.child? "name", name.kind = "identifier"
  bounds : n.field = some "bounds" → (source.textOf n.span).head? = some ':'

/-! ## Generic parameters -/

/-- The node that holds the name of a parameter which may have bounds. -/
def head? (n : Node) : Option Node := n.children.find? (isHead n.children)

/-- **What an entry of a list of parameters introduces**, one rule a kind. -/
inductive Introduces : Node → GenericParam → Prop
  | lifetime {n : Node} (kind : n.kind = "lifetime") : Introduces n (.lifetime n.span none)
  | type {n : Node} (kind : n.kind = "type_identifier") : Introduces n (.type n.span none)
  | const {n name type : Node} (kind : n.kind = "const_parameter") (named : n.child? "name" = some name)
      (typed : n.child? "type" = some type) : Introduces n (.const name.span type.span)
  /-- A default is left out. -/
  | optional {n inner : Node} {p : GenericParam} (kind : n.kind = "optional_type_parameter")
      (named : n.child? "name" = some inner) (introduces : Introduces inner p) : Introduces n p
  | bounded {n inner : Node} {p : GenericParam} (kind : n.kind ∈ boundedKinds)
      (named : n.head? = some inner) (introduces : Introduces inner p) :
      Introduces n (withBounds ((n.child? "bounds").map Node.span) p)

theorem paramWhere?_eq (condition : Node → Bool) (l : List Node) :
    paramWhere? condition l = (l.find? condition).bind param? := by
  induction l with
  | nil => rfl
  | cons n l ih =>
      rw [paramWhere?, List.find?_cons, ih]
      cases condition n <;> rfl

/-- One unrolling of `param?`. -/
theorem param?_eq (n : Node) :
    n.param? =
      if n.kind == "lifetime" then some (.lifetime n.span none)
      else if n.kind == "type_identifier" then some (.type n.span none)
      else if n.kind == "const_parameter" then
        (n.child? "name").bind fun name => (n.child? "type").map fun type =>
          .const name.span type.span
      else if n.kind == "optional_type_parameter" then (n.child? "name").bind param?
      else if n.kind ∈ boundedKinds then
        (n.head?.bind param?).map (withBounds ((n.child? "bounds").map Node.span))
      else none := by
  obtain ⟨kind, span, field, isNamed, isMissing, children⟩ := n
  rw [param?, paramWhere?_eq, paramWhere?_eq]
  simp only [child?, head?]
  congr 3
  cases children.find? fun c => c.field == some "name" with
  | none => rfl
  | some name => cases children.find? fun c => c.field == some "type" <;> rfl

theorem child?_mem {n c : Node} {field : String} (found : n.child? field = some c) :
    c ∈ n.children := List.mem_of_find?_eq_some found

theorem head?_mem {n c : Node} (found : n.head? = some c) : c ∈ n.children :=
  List.mem_of_find?_eq_some found

/-- **An entry introduces the parameter that is read from it**, and no other one. -/
theorem param?_eq_some_iff {n : Node} {p : GenericParam} : n.param? = some p ↔ Introduces n p := by
  constructor
  · intro read
    induction n using Node.induction generalizing p with
    | step n ih =>
        rw [param?_eq] at read
        split_ifs at read with lifetime type const optional bounded
        · cases read
          exact .lifetime (eq_of_beq lifetime)
        · cases read
          exact .type (eq_of_beq type)
        · obtain ⟨name, named, read⟩ := Option.bind_eq_some_iff.mp read
          obtain ⟨type, typed, rfl⟩ := Option.map_eq_some_iff.mp read
          exact .const (eq_of_beq const) named typed
        · obtain ⟨inner, named, read⟩ := Option.bind_eq_some_iff.mp read
          exact .optional (eq_of_beq optional) named (ih inner (child?_mem named) read)
        · obtain ⟨q, inside, rfl⟩ := Option.map_eq_some_iff.mp read
          obtain ⟨inner, named, inside⟩ := Option.bind_eq_some_iff.mp inside
          exact .bounded bounded named (ih inner (head?_mem named) inside)
  · intro introduces
    induction introduces with
    | lifetime kind => rw [param?_eq, kind]; rfl
    | type kind => rw [param?_eq, kind]; rfl
    | const kind named typed => rw [param?_eq, kind, named, typed]; rfl
    | optional kind named _ ih =>
        rw [param?_eq, kind, named]
        exact ih
    | bounded kind named _ ih =>
        rw [param?_eq, named, Option.bind_some, ih, Option.map_some, if_pos kind]
        rw [boundedKinds] at kind
        rcases List.mem_cons.mp kind with kind | kind
        · rw [kind]; rfl
        rcases List.mem_pair.mp kind with kind | kind <;> rw [kind] <;> rfl

/-- **The parameters that a list introduces**: those of its entries, in their order.  An entry that
introduces none is passed over. -/
inductive ListsParams : List Node → List GenericParam → Prop
  | nil : ListsParams [] []
  | entry {n : Node} {p : GenericParam} {rest : List Node} {ps : List GenericParam}
      (introduces : n.Introduces p) (others : ListsParams rest ps) : ListsParams (n :: rest) (p :: ps)
  | other {n : Node} {rest : List Node} {ps : List GenericParam} (none : ∀ p, ¬ n.Introduces p)
      (others : ListsParams rest ps) : ListsParams (n :: rest) ps

theorem listsParams_filterMap (entries : List Node) : ListsParams entries (entries.filterMap param?) := by
  induction entries with
  | nil => exact .nil
  | cons n rest ih =>
      cases read : n.param? with
      | none =>
          rw [List.filterMap_cons_none read]
          refine .other (fun p introduces => ?_) ih
          rw [param?_eq_some_iff.mpr introduces] at read
          cases read
      | some p =>
          rw [List.filterMap_cons_some read]
          exact .entry (param?_eq_some_iff.mp read) ih

/-! ## Texts -/

theorem bareName_withBounds (bounds : Option Span) (p : GenericParam) :
    (withBounds bounds p).bareName source = p.bareName source := by
  cases p <;> rfl

theorem isLifetime_withBounds (bounds : Option Span) (p : GenericParam) :
    (withBounds bounds p).isLifetime = p.isLifetime := by
  cases p <;> rfl

theorem bounds_withBounds (bounds : Option Span) (p : GenericParam) :
    (withBounds bounds p).bounds = bounds := by
  cases p <;> rfl

/-- **The texts of a parameter are of its kind**, if those of the nodes are that introduce it. -/
theorem Introduces.spelled {n : Node} {p : GenericParam} (introduces : n.Introduces p)
    (spelled : ∀ m, n.Reaches m → m.Spelled source) : p.Spelled source := by
  have below : ∀ {c m : Node}, c ∈ m.children → (∀ k, m.Reaches k → k.Spelled source) →
      ∀ k, c.Reaches k → k.Spelled source :=
    fun member spelled k reaches => spelled k (.head member reaches)
  induction introduces with
  | @lifetime n kind =>
      exact ⟨iff_of_true ((spelled n .refl).lifetime kind) rfl, by simp [GenericParam.bounds]⟩
  | @type n kind =>
      refine ⟨iff_of_false ((spelled n .refl).identifier ?_) Bool.false_ne_true,
        by simp [GenericParam.bounds]⟩
      rw [kind]
      exact List.mem_cons_self
  | @const n name type kind named typed =>
      have identifier := (spelled n .refl).constant kind name named
      refine ⟨iff_of_false ((spelled name (.single (child?_mem named))).identifier ?_)
        Bool.false_ne_true, by simp [GenericParam.bounds]⟩
      rw [identifier]
      exact List.mem_cons_of_mem _ List.mem_cons_self
  | optional kind named _ ih => exact ih (below (child?_mem named) spelled)
  | @bounded n inner p kind named _ ih =>
      have inside := ih (below (head?_mem named) spelled)
      refine ⟨?_, ?_⟩
      · rw [bareName_withBounds, isLifetime_withBounds]
        exact inside.quoted
      · rw [bounds_withBounds]
        intro b member
        obtain ⟨node, found, rfl⟩ := Option.map_eq_some_iff.mp member
        have inField := List.find?_some found
        exact (spelled node (.single (child?_mem found))).bounds (eq_of_beq inField)

/-! ## Items -/

/-- One unrolling of `items`. -/
theorem items_eq (n : Node) :
    n.items =
      if n.kind == "attribute_item" then (n.attribute?.map .attached).toList
      else if n.isComment then []
      else if n.kind == "struct_item" then [(n.structItem?.map .struct).getD .other]
      else if n.kind == "mod_item" then [((bodyItems? n.children).map .module).getD .other]
      else [.other] := by
  cases n
  rw [items]

/-- **A struct among the items is a node of the tree.** -/
theorem exists_of_struct_mem_itemsAmong {nodes : List Node} {s : StructItem}
    (member : .struct s ∈ itemsAmong nodes) :
    ∃ n ∈ nodes.filter isNamed, n.kind = "struct_item" ∧ n.structItem? = some s := by
  induction nodes with
  | nil => cases member
  | cons n rest ih =>
      rw [itemsAmong, List.mem_append] at member
      rcases member with here | there
      · cases named : n.isNamed with
        | false => rw [named] at here; cases here
        | true =>
            refine ⟨n, List.mem_filter.mpr ⟨List.mem_cons_self, named⟩, ?_⟩
            rw [if_pos named, items_eq] at here
            split_ifs at here with note comment struct module
            · cases noted : n.attribute? <;> simp [noted] at here
            · cases here
            · refine ⟨eq_of_beq struct, ?_⟩
              cases found : n.structItem? <;> simp [found] at here
              rw [here]
            · cases body : bodyItems? n.children <;> simp [body] at here
            · simp at here
      · obtain ⟨m, among, found⟩ := ih there
        rw [List.mem_filter] at among
        exact ⟨m, List.mem_filter.mpr ⟨List.mem_cons_of_mem n among.1, among.2⟩, found⟩

end Node

/-- **The texts of a tree are what the grammar says of them**: the generic parameters of the structs
of a file are spelled as their kinds say. -/
def Tree.Spelled (tree : Tree) (source : Source) : Prop :=
  ∀ n ∈ tree.root.namedChildren, ∀ e ∈ n.paramEntries, ∀ m, e.Reaches m → m.Spelled source

end Narrowing.StructSource
