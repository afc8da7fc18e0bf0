import Mathlib.Data.List.Forall2
import Narrowing.Proofs.Generics
import Narrowing.Proofs.StructSource.PlainParser

/-!
# Generic parameters of a struct

A parameter is carried through three forms: the tree of a file has its kind and its
spans, a schema has its name, once as a lifetime or a parameter and once beside its
declaration text, and an impl has the texts and the names.  The kind is written down
nowhere in a schema; an impl finds it again by looking for the quote in front of a name.

`GenericParam.Spelled` is what is relied on in the texts: that look and the kind agree,
and bounds begin with their colon.  It comes from the grammar (`Node.Introduces.spelled`),
and with it the forms stay aligned for every list of parameters
(`StructItem.keepsGenerics_declaration`).

One text is not what was written.  The colon in front of bounds is taken off together
with all colons that touch it, so a path that begins with `::` directly behind it loses
them (`GenericParam.text_decl_iff`).  That this is a loss, and no other spelling of the
same text, is seen by counting: joining words by single spaces keeps every visible
character (`Text.visible_joinWords`).

## Main statements

* `GenericParam.text_decl_iff` — when the declared text is the written one
* `generics_of_declarations` — from the headers of a file to the headers of the impls
-/

namespace Narrowing

/-! ## Visible characters -/

namespace Text

/-- The characters of a text that are not blank. -/
def visible (s : List Char) : List Char := s.filter fun c => !isBlank c

theorem visible_append (s t : List Char) : visible (s ++ t) = visible s ++ visible t :=
  List.filter_append ..

theorem visible_cons_of_shown {c : Char} (shown : isBlank c = false) (s : List Char) :
    visible (c :: s) = c :: visible s :=
  List.filter_cons_of_pos (by simp [shown])

theorem visible_cons_of_blank {c : Char} (blank : isBlank c = true) (s : List Char) :
    visible (c :: s) = visible s :=
  List.filter_cons_of_neg (by simp [blank])

/-- The words of a text hold its visible characters. -/
theorem flatten_words (s : List Char) : (words s).flatten = visible s := by
  fun_induction words s with
  | case1 => rfl
  | case2 c blank => rw [visible_cons_of_blank blank]; rfl
  | case3 c shown => rw [visible_cons_of_shown (by simpa using shown)]; rfl
  | case4 c d r blank ih => rw [visible_cons_of_blank blank, ih]
  | case5 c d r shown _ ih =>
      rw [visible_cons_of_shown (by simpa using shown), ← ih]
      rfl
  | case6 c d r shown _ none ih =>
      rw [visible_cons_of_shown (by simpa using shown), ← ih, none]
      rfl
  | case7 c d r shown _ w ws found ih =>
      rw [visible_cons_of_shown (by simpa using shown), ← ih, found]
      rfl

/-- A space between two words is not visible. -/
theorem visible_intercalate (ws : List (List Char)) :
    visible ([' '].intercalate ws) = visible ws.flatten := by
  match ws with
  | [] | [_] => simp [List.intercalate]
  | w :: w' :: ws =>
      have behind := visible_intercalate (w' :: ws)
      have space : visible [' '] = [] := rfl
      rw [List.intercalate_cons_cons, visible_append, visible_append, behind, space, List.append_nil,
        ← visible_append]
      rfl

/-- **A text keeps its visible characters** when its words are joined by single spaces. -/
theorem visible_joinWords (s : List Char) : visible (joinWords s) = visible s := by
  rw [joinWords, visible_intercalate, flatten_words, visible, visible, List.filter_filter]
  simp only [Bool.and_self]

end Text

namespace StructSource

open Reading Reading.Cursor Reading.Reader
open Text (joinWords slice visible isWordStart)

variable {source : Source}

namespace GenericParam

/-! ## What a header says of a parameter -/

/-- **What a header says of a parameter**: its name and its bounds, with single spaces and without
comments, or the type of a constant as it is written. -/
def writtenText (source : Source) : GenericParam → String
  | .lifetime name none | .type name none => name.text source.text
  | .lifetime name (some bounds) | .type name (some bounds) =>
    name.text source.text ++ ": " ++ String.ofList (joinWords ((source.textOf bounds).drop 1))
  | .const name written => "const " ++ name.text source.text ++ ": " ++ written.text source.text

/-- Another colon stands directly behind the colon of the bounds. -/
def doublesColon (source : Source) (p : GenericParam) : Bool :=
  p.bounds.any fun b => (source.textOf b)[1]? == some ':'

theorem name_decl (p : GenericParam) : (p.decl source).name = p.bareName source := by
  cases p <;> rfl

theorem isLifetime_decl {p : GenericParam} (spelled : p.Spelled source) :
    (p.decl source).isLifetime = p.isLifetime := by
  rw [ParamDecl.isLifetime, name_decl, Bool.eq_iff_iff, decide_eq_true_eq]
  exact spelled.quoted

/-- **A text loses something with its leading colons**, if it has any. -/
theorem joinWords_dropWhile_eq_iff (s : List Char) :
    joinWords (s.dropWhile (· == ':')) = joinWords s ↔ (s.head? == some ':') = false := by
  cases s with
  | nil => exact iff_of_true rfl rfl
  | cons c r =>
      by_cases colon : c = ':'
      · subst colon
        refine iff_of_false (fun same => ?_) (by simp)
        -- The colon is visible, and a text keeps its visible characters.
        have shown : Text.isBlank ':' = false := by decide
        have counted := congrArg (fun t => (visible t).length) same
        simp only [Text.visible_joinWords, Text.visible_cons_of_shown shown,
          List.length_cons] at counted
        rw [List.dropWhile_cons_of_pos rfl] at counted
        have fewer : (visible (r.dropWhile (· == ':'))).length ≤ (visible r).length :=
          ((List.dropWhile_sublist _).filter _).length_le
        omega
      · refine iff_of_true ?_ (by simpa using colon)
        rw [List.dropWhile_cons_of_neg (by simpa using colon)]

/-- **What is declared is what is written**, unless another colon stands directly behind the first. -/
theorem text_decl_iff {p : GenericParam} (spelled : p.Spelled source) :
    (p.decl source).text = p.writtenText source ↔ p.doublesColon source = false := by
  have bounded : ∀ (name : String) (b : Span), (source.textOf b).head? = some ':' →
      (name ++ boundsText source (some b) =
          name ++ ": " ++ String.ofList (joinWords ((source.textOf b).drop 1)) ↔
        ((source.textOf b)[1]? == some ':') = false) := by
    intro name b starts
    obtain ⟨rest, starts⟩ := List.head?_eq_some_iff.mp starts
    show name ++ (": " ++ String.ofList (joinWords ((source.textOf b).dropWhile (· == ':')))) = _ ↔ _
    rw [starts, ← String.append_assoc, String.append_right_inj, String.ofList_inj,
      List.dropWhile_cons_of_pos rfl, List.drop_one, List.tail_cons, List.getElem?_cons_succ,
      ← List.head?_eq_getElem?]
    exact joinWords_dropWhile_eq_iff rest
  obtain ⟨-, starts⟩ := spelled
  cases p with
  | const name written => exact ⟨fun _ => rfl, fun _ => rfl⟩
  | lifetime name b | type name b =>
      cases b with
      | none => exact iff_of_true String.append_empty rfl
      | some b => exact bounded _ b (starts b rfl)

end GenericParam

/-! ## From the header of a struct to the header of an impl -/

/-- A struct declares its parameters as they stand in its header. -/
theorem declaredGenerics_declaration (s : StructItem) (directive : String) (members : List Member) :
    (s.declaration source directive members).schema.declaredGenerics =
      s.params.map (GenericParam.decl source) := by
  rw [Schema.declaredGenerics]
  split
  · next bare =>
      have none : s.params = [] := by
        simpa [StructItem.declaration] using bare
      simp [StructItem.declaration, none]
  · rfl

/-- The parameters that are picked out among the declared ones. -/
theorem map_text_filter_decl {params : List GenericParam} (spelled : ∀ p ∈ params, p.Spelled source)
    (pick : Bool → Bool) :
    ((params.map (GenericParam.decl source)).filter fun d => pick d.isLifetime).map ParamDecl.text =
      (params.filter fun p => pick p.isLifetime).map fun p => (p.decl source).text := by
  rw [List.filter_map, List.map_map]
  refine congrArg _ (List.filter_congr fun p member => ?_)
  rw [Function.comp_apply, GenericParam.isLifetime_decl (spelled p member)]

/-- **A declaration keeps the parameters of a struct**: their kinds, their names, their order and what
the header says of them, and an impl that is generated from it has them all in turn.  Only colons that
touch the colon of bounds are lost. -/
structure StructItem.KeepsGenerics (source : Source) (s : StructItem) (d : Declaration) : Prop where
  lifetimes : d.schema.lifetimes =
    (s.params.filter GenericParam.isLifetime).map (GenericParam.bareName source)
  params : d.schema.params =
    (s.params.filter fun p => !p.isLifetime).map (GenericParam.bareName source)
  decls : List.Forall₂ (fun p decl => decl.name = p.bareName source ∧
      (decl.text = p.writtenText source ↔ p.doublesColon source = false))
    s.params d.schema.paramDecls
  declared : ∀ c, d.generate = .ok c → (Code.Impl.ofConversion c).generics.declared =
    (s.params.filter GenericParam.isLifetime).map (fun p => (p.decl source).text) ++
      Code.extraLifetimes c ++
      (s.params.filter fun p => !p.isLifetime).map (fun p => (p.decl source).text)
  applied : ∀ c, d.generate = .ok c →
    (Code.Impl.ofConversion c).generics.applied = s.params.map (GenericParam.bareName source)

/-- **The declaration that a struct makes keeps its parameters.** -/
theorem StructItem.keepsGenerics_declaration {s : StructItem}
    (spelled : ∀ p ∈ s.params, p.Spelled source) (directive : String) (members : List Member) :
    s.KeepsGenerics source (s.declaration source directive members) := by
  have names : ∀ params : List GenericParam, (params.map fun p => (p.decl source).name) =
      params.map (GenericParam.bareName source) :=
    fun params => List.map_congr_left fun p _ => p.name_decl
  refine ⟨names _, names _, ?_, fun c made => ?_, fun c made => ?_⟩
  · show List.Forall₂ _ s.params (s.params.map (GenericParam.decl source))
    rw [List.forall₂_map_right_iff, List.forall₂_same]
    exact fun p member => ⟨p.name_decl, GenericParam.text_decl_iff (spelled p member)⟩
  · obtain ⟨written, reference, options, -, rfl⟩ := Declaration.generate_eq_ok_iff.mp made
    have lifetimes := map_text_filter_decl spelled id
    have others := map_text_filter_decl spelled not
    simp only [id_eq] at lifetimes
    simp only [Code.Impl.ofConversion, Code.ImplGenerics.ofConversion, declaredGenerics_declaration]
    rw [lifetimes, others]
  · obtain ⟨written, reference, options, -, rfl⟩ := Declaration.generate_eq_ok_iff.mp made
    simp only [Code.Impl.ofConversion, Code.ImplGenerics.ofConversion, declaredGenerics_declaration]
    rw [List.map_map]
    exact names s.params

/-- **Generic parameters survive from the headers of a file to the headers of its impls.**  Each marked
struct directly in a file is a node of its tree, and it has the parameters that the entries of its
list introduce, in their order; the declaration that it makes keeps them. -/
theorem generics_of_declarations {parse : Parser} {path : Option String} {marker text : String}
    {ds : List Declaration} (done : declarations parse path marker text = .ok ds)
    (spelled : (parse text).Spelled ((parse text).source path marker text)) :
    List.Forall₂ (fun p d => ∃ n s, n ∈ (parse text).root.namedChildren ∧ n.kind = "struct_item" ∧
        n.structItem? = some s ∧ p.2 = .struct s ∧ Node.ListsParams n.paramEntries s.params ∧
        s.KeepsGenerics ((parse text).source path marker text) d)
      ((placed (parse text).items).filter
        (isMarkedStruct ((parse text).source path marker text))) ds := by
  rw [declarations] at done
  generalize parse text = tree at done spelled ⊢
  split at done
  · cases done
  have declares := forall₂_of_declarationsIn done
  simp only [Bool.not_false, Bool.true_and] at declares
  have each : ∀ p ∈ (placed tree.items).filter (isMarkedStruct (tree.source path marker text)),
      ∀ s, p.2 = .struct s → ∃ n ∈ tree.root.namedChildren, n.kind = "struct_item" ∧
        n.structItem? = some s := by
    rintro ⟨before, item⟩ member s rfl
    obtain ⟨after, whole⟩ := mem_placed_iff.mp (List.mem_filter.mp member).1
    have listed : Item.struct s ∈ tree.items := by simp [whole]
    exact Node.exists_of_struct_mem_itemsAmong listed
  refine ((List.forall₂_and_left _ _).mpr ⟨each, declares⟩).imp ?_
  rintro ⟨before, item⟩ d ⟨found, s, members, rfl, declares⟩
  obtain ⟨directive, rfl⟩ := declares.made
  obtain ⟨n, among, kind, read⟩ := found s rfl
  have params : s.params = n.paramEntries.filterMap Node.param? := by
    obtain ⟨name, -, made⟩ := Option.bind_eq_some_iff.mp read
    cases made
    rfl
  refine ⟨n, s, among, kind, read, rfl, params ▸ Node.listsParams_filterMap _,
    s.keepsGenerics_declaration (fun p listed => ?_) directive members⟩
  rw [params] at listed
  obtain ⟨e, entry, introduced⟩ := List.mem_filterMap.mp listed
  exact (Node.param?_eq_some_iff.mp introduced).spelled (spelled n among e entry)

/-- The declarations of a file, item by item. -/
theorem declarations_eq (parse : Parser) (path : Option String) (marker text : String) :
    declarations parse path marker text =
      if (parse text).hasError then
        .error (.malformedFile (((parse text).source path marker text).locate (parse text).errorStart))
      else ((placed (parse text).items).mapM fun p : List Item × Item =>
        p.2.declarations ((parse text).source path marker text) false
          (trailingAttributes Item.note? p.1)).map List.flatten := by
  rw [declarations]
  split
  · rfl
  · exact declarationsIn_eq _ false [] _

/-- A header with a lifetime, a type with bounds, a comment and a default, and a constant with a
default. -/
def mixedText : String :=
  "#[fromsuper(from_type = \"Bar<&'b u8, #N, #T>\")]\n" ++
    "struct Foo<'a, T: /* c */ Clone  + 'a = u8, const N: usize = 3> \x7b x: &'a [T; N] \x7d"

/-- What `mixedText` declares. -/
def mixedDeclaration : Declaration where
  schema :=
    { name := "Foo", params := ["T", "N"], lifetimes := ["'a"]
      fields := [{ name := "x", type := "&'a [T; N]", location := some ⟨none, 2, 67⟩ }]
      location := some ⟨none, 2, 1⟩
      paramDecls := [⟨"'a", "'a"⟩, ⟨"T", "T: Clone + 'a"⟩, ⟨"N", "const N: usize"⟩] }
  directive := some "from_type = \"Bar<&'b u8, #N, #T>\""

theorem generics_of_mixedText :
    let source := (plainParser mixedText).source none "fromsuper" mixedText
    declarations plainParser none "fromsuper" mixedText = .ok [mixedDeclaration] ∧
      (plainParser mixedText).Spelled source ∧
      (mixedDeclaration.generate.map fun c => (Code.Impl.ofConversion c).generics) =
        .ok ⟨["'a", "'b", "T: Clone + 'a", "const N: usize"], ["'a", "T", "N"]⟩ ∧
      ∃ n s, n ∈ (plainParser mixedText).root.namedChildren ∧ n.structItem? = some s ∧
        Node.ListsParams n.paramEntries s.params ∧ s.KeepsGenerics source mixedDeclaration := by
  have made : declarations plainParser none "fromsuper" mixedText = .ok [mixedDeclaration] := by
    rw [declarations_eq]
    decide +kernel
  have spelled := spelled_plainParser none "fromsuper" mixedText
  obtain ⟨p, ps, ⟨n, s, among, -, read, -, lists, keeps⟩, -, -⟩ :=
    List.forall₂_cons_right_iff.mp (generics_of_declarations made spelled)
  exact ⟨made, spelled, by decide +kernel, n, s, among, read, lists, keeps⟩

/-- A path that begins with two colons stands directly behind the colon of the bounds. -/
def doubledText : String :=
  "#[fromsuper(from_type = \"Bar<#T>\")] struct Foo<T:::std::fmt::Debug> \x7b x: T \x7d"

/-- **A path that begins with two colons loses them** when it stands directly behind the colon of the
bounds. -/
theorem declarations_doubledText :
    ((declarations plainParser none "fromsuper" doubledText).map fun ds =>
        ds.map fun d => d.schema.paramDecls) = .ok [[⟨"T", "T: std::fmt::Debug"⟩]] ∧
      ((structAt (plainParser doubledText).items [1]).map fun found => found.2.params.map
        (GenericParam.writtenText ((plainParser doubledText).source none "fromsuper" doubledText))) =
        some ["T: ::std::fmt::Debug"] := by
  rw [declarations_eq]
  decide +kernel

end StructSource

end Narrowing
