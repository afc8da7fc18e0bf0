import Narrowing.Proofs.StructSource.Expression
import Narrowing.Proofs.StructSource.Node
import Narrowing.Proofs.StructSource.Token
import Narrowing.StructSource.PlainParser

/-!
# What the parser of plain files guarantees

The parser of plain files is one of those that the program can be given.  It reads a file
as items and makes nodes of them, from which the items are found again
(`items_plainParser`), and its trees say of their texts what is relied on
(`spelled_plainParser`).

The texts are known from the tokens that were read.  A struct is headed on the tokens of
its file, so each of its parameters has its name and its bounds there, and a token stands
on the text where its span says.

## Main statements

* `items_plainParser` — the items and comments of a plain file
* `StructItem.HeadedOn.spelled` — what a header guarantees of its parameters
* `spelled_plainParser` — what a tree guarantees of its texts
-/

namespace Narrowing.StructSource

open Reading Reading.Cursor Reading.Reader
open Text (slice isWordStart)

/-! ## From items to nodes and back -/

namespace Node

theorem attribute?_node (a : Attribute) : a.node.attribute? = some a := by
  obtain ⟨path, arguments⟩ := a
  cases arguments <;> rfl

theorem items_attribute (a : Attribute) : a.node.items = [.attached a] := by
  rw [items_eq, attribute?_node]
  rfl

theorem param?_node (p : GenericParam) : p.node.param? = some p := by
  cases p with
  | lifetime name bounds | type name bounds => cases bounds <;> rfl
  | const name type => rfl

theorem member?_node (m : Member) : m.node.member? = some m := by
  cases m with
  | attached a =>
      show a.node.attribute?.map Member.attached = _
      rw [attribute?_node]
      rfl
  | field start name type => rfl

/-- What is read from the nodes of a list is the list. -/
theorem filterMap_map_node {α : Type} {node : α → Node} {read : Node → Option α}
    (inverse : ∀ x, read (node x) = some x) (l : List α) : (l.map node).filterMap read = l := by
  rw [List.filterMap_map]
  exact (List.filterMap_congr fun x _ => inverse x).trans List.filterMap_some

theorem filter_isNamed_map {α : Type} {node : α → Node} (named : ∀ x, (node x).isNamed = true)
    (l : List α) : (l.map node).filter isNamed = l.map node :=
  List.filter_eq_self.mpr (List.forall_mem_map.mpr fun x _ => named x)

theorem isNamed_param (p : GenericParam) : p.node.isNamed = true := by
  cases p <;> rfl

theorem isNamed_member (m : Member) : m.node.isNamed = true := by
  cases m <;> rfl

theorem paramEntries_node (s : StructItem) : s.node.paramEntries = s.params.map GenericParam.node :=
  filter_isNamed_map isNamed_param s.params

theorem structItem?_node (s : StructItem) : s.node.structItem? = some s := by
  have entries : s.node.paramEntries.filterMap param? = s.params := by
    rw [paramEntries_node]
    exact filterMap_map_node param?_node s.params
  have members (l : List Member) : ((l.map Member.node).filter isNamed).filterMap member? = l := by
    rw [filter_isNamed_map isNamed_member]
    exact filterMap_map_node member?_node l
  rw [structItem?, entries]
  obtain ⟨start, name, params, clause, body⟩ := s
  cases clause <;> cases body with
  | none => rfl
  | some l => exact congrArg (fun l => some (StructItem.mk start name params _ (some l))) (members l)

mutual

theorem items_node (item : Item) : item.node.items = [item] := by
  cases item with
  | attached a => exact items_attribute a
  | struct s =>
      show [(s.node.structItem?.map Item.struct).getD .other] = _
      rw [structItem?_node]
      rfl
  | module items =>
      show [Item.module (itemsAmong (Item.nodes items))] = _
      rw [itemsAmong_nodes]
  | other => rfl

theorem itemsAmong_nodes (items : List Item) : itemsAmong (Item.nodes items) = items := by
  cases items with
  | nil => rfl
  | cons item rest =>
      have named : item.node.isNamed = true := by cases item <;> rfl
      rw [Item.nodes, itemsAmong, if_pos named, items_node, itemsAmong_nodes]
      rfl

end

theorem comments_attribute (a : Attribute) : a.node.comments = [] := by
  obtain ⟨path, arguments⟩ := a
  cases arguments <;> rfl

theorem comments_param (p : GenericParam) : p.node.comments = [] := by
  cases p with
  | lifetime name bounds | type name bounds => cases bounds <;> rfl
  | const name written => rfl

theorem comments_member (m : Member) : m.node.comments = [] := by
  cases m with
  | attached a => exact comments_attribute a
  | field start name type => rfl

/-- Nodes that are no comments, with none below them. -/
theorem commentsAmong_eq_nil {nodes : List Node}
    (plain : ∀ n ∈ nodes, n.isComment = false ∧ n.comments = []) : commentsAmong nodes = [] := by
  induction nodes with
  | nil => rfl
  | cons n rest ih =>
      obtain ⟨here, others⟩ := List.forall_mem_cons.mp plain
      rw [commentsAmong, here.1, here.2, ih others]
      rfl

theorem comments_struct (s : StructItem) : s.node.comments = [] := by
  have plain : ∀ {α : Type} {node : α → Node} (_ : ∀ x, (node x).isComment = false)
      (_ : ∀ x, (node x).comments = []) (l : List α), commentsAmong (l.map node) = [] := by
    intro α node other none l
    exact commentsAmong_eq_nil (List.forall_mem_map.mpr fun x _ => ⟨other x, none x⟩)
  have params := plain (fun p : GenericParam => by cases p <;> rfl) comments_param s.params
  have members := plain (fun m : Member => by cases m <;> rfl) comments_member
  obtain ⟨start, name, list, clause, body⟩ := s
  cases clause <;> cases body <;>
    simp [StructItem.node, comments, commentsAmong, isComment, params, members]

mutual

theorem comments_item (item : Item) : item.node.isComment = false ∧ item.node.comments = [] := by
  cases item with
  | attached a => exact ⟨rfl, comments_attribute a⟩
  | struct s => exact ⟨rfl, comments_struct s⟩
  | module items =>
      refine ⟨rfl, ?_⟩
      show commentsAmong (Item.nodes items) ++ [] = []
      rw [comments_items, List.append_nil]
  | other => exact ⟨rfl, rfl⟩

theorem comments_items (items : List Item) : commentsAmong (Item.nodes items) = [] := by
  cases items with
  | nil => rfl
  | cons item rest =>
      obtain ⟨other, none⟩ := comments_item item
      rw [Item.nodes, commentsAmong, other, none, comments_items]
      rfl

end

/-- Comments are no items, and their places are found. -/
theorem among_comments (comments : List Span) (items : List Item) :
    let nodes := comments.map (fun span => ({ kind := "block_comment", span } : Node)) ++
      Item.nodes items
    itemsAmong nodes = items ∧ commentsAmong nodes = comments := by
  induction comments with
  | nil => exact ⟨itemsAmong_nodes items, comments_items items⟩
  | cons span rest ih => exact ⟨ih.1, congrArg (span :: ·) ih.2⟩

end Node

/-- **The parser of plain files keeps what is read**: the items of a file and its comments. -/
theorem items_plainParser {text : String} {items : List Item} {comments : List Span}
    (read : fileOf? text.toList = some (items, comments)) :
    (plainParser text).hasError = false ∧ (plainParser text).items = items ∧
      (plainParser text).root.comments = comments := by
  rw [plainParser, read]
  exact ⟨rfl, Node.among_comments comments items⟩

/-! ## Parameters on a text -/

section OnText

/-- A text begins with the character at its start, unless a comment does. -/
theorem Source.head?_textOf (source : Source) {span : Span} {ch : Char}
    (longer : span.start < span.stop) (first : source.text[span.start]? = some ch)
    (apart : ∀ c ∈ source.comments, c.start ≠ span.start) : (source.textOf span).head? = some ch := by
  have without : ∀ comments : List Span, (∀ c ∈ comments, c.start ≠ span.start) →
      (source.textWithout span comments).head? = some ch := by
    intro comments
    induction comments with
    | nil => exact fun _ => (Text.head?_slice longer).trans first
    | cons c rest ih =>
        rw [List.forall_mem_cons]
        rintro ⟨other, apart⟩
        rw [Source.textWithout]
        split
        · next inside =>
            rw [List.head?_append, Text.head?_slice (lt_of_le_of_ne inside.1 other.symm), first]
            rfl
        · exact ih apart
  exact without source.comments apart

variable {source : Source} {pieces : Pieces} {front : Nat} (stand : pieces.Stand source.text front)
  {c c' : Cursor} (on : c.On pieces.tokens)

include stand on

/-- Later tokens end later. -/
theorem Pieces.Stand.stop_le {t : Token} {c₁ : Cursor} (takes : Takes c t c₁)
    (reaches : Reaches c₁ c') : t.stop ≤ c'.last := by
  induction reaches generalizing c t with
  | refl => exact takes.last.ge
  | @head c₁ c₂ c' t' first others ih =>
      have on' : c₁.On pieces.tokens := takes.reaches.on on
      have ordered := stand.ordered.sublist on.sublist
      rw [takes.tokens, first.tokens, List.pairwise_cons] at ordered
      have behind := ordered.1 t' List.mem_cons_self
      have length := (stand.tokens t' (on'.mem_of_takes first)).2.start_lt
      have later := ih on' first
      omega

/-- A mark stands where the tokens begin with it. -/
theorem Pieces.Stand.getElem?_of_isMark {t : Token} {c₁ : Cursor} {m : Char} (takes : Takes c t c₁)
    (isMark : t.isMark (String.singleton m) = true) : source.text[t.start]? = some m := by
  rw [(stand.tokens t (on.mem_of_takes takes)).2.first]
  rw [Token.isMark, Bool.and_eq_true, beq_iff_eq, beq_iff_eq] at isMark
  rw [isMark.2]
  simp

/-- The name of a type or a constant begins like a word. -/
theorem NameAt.head?_text {name : Span} (at_ : NameAt c name c') :
    (name.text source.text).toList.head? ≠ some '\'' := by
  obtain ⟨t, takes, isName, rfl⟩ := at_
  have stands := (stand.tokens t (on.mem_of_takes takes)).2
  obtain ⟨ch, first, start⟩ := stands.word isName
  rw [← stands.text, ← stands.first, Option.mem_def.mp first, ne_eq, Option.some.injEq]
  rintro rfl
  exact absurd start (by decide)

/-- The name of a lifetime begins with its quote. -/
theorem LifetimeAt.head?_text {name : Span} (at_ : LifetimeAt c name c') :
    (name.text source.text).toList.head? = some '\'' := by
  obtain ⟨quote, c₁, t, quoted, isQuote, named, -, rfl⟩ := at_
  have longer : quote.start < t.stop := by
    have length := (stand.tokens quote (on.mem_of_takes quoted)).2.start_lt
    have later := stand.stop_le on quoted named.reaches
    rw [named.last] at later
    omega
  rw [Span.text, String.toList_ofList, Text.head?_slice longer]
  exact stand.getElem?_of_isMark on quoted isQuote

/-- Bounds begin with their colon. -/
theorem BoundsAt.head?_textOf (comments : source.comments = pieces.comments) {bounds : Option Span}
    (at_ : BoundsAt c bounds c') : ∀ b ∈ bounds, (source.textOf b).head? = some ':' := by
  rintro b member
  rcases at_ with ⟨rfl, -⟩ | ⟨rfl, colon, c₁, takes, isColon, others⟩
  · cases member
  · cases member
    have token := stand.tokens colon (on.mem_of_takes takes)
    have later := stand.stop_le on takes others
    have begins := takes.here_eq
    refine source.head?_textOf ?_ ?_ fun comment member => ?_
    · dsimp only
      have length := token.2.start_lt
      omega
    · dsimp only
      rw [begins]
      exact stand.getElem?_of_isMark on takes isColon
    · dsimp only
      rw [begins]
      exact stand.apart colon (on.mem_of_takes takes) comment (comments ▸ member)

/-- **What stands at a parameter is spelled as its kind says.** -/
theorem ParamAt.spelled (comments : source.comments = pieces.comments) {p : GenericParam}
    (at_ : ParamAt c p c') : p.Spelled source := by
  cases at_ with
  | lifetime named bounded =>
      exact ⟨iff_of_true (named.head?_text stand on) rfl,
        bounded.head?_textOf stand (named.reaches.on on) comments⟩
  | type named bounded =>
      exact ⟨iff_of_false (named.head?_text stand on) Bool.false_ne_true,
        bounded.head?_textOf stand (named.reaches.on on) comments⟩
  | const begins _ named =>
      exact ⟨iff_of_false (named.head?_text stand (begins.reaches.on on)) Bool.false_ne_true,
        fun b member => by cases member⟩

theorem ListedAt.spelled (comments : source.comments = pieces.comments)
    {entry : Option GenericParam} (at_ : ListedAt c entry c') : ∀ p ∈ entry, p.Spelled source := by
  rintro p member
  obtain ⟨notes, c₁, chain, at_⟩ := at_
  have before : Reaches c c₁ := chain.kept (fun _ => .refl) Reaches.trans AttributeAt.reaches
  cases at_ with
  | passed => cases member
  | param at_ =>
      cases member
      exact at_.spelled stand (before.on on) comments

/-- What stands in a list is spelled as its kind says, entry by entry. -/
theorem spelled_of_separated (comments : source.comments = pieces.comments)
    {entries : List (Option GenericParam)} (listed : Separated "," ListedAt c entries c') :
    ∀ entry ∈ entries, ∀ p ∈ entry, p.Spelled source := by
  induction listed with
  | singleton first => exact List.forall_mem_singleton.mpr (first.spelled stand on comments)
  | cons first takes _ _ ih =>
      refine List.forall_mem_cons.mpr ⟨first.spelled stand on comments, ?_⟩
      exact ih (takes.reaches.on (first.reaches.on on))

theorem ParamsAt.spelled (comments : source.comments = pieces.comments) {ps : List GenericParam}
    (at_ : ParamsAt c ps c') : ∀ p ∈ ps, p.Spelled source := by
  cases at_ with
  | none => exact List.forall_mem_nil _
  | some opens _ listed =>
      rintro p member
      obtain ⟨entry, member, same⟩ := List.mem_filterMap.mp member
      exact spelled_of_separated stand (opens.reaches.on on) comments listed entry member p same

end OnText

/-- **The parameters of a struct are spelled as their kinds say.** -/
theorem StructItem.HeadedOn.spelled {source : Source} {pieces : Pieces} {front : Nat}
    (stand : pieces.Stand source.text front) (comments : source.comments = pieces.comments)
    {s : StructItem} (headed : s.HeadedOn pieces.tokens) : ∀ p ∈ s.params, p.Spelled source := by
  obtain ⟨c, c₁, c₂, c', keyword, on, begins, -, named, params⟩ := headed
  exact params.spelled stand (named.reaches.on (begins.reaches.on on)) comments

/-! ## Trees -/

namespace Node

theorem eq_of_reaches_leaf {n m : Node} (leaf : n.children = []) (reaches : n.Reaches m) : m = n := by
  rcases Relation.ReflTransGen.cases_head reaches with same | ⟨c, member, -⟩
  · exact same.symm
  · rw [leaf] at member
    cases member

/-- The bounds of a parameter are spelled as bounds. -/
theorem spelled_boundsNode {source : Source} {span : Span}
    (bounded : (source.textOf span).head? = some ':') : (boundsNode span).Spelled source :=
  ⟨by simp [boundsNode], by simp [boundsNode], by simp [boundsNode], fun _ => bounded⟩

/-- The nodes of a parameter are spelled as its kind says. -/
theorem spelled_param {source : Source} {p : GenericParam} (spelled : p.Spelled source) :
    ∀ m, p.node.Reaches m → m.Spelled source := by
  intro m reaches
  rcases Relation.ReflTransGen.cases_head reaches with rfl | ⟨c, member, reaches⟩
  · cases p with
    | lifetime name bounds | type name bounds =>
        exact ⟨by simp [GenericParam.node], by simp [GenericParam.node], by simp [GenericParam.node],
          by simp [GenericParam.node]⟩
    | const name written =>
        exact ⟨by simp [GenericParam.node], by simp [GenericParam.node],
          fun _ => by simp [GenericParam.node, child?], by simp [GenericParam.node]⟩
  -- Below a parameter there are its name and what stands behind it, and nothing below these.
  cases p with
  | lifetime name bounds =>
      rcases List.mem_cons.mp member with rfl | member
      · rw [eq_of_reaches_leaf rfl reaches]
        exact ⟨fun _ => spelled.quoted.mpr rfl, by simp, by simp, by simp⟩
      · obtain ⟨span, bounded, rfl⟩ := Option.map_eq_some_iff.mp (Option.mem_toList.mp member)
        rw [eq_of_reaches_leaf rfl reaches]
        exact spelled_boundsNode (spelled.bounded span bounded)
  | type name bounds =>
      rcases List.mem_cons.mp member with rfl | member
      · rw [eq_of_reaches_leaf rfl reaches]
        exact ⟨by simp, fun _ => mt spelled.quoted.mp Bool.false_ne_true, by simp, by simp⟩
      · obtain ⟨span, bounded, rfl⟩ := Option.map_eq_some_iff.mp (Option.mem_toList.mp member)
        rw [eq_of_reaches_leaf rfl reaches]
        exact spelled_boundsNode (spelled.bounded span bounded)
  | const name written =>
      rcases List.mem_pair.mp member with rfl | rfl
      · rw [eq_of_reaches_leaf rfl reaches]
        exact ⟨by simp, fun _ => mt spelled.quoted.mp Bool.false_ne_true, by simp, by simp⟩
      · rw [eq_of_reaches_leaf rfl reaches]
        exact ⟨by simp, by simp, by simp, by simp⟩

/-- Only the node of a struct lists parameters. -/
theorem exists_of_mem_paramEntries {item : Item} {e : Node} (entry : e ∈ item.node.paramEntries) :
    ∃ s p, item = .struct s ∧ p ∈ s.params ∧ e = p.node := by
  cases item with
  | struct s =>
      rw [Item.node, paramEntries_node, List.mem_map] at entry
      obtain ⟨p, member, rfl⟩ := entry
      exact ⟨s, p, rfl, member, rfl⟩
  | attached | module | other => cases entry

theorem mem_nodes {items : List Item} {n : Node} (member : n ∈ Item.nodes items) :
    ∃ item ∈ items, n = item.node := by
  induction items with
  | nil => cases member
  | cons item rest ih =>
      rcases List.mem_cons.mp member with rfl | member
      · exact ⟨item, List.mem_cons_self, rfl⟩
      · obtain ⟨found, among, same⟩ := ih member
        exact ⟨found, List.mem_cons_of_mem item among, same⟩

end Node

/-- **The trees of plain files are spelled as their grammar says.** -/
theorem spelled_plainParser (path : Option String) (marker text : String) :
    (plainParser text).Spelled ((plainParser text).source path marker text) := by
  intro n among e entry
  cases read : fileOf? text.toList with
  | none =>
      rw [plainParser, read] at among
      cases among
  | some file =>
      obtain ⟨items, comments⟩ := file
      obtain ⟨pieces, scanned, rfl, headed⟩ := headedOn_of_fileOf? read
      obtain ⟨front, stand⟩ := stand_of_piecesOf? scanned
      have found : (plainParser text).root.comments = pieces.comments := (items_plainParser read).2.2
      rw [plainParser, read] at among
      rcases List.mem_append.mp (List.mem_filter.mp among).1 with comment | node
      · obtain ⟨span, -, rfl⟩ := List.mem_map.mp comment
        cases entry
      · obtain ⟨item, member, rfl⟩ := Node.mem_nodes node
        obtain ⟨s, p, rfl, listed, rfl⟩ := Node.exists_of_mem_paramEntries entry
        cases headed _ member with
        | struct headed => exact Node.spelled_param (headed.spelled stand found p listed)

end Narrowing.StructSource
