import Mathlib
import Narrowing.Reading.Reader

/-!
# What readers take

A reader moves a cursor over a token list.  What it does to the cursor is a relation
between the cursor before and the cursor behind it, and this module gives the three
relations that the later ones are made of, together with what each basic reader does
in their terms:

* `Cursor.Takes` — exactly one token is taken;
* `Cursor.Reaches` — any number of tokens is taken, one after another;
* `Cursor.here` — the position at which a thing starts that is read from there.

### Partial specifications

A specification is a triple.  It starts from a named cursor and says what is known
when the reader gives a result; nothing is said about a reader that fails, because an
alternative then starts again from the named cursor.  Things that are read repeatedly
stand one behind the other (`Chain`), or with a mark between them (`Separated`), and
what a property comes to over many of them is an induction on these.  Of most readers
no more is asked than that they advance (`Advances`).
-/

set_option mvcgen.warning false

namespace Narrowing.Reading

open Std.Do

/-! ## Cursors -/

namespace Cursor

/-- The position of the next token. -/
def here (c : Cursor) : Nat :=
  match c.tokens.head? with
  | some t => t.start
  | none => c.last

/-- The cursor stands on the token list: what is left is an end of it. -/
def On (ts : List Token) (c : Cursor) : Prop := c.tokens <:+ ts

/-- One token is taken between the two cursors. -/
structure Takes (c : Cursor) (t : Token) (c' : Cursor) : Prop where
  tokens : c.tokens = t :: c'.tokens
  last : c'.last = t.stop

/-- **Tokens are taken one after another** between the two cursors. -/
inductive Reaches : Cursor → Cursor → Prop
  | refl {c : Cursor} : Reaches c c
  | head {c c' c'' : Cursor} {t : Token} (first : Takes c t c') (others : Reaches c' c'') :
      Reaches c c''

theorem Takes.reaches {c c' : Cursor} {t : Token} (takes : Takes c t c') : Reaches c c' :=
  .head takes .refl

theorem Takes.here_eq {c c' : Cursor} {t : Token} (takes : Takes c t c') : c.here = t.start := by
  rw [here, takes.tokens]
  rfl

namespace Reaches

theorem trans {c c' c'' : Cursor} (first : Reaches c c') (second : Reaches c' c'') :
    Reaches c c'' := by
  induction first with
  | refl => exact second
  | head takes _ ih => exact .head takes (ih second)

/-- A cursor stays on its token list. -/
theorem on {ts : List Token} {c c' : Cursor} (reaches : Reaches c c') (on : c.On ts) :
    c'.On ts := by
  induction reaches with
  | refl => exact on
  | head takes _ ih =>
      rw [On, takes.tokens] at on
      exact ih ((List.suffix_cons _ _).trans on)

end Reaches

theorem On.mem_of_takes {ts : List Token} {c c' : Cursor} {t : Token} (on : c.On ts)
    (takes : Takes c t c') : t ∈ ts := by
  refine on.subset ?_
  rw [takes.tokens]
  exact List.mem_cons_self

attribute [grind →] Takes.reaches Takes.here_eq Reaches.trans Reaches.on On.mem_of_takes
attribute [grind .] Reaches.refl

end Cursor

open Cursor

/-! ## Readers -/

namespace Reader

variable {α : Type}

/-- **What a reader gives**, if it gives anything: the cursor before, the result and the cursor
behind stand in the given relation. -/
def Gives (m : Reader α) (R : Cursor → α → Cursor → Prop) : Prop :=
  ∀ c a c', m.run c = some (a, c') → R c a c'

section Triples

variable {m : Reader α} {R : Cursor → α → Cursor → Prop}

/-- The triple to follow a reader with. Its result has a cursor of its own to start from, which keeps
it apart from what is to be shown of the whole. -/
theorem Gives.triple (gives : Gives m R) (c₀ : Cursor) :
    ⦃fun c => ⌜c = c₀⌝⦄ m
    ⦃post⟨fun a c => ⌜∃ before, before = c₀ ∧ R before a c⌝, fun _ => ⌜True⌝⟩⦄ := by
  rintro c rfl
  show (wp⟦m c⟧ (post⟨fun x => ⌜∃ before, before = c ∧ R before x.1 x.2⌝, fun _ => ⌜True⌝⟩)).down
  cases run : m c with
  | none => trivial
  | some x => exact ⟨c, rfl, gives c x.1 x.2 run⟩

theorem Gives.of_triple
    (triple : ∀ c₀, ⦃fun c => ⌜c = c₀⌝⦄ m ⦃post⟨fun a c => ⌜R c₀ a c⌝, fun _ => ⌜True⌝⟩⦄) :
    Gives m R := by
  intro c a c' run
  have holds : (wp⟦m c⟧ (post⟨fun x => ⌜R c x.1 x.2⌝, fun _ => ⌜True⌝⟩)).down := triple c c rfl
  rw [show m c = some (a, c') from run] at holds
  exact holds

/-- Of a reader that never gives anything everything holds. -/
theorem Gives.of_none (nothing : ∀ c, m.run c = none) : Gives m R := by
  intro c a c' run
  rw [nothing c] at run
  cases run

/-- The two readers of an alternative start at the same cursor. -/
@[spec]
theorem orElse_spec {m' : Reader α} {c₀ : Cursor} {Q : α → Cursor → Prop}
    (first : ⦃fun c => ⌜c = c₀⌝⦄ m ⦃post⟨fun a c => ⌜Q a c⌝, fun _ => ⌜True⌝⟩⦄)
    (second : ⦃fun c => ⌜c = c₀⌝⦄ m' ⦃post⟨fun a c => ⌜Q a c⌝, fun _ => ⌜True⌝⟩⦄) :
    ⦃fun c => ⌜c = c₀⌝⦄ (m <|> m') ⦃post⟨fun a c => ⌜Q a c⌝, fun _ => ⌜True⌝⟩⦄ := by
  rintro c rfl
  have holds : (wp⟦m c⟧ (post⟨fun x => ⌜Q x.1 x.2⌝, fun _ => ⌜True⌝⟩)).down := first c rfl
  have holds' : (wp⟦m' c⟧ (post⟨fun x => ⌜Q x.1 x.2⌝, fun _ => ⌜True⌝⟩)).down := second c rfl
  show (wp⟦(m c <|> m' c)⟧ (post⟨fun x => ⌜Q x.1 x.2⌝, fun _ => ⌜True⌝⟩)).down
  cases read : m c with
  | none => exact holds'
  | some x =>
      rw [read] at holds
      exact holds

/-- What two readers give their alternative gives. -/
theorem Gives.orElse {m' : Reader α} (first : Gives m R) (second : Gives m' R) :
    Gives (m <|> m') R := by
  intro c a c' run
  rcases (Option.orElse_eq_some ..).mp run with run | ⟨-, run⟩
  · exact first c a c' run
  · exact second c a c' run

end Triples

/-! ### One token -/

@[spec]
theorem takeIf_spec (condition : Token → Bool) (c₀ : Cursor) :
    ⦃fun c => ⌜c = c₀⌝⦄ takeIf condition
    ⦃post⟨fun t c => ⌜Takes c₀ t c ∧ condition t = true⌝, fun _ => ⌜True⌝⟩⦄ := by
  rintro ⟨tokens, last⟩ rfl
  cases tokens with
  | nil => trivial
  | cons t rest =>
      show (wp⟦(if condition t then some (t, ⟨rest, t.stop⟩) else none : Option (Token × Cursor))⟧
        (post⟨fun x => ⌜Takes ⟨t :: rest, last⟩ x.1 x.2 ∧ condition x.1 = true⌝,
          fun _ => ⌜True⌝⟩)).down
      split
      · next holds => exact ⟨⟨rfl, rfl⟩, holds⟩
      · trivial

@[spec]
theorem peek_spec (c₀ : Cursor) :
    ⦃fun c => ⌜c = c₀⌝⦄ peek
    ⦃post⟨fun t c => ⌜t = c₀.tokens.head? ∧ c = c₀⌝, fun _ => ⌜True⌝⟩⦄ := by
  rintro c rfl
  exact ⟨rfl, rfl⟩

@[spec]
theorem peekSecond_spec (c₀ : Cursor) :
    ⦃fun c => ⌜c = c₀⌝⦄ peekSecond
    ⦃post⟨fun t c => ⌜t = c₀.tokens[1]? ∧ c = c₀⌝, fun _ => ⌜True⌝⟩⦄ := by
  rintro c rfl
  exact ⟨rfl, rfl⟩

@[spec]
theorem failure_spec (c₀ : Cursor) :
    ⦃fun c => ⌜c = c₀⌝⦄ (failure : Reader α)
    ⦃post⟨fun _ _ => ⌜False⌝, fun _ => ⌜True⌝⟩⦄ := by
  rintro c rfl
  trivial

@[spec]
theorem next_spec (condition : Token → Bool) (c₀ : Cursor) :
    ⦃fun c => ⌜c = c₀⌝⦄ next condition
    ⦃post⟨fun b c => ⌜b = c₀.tokens.head?.any condition ∧ c = c₀⌝, fun _ => ⌜True⌝⟩⦄ := by
  mvcgen [next]
  grind

@[spec]
theorem mark_spec (m : String) (c₀ : Cursor) :
    ⦃fun c => ⌜c = c₀⌝⦄ mark m
    ⦃post⟨fun _ c => ⌜∃ t, Takes c₀ t c ∧ t.isMark m = true⌝, fun _ => ⌜True⌝⟩⦄ := by
  mvcgen [mark]
  grind

@[spec]
theorem word_spec (w : String) (c₀ : Cursor) :
    ⦃fun c => ⌜c = c₀⌝⦄ word w
    ⦃post⟨fun _ c => ⌜∃ t, Takes c₀ t c ∧ t.isWord w = true⌝, fun _ => ⌜True⌝⟩⦄ := by
  mvcgen [word]
  grind

@[spec]
theorem kind_spec (k : TokenKind) (c₀ : Cursor) :
    ⦃fun c => ⌜c = c₀⌝⦄ kind k
    ⦃post⟨fun _ c => ⌜∃ t, Takes c₀ t c ∧ t.kind = k⌝, fun _ => ⌜True⌝⟩⦄ := by
  mvcgen [kind]
  grind

@[spec]
theorem skip_spec (condition : Token → Bool) (c₀ : Cursor) :
    ⦃fun c => ⌜c = c₀⌝⦄ skip condition
    ⦃post⟨fun b c => ⌜if b then ∃ t, Takes c₀ t c ∧ condition t = true else c = c₀⌝,
      fun _ => ⌜True⌝⟩⦄ := by
  mvcgen [skip]
  all_goals grind

@[spec]
theorem here_spec (c₀ : Cursor) :
    ⦃fun c => ⌜c = c₀⌝⦄ Reader.here
    ⦃post⟨fun n c => ⌜n = c₀.here ∧ c = c₀⌝, fun _ => ⌜True⌝⟩⦄ := by
  mvcgen [Reader.here]
  all_goals grind [Cursor.here]

@[spec]
theorem spanFrom_spec (start : Nat) (c₀ : Cursor) :
    ⦃fun c => ⌜c = c₀⌝⦄ spanFrom start
    ⦃post⟨fun s c => ⌜s = ⟨start, c₀.last⟩ ∧ c = c₀⌝, fun _ => ⌜True⌝⟩⦄ := by
  mvcgen [spanFrom]
  all_goals grind

/-! ### Many things -/

/-- **Things are read one behind the other**, each as the relation says. -/
inductive Chain (R : Cursor → α → Cursor → Prop) : Cursor → List α → Cursor → Prop
  | nil {c : Cursor} : Chain R c [] c
  | cons {c c' c'' : Cursor} {a : α} {l : List α} (first : R c a c') (others : Chain R c' l c'') :
      Chain R c (a :: l) c''

section Chains

variable {thing : Reader α} {R : Cursor → α → Cursor → Prop}

/-- A relation that every thing keeps is kept by any number of them. -/
theorem Chain.kept {kept : Cursor → Cursor → Prop} {c c' : Cursor} {l : List α}
    (chain : Chain R c l c') (refl : ∀ c, kept c c)
    (trans : ∀ {c c' c''}, kept c c' → kept c' c'' → kept c c'')
    (step : ∀ {c a c'}, R c a c' → kept c c') : kept c c' := by
  induction chain with
  | nil => exact refl _
  | cons first _ ih => exact trans (step first) ih

theorem Gives.many_chain (gives : Gives thing R) (count : Nat) :
    Gives (Reader.many count thing) (Chain R) := by
  induction count with
  | zero =>
      refine .of_triple fun c₀ => ?_
      mvcgen [Reader.many]
      grind [Chain]
  | succ n ih =>
      refine .of_triple fun c₀ => ?_
      have thing := gives.triple
      have others := ih.triple
      mvcgen [Reader.many, thing, others]
      all_goals grind [Chain]

theorem Gives.some1_chain (gives : Gives thing R) (count : Nat) :
    Gives (some1 count thing) (Chain R) := by
  refine .of_triple fun c₀ => ?_
  have thing := gives.triple
  have others := (gives.many_chain count).triple
  mvcgen [some1, thing, others]
  grind [Chain]

/-- **Things are read with a mark between them**, each as the relation says. -/
inductive Separated (m : String) (R : Cursor → α → Cursor → Prop) : Cursor → List α → Cursor → Prop
  | singleton {c c' : Cursor} {a : α} (first : R c a c') : Separated m R c [a] c'
  | cons {c c₁ c₂ c' : Cursor} {a : α} {t : Token} {l : List α} (first : R c a c₁)
      (takes : Takes c₁ t c₂) (isMark : t.isMark m = true) (others : Separated m R c₂ l c') :
      Separated m R c (a :: l) c'

/-- A relation that things and marks keep is kept by things with marks between them. -/
theorem Separated.kept {m : String} {c c' : Cursor} {l : List α}
    (separated : Separated m R c l c') (kept : Cursor → Cursor → Prop)
    (trans : ∀ {c c' c''}, kept c c' → kept c' c'' → kept c c'')
    (step : ∀ {c a c'}, R c a c' → kept c c') (mark : ∀ {c t c'}, Takes c t c' → kept c c') :
    kept c c' := by
  induction separated with
  | singleton first => exact step first
  | cons first takes _ _ ih => exact trans (step first) (trans (mark takes) ih)

/-- A mark belongs to the thing behind it, where the relation allows that. -/
theorem Separated.chain {m : String} {c c' : Cursor} {l : List α} (separated : Separated m R c l c')
    (behind : ∀ c t c' a c'', Takes c t c' → t.isMark m = true → R c' a c'' → R c a c'') :
    Chain R c l c' := by
  induction separated with
  | singleton first => exact .cons first .nil
  | cons first takes isMark others ih =>
      cases ih with
      | nil => cases others
      | cons next others => exact .cons first (.cons (behind _ _ _ _ _ takes isMark next) others)

/-- Things with a mark in front of each stand behind a first one. -/
theorem separated_of_chain {m : String} {c c₁ c' : Cursor} {a : α} {l : List α} (first : R c a c₁)
    (chain : Chain (fun c a c' => ∃ t c₁, Takes c t c₁ ∧ t.isMark m = true ∧ R c₁ a c') c₁ l c') :
    Separated m R c (a :: l) c' := by
  induction chain generalizing c a with
  | nil => exact .singleton first
  | cons next _ ih =>
      obtain ⟨t, c₂, takes, isMark, next⟩ := next
      exact .cons first takes isMark (ih next)

theorem Gives.separated_marks (gives : Gives thing R) (count : Nat) (m : String) :
    Gives (separated count m thing) (Separated m R) := by
  have marked : Gives (do mark m; thing) fun c a c' =>
      ∃ t c₁, Takes c t c₁ ∧ t.isMark m = true ∧ R c₁ a c' := by
    refine .of_triple fun c₀ => ?_
    have thing := gives.triple
    mvcgen [thing]
    grind
  refine .of_triple fun c₀ => ?_
  have thing := gives.triple
  have others := (marked.many_chain count).triple
  mvcgen [separated, thing, others]
  grind [separated_of_chain]

theorem Gives.separated_chain (gives : Gives thing R) (count : Nat) (m : String)
    (behind : ∀ c t c' a c'', Takes c t c' → t.isMark m = true → R c' a c'' → R c a c'') :
    Gives (separated count m thing) (Chain R) :=
  fun c l c' run => (gives.separated_marks count m c l c' run).chain behind

end Chains

/-- Tokens are taken, and what is read from the token list has the property. -/
def Passes (ts : List Token) (Q : α → Prop) (c : Cursor) (a : α) (c' : Cursor) : Prop :=
  Reaches c c' ∧ (c.On ts → Q a)

section Passing

variable {ts : List Token} {Q : α → Prop} {thing : Reader α}

theorem Chain.passes {c c' : Cursor} {l : List α} (chain : Chain (Passes ts Q) c l c') :
    Passes ts (fun l => ∀ a ∈ l, Q a) c l c' := by
  induction chain with
  | nil => exact ⟨.refl, fun _ => List.forall_mem_nil _⟩
  | cons first _ ih =>
      exact ⟨first.1.trans ih.1, fun on =>
        List.forall_mem_cons.mpr ⟨first.2 on, ih.2 (first.1.on on)⟩⟩

variable (gives : Gives thing (Passes ts Q))

include gives

theorem Gives.many_passes (count : Nat) :
    Gives (Reader.many count thing) (Passes ts fun l => ∀ a ∈ l, Q a) :=
  fun c l c' run => (gives.many_chain count c l c' run).passes

theorem Gives.mark_passes (m : String) : Gives (do mark m; thing) (Passes ts Q) := by
  refine .of_triple fun c₀ => ?_
  have thing := gives.triple
  mvcgen [thing]
  grind [Passes]

theorem Gives.word_passes (w : String) : Gives (do word w; thing) (Passes ts Q) := by
  refine .of_triple fun c₀ => ?_
  have thing := gives.triple
  mvcgen [thing]
  grind [Passes]

theorem Gives.separated_passes (count : Nat) (m : String) :
    Gives (separated count m thing) (Passes ts fun l => ∀ a ∈ l, Q a) := by
  have chain := gives.separated_chain count m fun _ _ _ _ _ takes _ passes =>
    ⟨.head takes passes.1, fun on => passes.2 (takes.reaches.on on)⟩
  exact fun c l c' run => (chain c l c' run).passes

theorem Gives.some1_passes (count : Nat) :
    Gives (some1 count thing) (Passes ts fun l => ∀ a ∈ l, Q a) :=
  fun c l c' run => (gives.some1_chain count c l c' run).passes

end Passing

/-! ### Readers that only take tokens -/

/-- **A reader advances**: between the two cursors it takes tokens, one after another. -/
abbrev Advances (m : Reader α) : Prop := Gives m fun c _ c' => Reaches c c'

section Advancing

variable {m m' thing : Reader α}

theorem Gives.advances {ts : List Token} {Q : α → Prop} (gives : Gives m (Passes ts Q)) : Advances m :=
  fun c a c' run => (gives c a c' run).1

theorem Advances.many (advances : Advances thing) (count : Nat) : Advances (many count thing) :=
  fun c l c' run => (advances.many_chain count c l c' run).kept (fun _ => .refl) Reaches.trans id

theorem Advances.separated (advances : Advances thing) (count : Nat) (m : String) :
    Advances (separated count m thing) :=
  fun c l c' run => (advances.separated_marks count m c l c' run).kept Reaches Reaches.trans id
    Takes.reaches

theorem Advances.orElse (advances : Advances m) (advances' : Advances m') : Advances (m <|> m') :=
  Gives.orElse advances advances'

theorem Advances.maybe (advances : Advances thing) : Advances (optional thing) := by
  refine .of_triple fun c₀ => ?_
  have thing := advances.triple
  mvcgen [optional, thing]
  all_goals grind

/-- A test that takes tokens for one of several things. -/
theorem Advances.anyM {β : Type} {test : β → Reader Bool} (advances : ∀ b, Advances (test b))
    (l : List β) : Advances (l.anyM test) := by
  induction l with
  | nil =>
      refine .of_triple fun c₀ => ?_
      mvcgen [List.anyM]
      grind
  | cons b l ih =>
      refine .of_triple fun c₀ => ?_
      have first := (advances b).triple
      have others := ih.triple
      mvcgen [List.anyM, first, others]
      all_goals grind

theorem advances_kind (k : TokenKind) : Advances (kind k) := by
  refine .of_triple fun c₀ => ?_
  mvcgen
  grind

end Advancing

end Reader

end Narrowing.Reading
