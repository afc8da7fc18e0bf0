import Mathlib
import Narrowing.ClassSource.Expression
import Narrowing.Proofs.Reading

/-!
# Where an expression begins

The text of an argument is cut out of a module by positions: those of the first and of
the last token of the argument.  This module follows the expression readers and shows
what these tokens can be.  Two facts matter to whoever reads the text again on its own:

* an expression begins with a name, a literal or one of a few marks (`Opens`);
* behind a first name or literal no comma and no equals sign stands next (`Continues`).

A comma or an equals sign may stand further inside, in brackets or behind `lambda`; that
is why only the second token is spoken of.

### What is shown of an expression that was read

`Reads` says both of the tokens taken and of the expression itself: its span is that of
tokens of the module (`Written`), and so are the spans of the arguments of every call
that can be a marker in it (`Legible`).  Parentheses around an expression are not part of
its span, so the tokens taken for it and the tokens of its span may differ.

### The readers

The readers are mutually recursive and bounded by a depth.  `Understood` holds what each of
them gives at one depth, one field a reader, and `understood` goes from a depth to the
next: a step lemma follows one reader with the specifications of the readers it calls.

## Main statements

* `understood` — at every depth, every expression reader gives what `Understood` says
-/

set_option mvcgen.warning false

namespace Narrowing.ClassSource

open Reading Reading.Cursor Reading.Reader Std.Do

/-! ## Tokens of an expression -/

/-- The token is a name or a literal. -/
@[grind =]
def IsWordLike (t : Token) : Prop := t.kind = .name ∨ t.kind = .number ∨ t.kind = .string

/-- The token is a mark that an expression can begin with. -/
@[grind =]
def IsOpening (t : Token) : Prop :=
  t.kind = .mark ∧ (t.text = "(" ∨ t.text = "[" ∨ t.text = "\x7b" ∨ t.text = "+" ∨ t.text = "-" ∨
    t.text = "~" ∨ t.text = "*" ∨ t.text = "...")

/-- The token separates neither two arguments nor a key from its value. -/
@[grind =]
def IsInner (t : Token) : Prop := IsWordLike t ∨ t.kind = .mark ∧ t.text ≠ "," ∧ t.text ≠ "="

/-- A mark that opens an expression separates nothing. -/
theorem IsOpening.isInner {t : Token} (opening : IsOpening t) : IsInner t := by
  refine .inr ⟨opening.1, ?_, ?_⟩
  all_goals
    intro same
    rw [IsOpening, same] at opening
    exact absurd opening.2 (by decide)

/-- A mark separates nothing if it is one of several that do not. -/
theorem isInner_of_mem {t : Token} {marks : List String} (kind : t.kind = .mark)
    (member : t.text ∈ marks) (comma : "," ∉ marks) (equals : "=" ∉ marks) : IsInner t :=
  .inr ⟨kind, fun same => comma (same ▸ member), fun same => equals (same ▸ member)⟩

/-- **An expression goes on** between the two cursors, if at all then with a token that separates
nothing. -/
inductive Continues : Cursor → Cursor → Prop
  | stay {c : Cursor} : Continues c c
  | step {c c' c'' : Cursor} {t : Token} (first : Takes c t c') (inner : IsInner t)
      (others : Reaches c' c'') : Continues c c''

/-- **An expression begins** at the first cursor and has come to the second one.  What stands behind
an opening mark is not looked at. -/
inductive Opens : Cursor → Cursor → Prop
  | mark {c c' c'' : Cursor} {t : Token} (first : Takes c t c') (opening : IsOpening t)
      (others : Reaches c' c'') : Opens c c''
  | word {c c' c'' : Cursor} {t : Token} (first : Takes c t c') (word : IsWordLike t)
      (others : Continues c' c'') : Opens c c''

section Relations

variable {c c' c'' : Cursor} {t : Token}

theorem Continues.of_takes (takes : Takes c t c') (inner : IsInner t) : Continues c c' :=
  .step takes inner .refl

theorem Continues.reaches (continues : Continues c c') : Reaches c c' := by
  cases continues with
  | stay => exact .refl
  | step first _ others => exact .head first others

theorem Continues.trans (first : Continues c c') (second : Continues c' c'') :
    Continues c c'' := by
  cases first with
  | stay => exact second
  | step first inner others => exact .step first inner (others.trans second.reaches)

theorem Opens.of_takes (takes : Takes c t c') (word : IsWordLike t) : Opens c c' :=
  .word takes word .stay

theorem Opens.of_mark (takes : Takes c t c') (opening : IsOpening t) : Opens c c' :=
  .mark takes opening .refl

theorem Opens.trans (opens : Opens c c') (continues : Continues c' c'') : Opens c c'' := by
  cases opens with
  | mark first opening others => exact .mark first opening (others.trans continues.reaches)
  | word first word others => exact .word first word (others.trans continues)

/-- Behind an expression anything may follow, for what came before goes on with the expression. -/
theorem Opens.continues_of_reaches (opens : Opens c c') (reaches : Reaches c' c'') :
    Continues c c'' := by
  cases opens with
  | mark first opening others => exact .step first opening.isInner (others.trans reaches)
  | word first word others => exact .step first (.inl word) (others.reaches.trans reaches)

theorem Opens.continues (opens : Opens c c') : Continues c c' := opens.continues_of_reaches .refl

theorem Opens.reaches (opens : Opens c c') : Reaches c c' := opens.continues.reaches

end Relations

attribute [grind →] Continues.step Continues.of_takes Continues.reaches Continues.trans Opens.mark
  Opens.of_mark Opens.of_takes Opens.trans Opens.continues_of_reaches Opens.continues Opens.reaches
attribute [grind .] Continues.stay
attribute [grind =] Token.isWord Token.isMark isIdentifier

/-! ## Expressions that have been read -/

/-- **A span is written on a token list** if it reaches from the first to the last of the tokens that
an expression begins with. -/
def Written (ts : List Token) (span : Span) : Prop :=
  ∃ c c' : Cursor, c.On ts ∧ Opens c c' ∧ span = ⟨c.here, c'.last⟩

theorem Opens.written {ts : List Token} {c c' : Cursor} (opens : Opens c c') (on : c.On ts) :
    Written ts ⟨c.here, c'.last⟩ := ⟨c, c', on, opens, rfl⟩

/-- **The arguments of a call can be read again**: all of them are written on the token list, and the
keys are names of it, in normal form. -/
structure LegibleArguments (ts : List Token) (args : List Expr)
    (keywords : List (Option String × Expr)) : Prop where
  args : ∀ a ∈ args, Written ts a.span
  keys : ∀ k ∈ keywords, ∀ key ∈ k.1, ∃ t ∈ ts, t.kind = .name ∧ Text.normalized t.text = key
  values : ∀ k ∈ keywords, Written ts k.2.span

namespace LegibleArguments

variable {ts : List Token} {args : List Expr} {keywords : List (Option String × Expr)} {e : Expr}

theorem nil : LegibleArguments ts [] [] := ⟨by simp, by simp, by simp⟩

theorem singleton (written : Written ts e.span) : LegibleArguments ts [e] [] :=
  ⟨by simpa using written, by simp, by simp⟩

theorem concat_arg (legible : LegibleArguments ts args keywords) (written : Written ts e.span) :
    LegibleArguments ts (args ++ [e]) keywords := by
  refine ⟨?_, legible.keys, legible.values⟩
  rw [List.forall_mem_append]
  exact ⟨legible.args, by simpa using written⟩

theorem concat_keyword (legible : LegibleArguments ts args keywords) {key : Option String}
    (named : ∀ name ∈ key, ∃ t ∈ ts, t.kind = .name ∧ Text.normalized t.text = name) (written : Written ts e.span) :
    LegibleArguments ts args (keywords ++ [(key, e)]) := by
  refine ⟨legible.args, ?_, ?_⟩
  · rw [List.forall_mem_append]
    exact ⟨legible.keys, by simpa using named⟩
  · rw [List.forall_mem_append]
    exact ⟨legible.values, by simpa using written⟩

end LegibleArguments

/-- **The calls that can be markers in an expression can be read again**: the expression itself, or
the elements in the brackets of a subscript. -/
inductive Legible (ts : List Token) : Expr → Prop
  | name (span : Span) (id : String) : Legible ts (.name span id)
  | member (span : Span) (value : Expr) (attr : String) : Legible ts (.member span value attr)
  | call (span : Span) (function : Expr) {args : List Expr}
      {keywords : List (Option String × Expr)} (arguments : LegibleArguments ts args keywords) :
      Legible ts (.call span function args keywords)
  | subscript (span : Span) (value : Expr) {index : Expr} (inner : Legible ts index) :
      Legible ts (.subscript span value index)
  | tuple (span : Span) {es : List Expr} (inner : ∀ e ∈ es, Legible ts e) :
      Legible ts (.tuple span es)
  | list (span : Span) (es : List Expr) : Legible ts (.list span es)
  | starred (span : Span) (e : Expr) : Legible ts (.starred span e)
  | other (span : Span) : Legible ts (.other span)

/-- The elements of a display can be read again. -/
@[grind =]
def LegibleDisplay (ts : List Token) : Read.Display → Prop
  | .comprehension => True
  | .elements es _ => ∀ e ∈ es, Written ts e.span ∧ Legible ts e

/-- **What reading an expression gives**: tokens that begin it, a span that is written, and calls
that can be read again. -/
structure Reads (ts : List Token) (c : Cursor) (e : Expr) (c' : Cursor) : Prop where
  opens : Opens c c'
  written : c.On ts → Written ts e.span
  legible : c.On ts → Legible ts e

namespace Reads

variable {ts : List Token} {c c' c'' : Cursor} {e : Expr}

/-- An expression that spans all the tokens taken for it. -/
theorem whole (opens : Opens c c') (spanned : e.span = ⟨c.here, c'.last⟩)
    (legible : c.On ts → Legible ts e) : Reads ts c e c' :=
  ⟨opens, fun on => spanned ▸ opens.written on, legible⟩

theorem continued (reads : Reads ts c e c') (continues : Continues c' c'') : Reads ts c e c'' :=
  ⟨reads.opens.trans continues, reads.written, reads.legible⟩

/-- An expression in parentheses. -/
theorem enclosed {d d' : Cursor} {t u : Token} (opened : Takes d t c) (opening : IsOpening t)
    (reads : Reads ts c e c') (closed : Takes c' u d') : Reads ts d e d' :=
  ⟨.mark opened opening (reads.opens.reaches.trans closed.reaches),
    fun on => reads.written (opened.reaches.on on), fun on => reads.legible (opened.reaches.on on)⟩

theorem reaches (reads : Reads ts c e c') : Reaches c c' := reads.opens.reaches

theorem passes (reads : Reads ts c e c') :
    Passes ts (fun e => Written ts e.span ∧ Legible ts e) c e c' :=
  ⟨reads.opens.reaches, fun on => ⟨reads.written on, reads.legible on⟩⟩

theorem gives_passes {m : Reader Expr} (gives : Gives m (Reads ts)) :
    Gives m (Passes ts fun e => Written ts e.span ∧ Legible ts e) :=
  fun c e c' run => (gives c e c' run).passes

end Reads

attribute [grind →] Opens.written Reads.opens Reads.enclosed Reads.reaches Reads.written Reads.legible Reads.continued
attribute [grind ←] Reads.mk LegibleArguments.nil LegibleArguments.singleton LegibleArguments.concat_arg
  LegibleArguments.concat_keyword Legible.name Legible.member Legible.call Legible.subscript
  Legible.tuple Legible.list Legible.starred Legible.other
attribute [grind =] Expr.span Passes

/-! ## The readers -/

variable {ts : List Token}

/-- **What the expression readers give at one depth.**  Inside brackets only the property of what is
read matters, and outside them also how its tokens begin. -/
structure Understood (ts : List Token) (n : Nat) : Prop where
  starExpressions : Gives (Read.starExpressions n) fun c e c' =>
    Continues c c' ∧ (c.On ts → Legible ts e)
  starExpression : Gives (Read.starExpression n) (Reads ts)
  starNamedExpression : Gives (Read.starNamedExpression n) (Reads ts)
  namedExpression : Gives (Read.namedExpression n) (Reads ts)
  expression : Gives (Read.expression n) (Reads ts)
  binary (level : Nat) : Gives (Read.binary n level) (Reads ts)
  primary : Gives (Read.primary n) (Reads ts)
  /-- What is applied to an expression begins where the expression does. -/
  trailers (start : Nat) (e : Expr) : Gives (Read.trailers n start e) fun c r c' =>
    ∀ before : Cursor, before.here = start → Reads ts before e c → Reads ts before r c'
  callArguments : Gives (Read.callArguments n) fun c a c' =>
    Continues c c' ∧ (c.On ts → LegibleArguments ts a.args a.keywords)
  arguments (phase : Read.ArgumentPhase) (a : Read.Arguments) :
    Gives (Read.arguments n phase a) (Passes ts fun r =>
      LegibleArguments ts a.args a.keywords → LegibleArguments ts r.args r.keywords)
  subscripts : Gives (Read.subscripts n) (Passes ts (Legible ts))
  subscriptItem : Gives (Read.subscriptItem n) (Passes ts (Legible ts))
  sliceBound : Gives (Read.sliceBound n) (Passes ts fun _ => True)
  comprehension : Gives (Read.comprehension n) (Passes ts fun _ => True)
  targets : Gives (Read.targets n) (Passes ts fun _ => True)
  target : Gives (Read.target n) (Passes ts fun _ => True)
  display : Gives (Read.display n) (Passes ts (LegibleDisplay ts))
  entry : Gives (Read.entry n) (Passes ts fun _ => True)
  dictionary : Gives (Read.dictionary n) (Passes ts fun _ => True)
  yieldExpression : Gives (Read.yieldExpression n) (Reads ts)
  formatted (l : StringLiteral) : Gives (Read.formatted n l) fun c _ c' => c' = c
  atom : Gives (Read.atom n) (Reads ts)
  parameters (annotated : Bool) (phase : Read.ParameterPhase) :
    Gives (Read.parameters n annotated phase) fun c _ c' => Continues c c'

/-! ### Operators -/

theorem gives_comparison : Gives Read.comparison fun c _ c' => Continues c c' := by
  refine .of_triple fun c₀ => ?_
  have marked : ∀ t : Token, t.kind = .mark → t.text ∈ ["==", "!=", "<=", ">=", "<", ">"] →
      IsInner t :=
    fun t kind member => isInner_of_mem kind member (by decide) (by decide)
  mvcgen [Read.comparison]
  all_goals grind

/-- An operator separates nothing. -/
theorem gives_operator (level : Nat) :
    Gives (Read.operator level) fun c _ c' => Continues c c' := by
  refine .of_triple fun c₀ => ?_
  have comma : ∀ n, "," ∉ Read.binaryMarks n := fun n => by
    unfold Read.binaryMarks
    split <;> decide
  have equals : ∀ n, "=" ∉ Read.binaryMarks n := fun n => by
    unfold Read.binaryMarks
    split <;> decide
  have comparison := gives_comparison.triple
  mvcgen [Read.operator, comparison]
  all_goals grind [isInner_of_mem]

/-- Operators and their operands go on with the expression in front of them. -/
theorem gives_operators {thing : Reader Expr} (gives : Gives thing (Reads ts)) (level count : Nat) :
    Gives (many count (do Read.operator level; thing)) fun c _ c' => Continues c c' := by
  have step : Gives (do Read.operator level; thing) fun c _ c' => Continues c c' := by
    refine .of_triple fun c₀ => ?_
    have thing := gives.triple
    have operator := (gives_operator level).triple
    mvcgen [thing, operator]
    grind
  exact fun c l c' run =>
    (step.many_chain count c l c' run).kept (fun _ => .stay) Continues.trans id

/-- Adjacent strings are one expression. -/
theorem gives_strings (count : Nat) :
    Gives (some1 count (takeIf (·.kind == .string))) fun c _ c' => Opens c c' := by
  have step : Gives (takeIf (·.kind == .string)) fun c _ c' => Continues c c' := by
    refine .of_triple fun c₀ => ?_
    mvcgen
    grind
  have many : Gives (many count (takeIf (·.kind == .string))) fun c _ c' => Continues c c' :=
    fun c l c' run => (step.many_chain count c l c' run).kept (fun _ => .stay) Continues.trans id
  refine .of_triple fun c₀ => ?_
  have others := many.triple
  mvcgen [some1, others]
  grind

/-! ### From one depth to the next -/

namespace Understood

variable {n : Nat} (ih : Understood ts n)

include ih

theorem starExpressions_succ : Gives (Read.starExpressions (n + 1)) fun c e c' =>
    Continues c c' ∧ (c.On ts → Legible ts e) := by
  refine .of_triple fun c₀ => ?_
  have starExpression := ih.starExpression.triple
  have others := ((Reads.gives_passes ih.starExpression).mark_passes ",").many_passes n |>.triple
  mvcgen [Read.starExpressions, starExpression, others]
  all_goals grind

theorem starExpression_succ : Gives (Read.starExpression (n + 1)) (Reads ts) := by
  refine .of_triple fun c₀ => ?_
  have expression := ih.expression.triple
  have binary := (ih.binary 4).triple
  mvcgen [Read.starExpression, expression, binary]
  all_goals grind

theorem starNamedExpression_succ : Gives (Read.starNamedExpression (n + 1)) (Reads ts) := by
  refine .of_triple fun c₀ => ?_
  have namedExpression := ih.namedExpression.triple
  have binary := (ih.binary 4).triple
  mvcgen [Read.starNamedExpression, namedExpression, binary]
  all_goals grind

theorem namedExpression_succ : Gives (Read.namedExpression (n + 1)) (Reads ts) := by
  refine .of_triple fun c₀ => ?_
  have expression := ih.expression.triple
  mvcgen [Read.namedExpression, expression, Read.identifier]
  all_goals grind

theorem expression_succ : Gives (Read.expression (n + 1)) (Reads ts) := by
  refine .of_triple fun c₀ => ?_
  have parameters := (ih.parameters false {}).triple
  have expression := ih.expression.triple
  have binary := (ih.binary 0).triple
  mvcgen [Read.expression, parameters, expression, binary]
  all_goals grind

theorem binary_succ (level : Nat) : Gives (Read.binary (n + 1) level) (Reads ts) := by
  refine .of_triple fun c₀ => ?_
  have binary := fun level => (ih.binary level).triple
  have primary := ih.primary.triple
  have operators := (gives_operators (ih.binary (level + 1)) level n).triple
  mvcgen [Read.binary, binary, primary, operators]
  all_goals grind

theorem primary_succ : Gives (Read.primary (n + 1)) (Reads ts) := by
  refine .of_triple fun c₀ => ?_
  have primary := ih.primary.triple
  have atom := ih.atom.triple
  have trailers := fun start e => (ih.trailers start e).triple
  mvcgen [Read.primary, primary, atom, trailers]
  all_goals grind

theorem trailers_succ (start : Nat) (e : Expr) :
    Gives (Read.trailers (n + 1) start e) fun c r c' =>
      ∀ before : Cursor, before.here = start → Reads ts before e c → Reads ts before r c' := by
  refine .of_triple fun c₀ => ?_
  have trailers := fun start e => (ih.trailers start e).triple
  have callArguments := ih.callArguments.triple
  have subscripts := ih.subscripts.triple
  mvcgen [Read.trailers, trailers, callArguments, subscripts, Read.identifier]
  all_goals grind

theorem arguments_succ (phase : Read.ArgumentPhase) (a : Read.Arguments) :
    Gives (Read.arguments (n + 1) phase a) (Passes ts fun r =>
      LegibleArguments ts a.args a.keywords → LegibleArguments ts r.args r.keywords) := by
  refine .of_triple fun c₀ => ?_
  have arguments := fun p a => (ih.arguments p a).triple
  have expression := ih.expression.triple
  have namedExpression := ih.namedExpression.triple
  mvcgen [Read.arguments, arguments, expression, namedExpression, Read.identifier]
  all_goals grind +zetaDelta

/-- The parentheses of a call hold arguments, or they are those of a comprehension, which then is the
only argument and spans them. -/
theorem callArguments_succ : Gives (Read.callArguments (n + 1)) fun c a c' =>
    Continues c c' ∧ (c.On ts → LegibleArguments ts a.args a.keywords) := by
  refine .of_triple fun c₀ => ?_
  have arguments := (ih.arguments .positional {}).triple
  have namedExpression := ih.namedExpression.triple
  have comprehension := ih.comprehension.triple
  mvcgen [Read.callArguments, arguments, namedExpression, comprehension]
  all_goals grind

theorem subscripts_succ : Gives (Read.subscripts (n + 1)) (Passes ts (Legible ts)) := by
  refine .of_triple fun c₀ => ?_
  have subscriptItem := ih.subscriptItem.triple
  have others := ((ih.subscriptItem.mark_passes ",").many_passes n).triple
  mvcgen [Read.subscripts, subscriptItem, others]
  all_goals grind

theorem subscriptItem_succ : Gives (Read.subscriptItem (n + 1)) (Passes ts (Legible ts)) := by
  refine .of_triple fun c₀ => ?_
  have binary := (ih.binary 4).triple
  have namedExpression := ih.namedExpression.triple
  have sliceBound := ih.sliceBound.triple
  mvcgen [Read.subscriptItem, binary, namedExpression, sliceBound]
  all_goals grind

theorem sliceBound_succ : Gives (Read.sliceBound (n + 1)) (Passes ts fun _ => True) := by
  refine .of_triple fun c₀ => ?_
  have expression := ih.expression.triple
  mvcgen [Read.sliceBound, expression]
  all_goals grind

theorem comprehension_succ : Gives (Read.comprehension (n + 1)) (Passes ts fun _ => True) := by
  refine .of_triple fun c₀ => ?_
  have binary := (ih.binary 0).triple
  have targets := ih.targets.triple
  have comprehension := ih.comprehension.triple
  have conditions := ((Reads.gives_passes (ih.binary 0)).word_passes "if").many_passes n |>.triple
  mvcgen [Read.comprehension, binary, targets, comprehension, conditions]
  all_goals grind

theorem targets_succ : Gives (Read.targets (n + 1)) (Passes ts fun _ => True) := by
  refine .of_triple fun c₀ => ?_
  have targets := (ih.target.separated_passes n ",").triple
  mvcgen [Read.targets, targets]
  all_goals grind

theorem target_succ : Gives (Read.target (n + 1)) (Passes ts fun _ => True) := by
  refine .of_triple fun c₀ => ?_
  have primary := ih.primary.triple
  mvcgen [Read.target, primary]
  all_goals grind

theorem display_succ : Gives (Read.display (n + 1)) (Passes ts (LegibleDisplay ts)) := by
  refine .of_triple fun c₀ => ?_
  have starNamedExpression := ih.starNamedExpression.triple
  have comprehension := ih.comprehension.triple
  have others :=
    ((Reads.gives_passes ih.starNamedExpression).mark_passes ",").many_passes n |>.triple
  mvcgen [Read.display, Read.atListEnd, starNamedExpression, comprehension, others]
  all_goals grind

theorem entry_succ : Gives (Read.entry (n + 1)) (Passes ts fun _ => True) := by
  refine .of_triple fun c₀ => ?_
  have binary := (ih.binary 4).triple
  have expression := ih.expression.triple
  mvcgen [Read.entry, binary, expression]
  all_goals grind

theorem dictionary_succ : Gives (Read.dictionary (n + 1)) (Passes ts fun _ => True) := by
  refine .of_triple fun c₀ => ?_
  have entry := ih.entry.triple
  have others := ((ih.entry.mark_passes ",").many_passes n).triple
  have comprehension := ih.comprehension.triple
  mvcgen [Read.dictionary, entry, others, comprehension]
  all_goals grind

theorem yieldExpression_succ : Gives (Read.yieldExpression (n + 1)) (Reads ts) := by
  refine .of_triple fun c₀ => ?_
  have expression := ih.expression.triple
  have starExpressions := ih.starExpressions.triple
  mvcgen [Read.yieldExpression, Read.atListEnd, expression, starExpressions]
  all_goals grind

omit ih in
theorem formatted_succ (l : StringLiteral) :
    Gives (Read.formatted (n + 1) l) fun c _ c' => c' = c := by
  refine .of_triple fun c₀ => ?_
  mvcgen [Read.formatted]
  all_goals grind

theorem atom_succ : Gives (Read.atom (n + 1)) (Reads ts) := by
  refine .of_triple fun c₀ => ?_
  have strings := (gives_strings n).triple
  have dictionary := ih.dictionary.triple
  have display := ih.display.triple
  have yieldExpression := ih.yieldExpression.triple
  have formatted := fun l => (ih.formatted l).triple
  mvcgen [Read.atom, strings, dictionary, display, yieldExpression, formatted, Read.identifier]
  invariants
  · post⟨fun _ c => ⌜Opens c₀ c⌝, fun _ => ⌜True⌝⟩
  all_goals grind -zetaDelta

theorem parameters_succ (annotated : Bool) (phase : Read.ParameterPhase) :
    Gives (Read.parameters (n + 1) annotated phase) fun c _ c' => Continues c c' := by
  refine .of_triple fun c₀ => ?_
  have parameters := fun p => (ih.parameters annotated p).triple
  have expression := ih.expression.triple
  have starExpression := ih.starExpression.triple
  mvcgen [Read.parameters, parameters, expression, starExpression, Read.identifier]
  all_goals grind

end Understood

/-- A reader of no depth gives nothing. -/
theorem Understood.zero : Understood ts 0 := by
  constructor
  all_goals
    intros
    exact .of_none fun _ => rfl

/-- **At every depth the expression readers give what they should.** -/
theorem understood (ts : List Token) (n : Nat) : Understood ts n := by
  induction n with
  | zero => exact .zero
  | succ n ih =>
      exact {
        starExpressions := ih.starExpressions_succ
        starExpression := ih.starExpression_succ
        starNamedExpression := ih.starNamedExpression_succ
        namedExpression := ih.namedExpression_succ
        expression := ih.expression_succ
        binary := ih.binary_succ
        primary := ih.primary_succ
        trailers := ih.trailers_succ
        callArguments := ih.callArguments_succ
        arguments := ih.arguments_succ
        subscripts := ih.subscripts_succ
        subscriptItem := ih.subscriptItem_succ
        sliceBound := ih.sliceBound_succ
        comprehension := ih.comprehension_succ
        targets := ih.targets_succ
        target := ih.target_succ
        display := ih.display_succ
        entry := ih.entry_succ
        dictionary := ih.dictionary_succ
        yieldExpression := ih.yieldExpression_succ
        formatted := Understood.formatted_succ
        atom := ih.atom_succ
        parameters := ih.parameters_succ }

end Narrowing.ClassSource
