import Narrowing.Proofs.StructSource.Item
import Narrowing.StructSource.Expression

/-!
# Files on their tokens

Expressions and blocks close the circle: they hold types, patterns and items, and these
hold expressions.  One induction on the depth shows that all of their readers advance;
the readers that are handed down as `Inner` belong to it (`ExpressionsAdvance.inner`).

A file is a list of statements, so each of its structs is headed on its tokens.

## Main statements

* `expressionsAdvance` — the readers of expressions advance
* `headedOn_of_fileOf?` — each struct of a file is headed on its tokens
-/

set_option mvcgen.warning false

namespace Narrowing.StructSource

open Reading Reading.Cursor Reading.Reader Std.Do

/-! ## Operators -/

theorem advances_operator : Advances Read.operator := by
  refine .of_triple fun c₀ => ?_
  have arrow := (gives_nextMarks "=>").triple
  have any := (Advances.anyM advances_skipMarks Read.operators).triple
  mvcgen [Read.operator, arrow, any]
  all_goals grind

theorem gives_atOperandEnd : Gives Read.atOperandEnd fun c _ c' => c' = c := by
  refine .of_triple fun c₀ => ?_
  mvcgen [Read.atOperandEnd]
  all_goals grind

theorem advances_label : Advances Read.label := by
  refine .of_triple fun c₀ => ?_
  have lifetime := advances_lifetime.triple
  mvcgen [Read.label, lifetime]
  all_goals grind

/-! ## Expressions -/

/-- What the readers of expressions do at one depth. -/
structure ExpressionsAdvance (n : Nat) : Prop where
  expression (plain : Bool) : Advances (Read.expression plain n)
  operations (plain : Bool) : Advances (Read.operations plain n)
  operand (plain : Bool) : Advances (Read.operand plain n)
  applied : Advances (Read.applied n)
  argument : Advances (Read.argument n)
  closure (plain : Bool) : Advances (Read.closure plain n)
  atom (plain : Bool) : Advances (Read.atom plain n)
  structField : Advances (Read.structField n)
  blockLike : Advances (Read.blockLike n)
  finishedBlock : Advances (Read.finishedBlock n)
  arms : Advances (Read.arms n)
  block : Advances (Read.block n)
  statement (ts : List Token) : Gives (Read.statement n) (Passes ts (Item.HeadedOn ts))
  inner : (Read.inner n).Advances

namespace ExpressionsAdvance

variable {n : Nat} (ih : ExpressionsAdvance n)

include ih

theorem expression_succ (plain : Bool) : Advances (Read.expression plain (n + 1)) := by
  refine .of_triple fun c₀ => ?_
  have range := advances_skipRange.triple
  have ended := gives_atOperandEnd.triple
  have operations := (ih.operations plain).triple
  mvcgen [Read.expression, range, ended, operations]
  all_goals grind

theorem operations_succ (plain : Bool) : Advances (Read.operations plain (n + 1)) := by
  have further : Advances (do Read.operator; Read.operand plain n) := by
    refine .of_triple fun c₀ => ?_
    have operator := advances_operator.triple
    have operand := (ih.operand plain).triple
    mvcgen [operator, operand]
    grind
  refine .of_triple fun c₀ => ?_
  have operand := (ih.operand plain).triple
  have others := (further.many n).triple
  mvcgen [Read.operations, operand, others]
  grind

theorem operand_succ (plain : Bool) : Advances (Read.operand plain (n + 1)) := by
  have qualifier : Advances ((do
      word "raw"
      let _ ← takeIf fun t => Token.isWord "const" t || Token.isWord "mut" t) <|> word "mut") := by
    refine .of_triple fun c₀ => ?_
    mvcgen
    all_goals grind
  have suffixed : Advances (do
      Read.blockLike n <|> Read.atom plain n
      Read.applied n) := by
    refine .of_triple fun c₀ => ?_
    have base := (ih.blockLike.orElse (ih.atom plain)).triple
    have applied := ih.applied.triple
    mvcgen [-orElse_spec, base, applied]
    grind
  refine .of_triple fun c₀ => ?_
  have operand := fun plain => (ih.operand plain).triple
  have qualifier := qualifier.maybe.triple
  have ended := gives_atOperandEnd.triple
  have expression := (ih.expression plain).triple
  have label := advances_lifetime.maybe.triple
  have pattern := (patternsAdvance ih.inner n).pattern.triple
  have value := ((ih.closure plain).orElse suffixed).triple
  mvcgen [-orElse_spec, Read.operand, operand, qualifier, ended, expression, label, pattern, value]
  all_goals grind

theorem applied_succ : Advances (Read.applied (n + 1)) := by
  refine .of_triple fun c₀ => ?_
  have applied := ih.applied.triple
  have arguments := (advances_listIn ih.argument n "(" ")").triple
  have expression := (ih.expression false).triple
  have plainType := (typesAdvance ih.inner n).plainType.triple
  have next := fun m => (gives_nextMarks m).triple
  have member := ((advances_kind .name).orElse (advances_kind .number)).triple
  have colons := (advances_skipMarks "::").triple
  have typeArguments := (typesAdvance ih.inner n).typeArguments.triple
  mvcgen [-orElse_spec, Read.applied, applied, arguments, expression, plainType, next, member, colons,
    typeArguments]
  all_goals grind

theorem argument_succ : Advances (Read.argument (n + 1)) := by
  refine .of_triple fun c₀ => ?_
  have attributes := ((advances_attached ih.inner n).many n).triple
  have expression := (ih.expression false).triple
  mvcgen [Read.argument, attributes, expression]
  grind

theorem closure_succ (plain : Bool) : Advances (Read.closure plain (n + 1)) := by
  have parameter : Advances (do
      Read.plainPattern (Read.inner n) n
      if ← skip (Token.isMark ":") then Read.type (Read.inner n) n) := by
    refine .of_triple fun c₀ => ?_
    have pattern := (patternsAdvance ih.inner n).plainPattern.triple
    have type := (typesAdvance ih.inner n).type.triple
    mvcgen [pattern, type]
    all_goals grind
  refine .of_triple fun c₀ => ?_
  have marks := fun m => (advances_skipMarks m).triple
  have parameters := (parameter.separated n ",").maybe.triple
  have type := (typesAdvance ih.inner n).type.triple
  have block := ih.block.triple
  have expression := (ih.expression plain).triple
  mvcgen [Read.closure, marks, parameters, type, block, expression]
  all_goals grind

theorem atom_succ (plain : Bool) : Advances (Read.atom plain (n + 1)) := by
  have further : Advances (do mark ","; Read.argument n) := by
    refine .of_triple fun c₀ => ?_
    have argument := ih.argument.triple
    mvcgen [argument]
    grind
  refine .of_triple fun c₀ => ?_
  have arguments := (advances_listIn ih.argument n "(" ")").triple
  have argument := ih.argument.triple
  have expression := (ih.expression false).triple
  have others := (further.many n).triple
  have literal := advances_literal.triple
  have qualifiedSelf := (typesAdvance ih.inner n).qualifiedSelf.triple
  have path := (advances_valuePath ih.inner n).triple
  have next := fun m => (gives_nextMarks m).triple
  have tree := (advances_tokenTree n).triple
  have fields := (advances_listIn ih.structField n "\x7b" "\x7d").maybe.triple
  mvcgen [Read.atom, arguments, argument, expression, others, literal, qualifiedSelf, path, next, tree,
    fields]
  all_goals grind

theorem structField_succ : Advances (Read.structField (n + 1)) := by
  refine .of_triple fun c₀ => ?_
  have attributes := ((advances_attached ih.inner n).many n).triple
  have dots := (advances_skipMarks "..").triple
  have expression := (ih.expression false).triple
  have key := ((advances_kind .name).orElse (advances_kind .number)).triple
  mvcgen [-orElse_spec, Read.structField, attributes, dots, expression, key]
  all_goals grind

theorem blockLike_succ : Advances (Read.blockLike (n + 1)) := by
  refine .of_triple fun c₀ => ?_
  have block := ih.block.triple
  have label := advances_label.triple
  have blockLike := ih.blockLike.triple
  have expression := (ih.expression true).triple
  have arms := ih.arms.triple
  have pattern := (patternsAdvance ih.inner n).pattern.triple
  mvcgen [Read.blockLike, block, label, blockLike, expression, arms, pattern]
  all_goals grind

theorem finishedBlock_succ : Advances (Read.finishedBlock (n + 1)) := by
  refine .of_triple fun c₀ => ?_
  have blockLike := ih.blockLike.triple
  mvcgen [Read.finishedBlock, blockLike]
  all_goals grind

theorem arms_succ : Advances (Read.arms (n + 1)) := by
  refine .of_triple fun c₀ => ?_
  have attributes := ((advances_attached ih.inner n).many n).triple
  have pattern := (patternsAdvance ih.inner n).pattern.triple
  have expression := (ih.expression false).triple
  have arrow := (advances_marks "=>").triple
  have finished := ih.finishedBlock.maybe.triple
  have arms := ih.arms.triple
  mvcgen [Read.arms, attributes, pattern, expression, arrow, finished, arms]
  all_goals grind

theorem block_succ : Advances (Read.block (n + 1)) := by
  refine .of_triple fun c₀ => ?_
  have label := advances_label.triple
  have statements := ((ih.statement []).advances.many n).triple
  have expression := (ih.expression false).triple
  mvcgen [Read.block, label, statements, expression]
  all_goals grind

theorem statement_succ (ts : List Token) :
    Gives (Read.statement (n + 1)) (Passes ts (Item.HeadedOn ts)) := by
  have item := (itemsHeaded ih.inner n ts).item
  rw [Read.statement]
  refine item.orElse <| .orElse (.of_triple fun c₀ => ?_) (.of_triple fun c₀ => ?_)
  · have finished := ih.finishedBlock.triple
    mvcgen [finished]
    grind [Passes, Item.Each]
  · have expression := (ih.expression false).triple
    mvcgen [expression]
    grind [Passes, Item.Each]

theorem inner_succ : (Read.inner (n + 1)).Advances := by
  rw [Read.inner]
  have nothing : Advances (failure : Reader Unit) := .of_none fun _ => rfl
  exact ⟨ih.expression false, ih.block,
    (patternsAdvance ⟨ih.expression false, ih.block, nothing⟩ n).pattern⟩

end ExpressionsAdvance

/-- **The readers of expressions advance**, whatever is nested in them. -/
theorem expressionsAdvance (n : Nat) : ExpressionsAdvance n := by
  induction n with
  | zero =>
      have nothing {α : Type} {R : Cursor → α → Cursor → Prop} : Gives (failure : Reader α) R :=
        .of_none fun _ => rfl
      exact {
        expression := fun _ => nothing
        operations := fun _ => nothing
        operand := fun _ => nothing
        applied := nothing
        argument := nothing
        closure := fun _ => nothing
        atom := fun _ => nothing
        structField := nothing
        blockLike := nothing
        finishedBlock := nothing
        arms := nothing
        block := nothing
        statement := fun _ => nothing
        inner := ⟨nothing, nothing, nothing⟩ }
  | succ n ih =>
      exact {
        expression := ih.expression_succ
        operations := ih.operations_succ
        operand := ih.operand_succ
        applied := ih.applied_succ
        argument := ih.argument_succ
        closure := ih.closure_succ
        atom := ih.atom_succ
        structField := ih.structField_succ
        blockLike := ih.blockLike_succ
        finishedBlock := ih.finishedBlock_succ
        arms := ih.arms_succ
        block := ih.block_succ
        statement := ih.statement_succ
        inner := ih.inner_succ }

/-! ## Files -/

/-- **Each struct of a file is headed on its tokens**, in whatever module it stands. -/
theorem headedOn_of_fileOf? {source : List Char} {items : List Item} {comments : List Span}
    (read : fileOf? source = some (items, comments)) :
    ∃ pieces, piecesOf? source = some pieces ∧ pieces.comments = comments ∧
      ∀ item ∈ items, item.HeadedOn pieces.tokens := by
  obtain ⟨pieces, scanned, read⟩ := Option.bind_eq_some_iff.mp read
  obtain ⟨⟨items', left⟩, run, read⟩ := Option.bind_eq_some_iff.mp read
  dsimp only at read
  split at read
  · cases read
    have statements := ((expressionsAdvance _).statement pieces.tokens).many_passes _ _ _ _ run
    exact ⟨pieces, scanned, rfl, statements.2 List.suffix_rfl⟩
  · cases read

end Narrowing.StructSource
