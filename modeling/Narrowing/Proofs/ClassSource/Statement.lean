import Narrowing.ClassSource.Statement
import Narrowing.Proofs.ClassSource.Expression

/-!
# The markers of a module

The statement readers only pass on what the expression readers give them.  Of a module
that was read, every decorator of a class and every annotation in a class body is
therefore legible: the calls that can be markers in it can be read again.

Patterns and the statements without blocks hold neither; of their readers it only
matters that they stay on the token list (`Passes` with nothing to say).

## Main statements

* `exists_legible_of_moduleOf?` — the classes of a module that was read are legible
-/

set_option mvcgen.warning false

namespace Narrowing.ClassSource

open Reading Reading.Cursor Reading.Reader Std.Do

variable {ts : List Token}

/-- The reader stays on its token list. -/
abbrev Stays {α : Type} (m : Reader α) (ts : List Token) : Prop :=
  Gives m (Passes ts fun _ => True)

/-! ## Patterns -/

theorem stays_identifier (ts : List Token) : Stays Read.identifier ts := by
  refine .of_triple fun c₀ => ?_
  mvcgen [Read.identifier]
  grind

theorem stays_numberPattern (ts : List Token) : Stays Read.numberPattern ts := by
  refine .of_triple fun c₀ => ?_
  mvcgen [Read.numberPattern]
  all_goals grind

theorem stays_literalPattern (ts : List Token) (n : Nat) : Stays (Read.literalPattern n) ts := by
  refine .of_triple fun c₀ => ?_
  have atom := (understood ts n).atom.triple
  have number := (stays_numberPattern ts).triple
  mvcgen [Read.literalPattern, atom, number]
  all_goals grind

theorem stays_dottedName (ts : List Token) (n : Nat) : Stays (Read.dottedName n) ts := by
  refine .of_triple fun c₀ => ?_
  have names := ((stays_identifier ts).separated_passes n ".").triple
  mvcgen [Read.dottedName, names]
  all_goals grind

theorem stays_captureName (ts : List Token) : Stays Read.captureName ts := by
  refine .of_triple fun c₀ => ?_
  mvcgen [Read.captureName, Read.identifier]
  all_goals grind

/-- What the pattern readers give at one depth: nothing that is kept. -/
structure UnderstoodPatterns (ts : List Token) (n : Nat) : Prop where
  pattern : Stays (Read.pattern n) ts
  closedPattern : Stays (Read.closedPattern n) ts
  sequencePattern : Stays (Read.sequencePattern n) ts
  elementPattern : Stays (Read.elementPattern n) ts
  mappingPattern : Stays (Read.mappingPattern n) ts
  classArguments (named : Bool) : Stays (Read.classArguments n named) ts

namespace UnderstoodPatterns

variable {n : Nat} (ih : UnderstoodPatterns ts n)

include ih

theorem pattern_succ : Stays (Read.pattern (n + 1)) ts := by
  refine .of_triple fun c₀ => ?_
  have closed := (ih.closedPattern.separated_passes n "|").triple
  have capture := (stays_captureName ts).triple
  mvcgen [Read.pattern, closed, capture]
  all_goals grind

theorem closedPattern_succ : Stays (Read.closedPattern (n + 1)) ts := by
  refine .of_triple fun c₀ => ?_
  have sequencePattern := ih.sequencePattern.triple
  have mappingPattern := ih.mappingPattern.triple
  have dottedName := (stays_dottedName ts n).triple
  have classArguments := (ih.classArguments false).triple
  have literal := (stays_literalPattern ts n).triple
  mvcgen [Read.closedPattern, sequencePattern, mappingPattern, dottedName, classArguments, literal]
  all_goals grind

theorem sequencePattern_succ : Stays (Read.sequencePattern (n + 1)) ts := by
  refine .of_triple fun c₀ => ?_
  have elementPattern := ih.elementPattern.triple
  have others := ((ih.elementPattern.mark_passes ",").many_passes n).triple
  mvcgen [Read.sequencePattern, elementPattern, others]
  all_goals grind

theorem elementPattern_succ : Stays (Read.elementPattern (n + 1)) ts := by
  refine .of_triple fun c₀ => ?_
  have pattern := ih.pattern.triple
  have capture := (stays_captureName ts).triple
  mvcgen [Read.elementPattern, pattern, capture, Read.identifier]
  all_goals grind

theorem mappingPattern_succ : Stays (Read.mappingPattern (n + 1)) ts := by
  refine .of_triple fun c₀ => ?_
  have pattern := ih.pattern.triple
  have mappingPattern := ih.mappingPattern.triple
  have capture := (stays_captureName ts).triple
  have dottedName := (stays_dottedName ts n).triple
  have literal := (stays_literalPattern ts n).triple
  mvcgen [Read.mappingPattern, pattern, mappingPattern, capture, dottedName, literal]
  all_goals grind

theorem classArguments_succ (named : Bool) : Stays (Read.classArguments (n + 1) named) ts := by
  refine .of_triple fun c₀ => ?_
  have pattern := ih.pattern.triple
  have classArguments := fun named => (ih.classArguments named).triple
  mvcgen [Read.classArguments, pattern, classArguments, Read.identifier]
  all_goals grind

end UnderstoodPatterns

theorem understoodPatterns (ts : List Token) (n : Nat) : UnderstoodPatterns ts n := by
  induction n with
  | zero =>
      constructor
      all_goals
        intros
        exact .of_none fun _ => rfl
  | succ n ih =>
      exact {
        pattern := ih.pattern_succ
        closedPattern := ih.closedPattern_succ
        sequencePattern := ih.sequencePattern_succ
        elementPattern := ih.elementPattern_succ
        mappingPattern := ih.mappingPattern_succ
        classArguments := ih.classArguments_succ }

theorem stays_casePattern (ts : List Token) (n : Nat) : Stays (Read.casePattern n) ts := by
  refine .of_triple fun c₀ => ?_
  have element := (understoodPatterns ts n).elementPattern
  have first := element.triple
  have others := ((element.mark_passes ",").many_passes n).triple
  mvcgen [Read.casePattern, first, others]
  all_goals grind

/-! ## Statements without blocks -/

/-- **The markers in a statement can be read again**: those among the decorators of a class and
those in the annotations of its body. -/
inductive Statement.Legible (ts : List Token) : Statement → Prop
  | classDef (start : Nat) (name : String) (typeParams : List String) {decorators : List Expr}
      (bases : List Expr) {body : List Statement}
      (decorated : ∀ e ∈ decorators, ClassSource.Legible ts e)
      (inner : ∀ s ∈ body, Legible ts s) :
      Legible ts (.classDef start name typeParams decorators bases body)
  | annotated (start : Nat) (target : Expr) {hint : Expr} (hinted : ClassSource.Legible ts hint) :
      Legible ts (.annotated start target hint)
  | compound {blocks : List (List Statement)} (inner : ∀ b ∈ blocks, ∀ s ∈ b, Legible ts s) :
      Legible ts (.compound blocks)
  | simple : Legible ts .simple

attribute [grind ←] Statement.Legible.classDef Statement.Legible.annotated
  Statement.Legible.compound Statement.Legible.simple

theorem stays_plainName (ts : List Token) : Stays Read.plainName ts := by
  refine .of_triple fun c₀ => ?_
  mvcgen [Read.plainName, Read.identifier]
  grind

theorem stays_renamed {name : Reader Unit} (stays : Stays name ts) : Stays (Read.renamed name) ts := by
  refine .of_triple fun c₀ => ?_
  have name := stays.triple
  mvcgen [Read.renamed, name, Read.identifier]
  all_goals grind

theorem stays_importFrom (ts : List Token) (n : Nat) : Stays (Read.importFrom n) ts := by
  have dot : Stays (takeIf fun t => Token.isMark "." t || Token.isMark "..." t) ts := by
    refine .of_triple fun c₀ => ?_
    mvcgen
    grind
  refine .of_triple fun c₀ => ?_
  have dots := (dot.many_passes n).triple
  have dottedName := (stays_dottedName ts n).triple
  have names := ((stays_renamed (stays_plainName ts)).separated_passes n ",").triple
  mvcgen [Read.importFrom, dots, dottedName, names]
  all_goals grind

theorem stays_starExpressions (ts : List Token) (n : Nat) : Stays (Read.starExpressions n) ts :=
  fun c e c' run => ⟨((understood ts n).starExpressions c e c' run).1.reaches, fun _ => trivial⟩

theorem stays_assignedValue (ts : List Token) (n : Nat) : Stays (Read.assignedValue n) ts := by
  refine .of_triple fun c₀ => ?_
  have yieldExpression := (understood ts n).yieldExpression.triple
  have starExpressions := (stays_starExpressions ts n).triple
  mvcgen [Read.assignedValue, yieldExpression, starExpressions]
  all_goals grind

theorem stays_assignments (ts : List Token) (n count : Nat) (e : Expr) : Stays (Read.assignments n count e) ts := by
  induction count generalizing e with
  | zero =>
      intro c a c' run
      cases run
  | succ count ih =>
      refine .of_triple fun c₀ => ?_
      have value := (stays_assignedValue ts n).triple
      have others := fun e => (ih e).triple
      mvcgen [Read.assignments, value, others]
      all_goals grind

theorem gives_expressionStatement (ts : List Token) (n : Nat) :
    Gives (Read.expressionStatement n) (Passes ts (Statement.Legible ts)) := by
  refine .of_triple fun c₀ => ?_
  have value := (stays_assignedValue ts n).triple
  have expression := (understood ts n).expression.triple
  have assignments := fun e => (stays_assignments ts n n e).triple
  mvcgen [Read.expressionStatement, value, expression, assignments]
  all_goals grind

theorem stays_keywordStatement (ts : List Token) (n : Nat) (keyword : String) :
    Stays (Read.keywordStatement n keyword) ts := by
  refine .of_triple fun c₀ => ?_
  have starExpressions := (stays_starExpressions ts n).triple
  have expression := (understood ts n).expression.triple
  have names := ((stays_identifier ts).separated_passes n ",").triple
  have dotted : Stays (do let _ ← Read.dottedName n) ts := by
    refine .of_triple fun c₀ => ?_
    have dottedName := (stays_dottedName ts n).triple
    mvcgen [dottedName]
    grind
  have modules := ((stays_renamed dotted).separated_passes n ",").triple
  mvcgen [Read.keywordStatement, starExpressions, expression, names, modules]
  all_goals grind

theorem gives_simpleStatement (ts : List Token) (n : Nat) :
    Gives (Read.simpleStatement n) (Passes ts (Statement.Legible ts)) := by
  refine .of_triple fun c₀ => ?_
  have importFrom := (stays_importFrom ts n).triple
  have keyword := fun w => (stays_keywordStatement ts n w).triple
  have expression := (gives_expressionStatement ts n).triple
  mvcgen [Read.simpleStatement, importFrom, keyword, expression]
  all_goals grind

theorem gives_simpleStatements (ts : List Token) (n : Nat) :
    Gives (Read.simpleStatements n) (Passes ts fun l => ∀ s ∈ l, s.Legible ts) := by
  refine .of_triple fun c₀ => ?_
  have all := ((gives_simpleStatement ts n).separated_passes n ";").triple
  mvcgen [Read.simpleStatements, all]
  all_goals grind

/-! ## Statements with blocks -/

theorem stays_withItems (ts : List Token) (n : Nat) : Stays (Read.withItems n) ts := by
  have item : Stays (do
      let _ ← Read.expression n
      if ← skip (Token.isWord "as") then Read.target n) ts := by
    refine .of_triple fun c₀ => ?_
    have expression := (understood ts n).expression.triple
    have target := (understood ts n).target.triple
    mvcgen [expression, target]
    all_goals grind
  refine .of_triple fun c₀ => ?_
  have items := (item.separated_passes n ",").triple
  mvcgen [Read.withItems, items]
  all_goals grind

theorem stays_withHead (ts : List Token) (n : Nat) : Stays (Read.withHead n) ts := by
  refine .of_triple fun c₀ => ?_
  have items := (stays_withItems ts n).triple
  mvcgen [Read.withHead, items]
  all_goals grind

theorem stays_matchHead (ts : List Token) (n : Nat) : Stays (Read.matchHead n) ts := by
  refine .of_triple fun c₀ => ?_
  have gives := (understood ts n).starNamedExpression
  have first := gives.triple
  have others := ((Reads.gives_passes gives).mark_passes ",").many_passes n |>.triple
  mvcgen [Read.matchHead, first, others]
  all_goals grind

/-- **What the statement readers give at one depth**: statements whose markers can be read again. -/
structure UnderstoodStatements (ts : List Token) (n : Nat) : Prop where
  statements : Gives (Read.statements n) (Passes ts fun l => ∀ s ∈ l, s.Legible ts)
  block : Gives (Read.block n) (Passes ts fun l => ∀ s ∈ l, s.Legible ts)
  definition (decorators : List Expr) : Gives (Read.definition n decorators) (Passes ts fun s =>
    (∀ e ∈ decorators, Legible ts e) → s.Legible ts)
  loopOrContext : Gives (Read.loopOrContext n) (Passes ts fun bs =>
    ∀ b ∈ bs, ∀ s ∈ b, s.Legible ts)
  branches : Gives (Read.branches n) (Passes ts fun bs => ∀ b ∈ bs, ∀ s ∈ b, s.Legible ts)
  elseBlock : Gives (Read.elseBlock n) (Passes ts fun bs => ∀ b ∈ bs, ∀ s ∈ b, s.Legible ts)
  handlers : Gives (Read.handlers n) (Passes ts fun bs => ∀ b ∈ bs, ∀ s ∈ b, s.Legible ts)
  matchStatement : Gives (Read.matchStatement n) (Passes ts fun bs =>
    ∀ b ∈ bs, ∀ s ∈ b, s.Legible ts)

namespace UnderstoodStatements

variable {n : Nat} (ih : UnderstoodStatements ts n)

include ih

theorem statements_succ :
    Gives (Read.statements (n + 1)) (Passes ts fun l => ∀ s ∈ l, s.Legible ts) := by
  have decorator : Gives (do
      mark "@"
      let e ← Read.namedExpression n
      kind .newline
      return e) (Passes ts (Legible ts)) := by
    refine .of_triple fun c₀ => ?_
    have namedExpression := (understood ts n).namedExpression.triple
    mvcgen [namedExpression]
    grind
  refine .of_triple fun c₀ => ?_
  have decorators := (decorator.some1_passes n).triple
  have namedExpression := (understood ts n).namedExpression.triple
  have simple := (gives_simpleStatements ts n).triple
  have definition := fun ds => (ih.definition ds).triple
  have block := ih.block.triple
  have branches := ih.branches.triple
  have elseBlock := ih.elseBlock.triple
  have loopOrContext := ih.loopOrContext.triple
  have handlers := ih.handlers.triple
  have matchStatement := ih.matchStatement.triple
  mvcgen [Read.statements, decorators, namedExpression, simple, definition, block, branches,
    elseBlock, loopOrContext, handlers, matchStatement]
  all_goals grind

theorem block_succ :
    Gives (Read.block (n + 1)) (Passes ts fun l => ∀ s ∈ l, s.Legible ts) := by
  refine .of_triple fun c₀ => ?_
  have all := (ih.statements.some1_passes n).triple
  have simple := (gives_simpleStatements ts n).triple
  mvcgen [Read.block, all, simple]
  all_goals grind [List.mem_flatten]

theorem definition_succ (decorators : List Expr) :
    Gives (Read.definition (n + 1) decorators) (Passes ts fun s =>
      (∀ e ∈ decorators, Legible ts e) → s.Legible ts) := by
  refine .of_triple fun c₀ => ?_
  have arguments := ((understood ts n).arguments .positional {}).triple
  have parameters := ((understood ts n).parameters true {}).triple
  have expression := (understood ts n).expression.triple
  have block := ih.block.triple
  have loopOrContext := ih.loopOrContext.triple
  mvcgen [Read.definition, arguments, parameters, expression, block, loopOrContext,
    Read.identifier]
  all_goals grind

theorem loopOrContext_succ : Gives (Read.loopOrContext (n + 1)) (Passes ts fun bs =>
    ∀ b ∈ bs, ∀ s ∈ b, s.Legible ts) := by
  refine .of_triple fun c₀ => ?_
  have targets := (understood ts n).targets.triple
  have starExpressions := (stays_starExpressions ts n).triple
  have withHead := (stays_withHead ts n).triple
  have block := ih.block.triple
  have elseBlock := ih.elseBlock.triple
  mvcgen [Read.loopOrContext, targets, starExpressions, withHead, block, elseBlock]
  all_goals grind

theorem branches_succ : Gives (Read.branches (n + 1)) (Passes ts fun bs =>
    ∀ b ∈ bs, ∀ s ∈ b, s.Legible ts) := by
  refine .of_triple fun c₀ => ?_
  have namedExpression := (understood ts n).namedExpression.triple
  have block := ih.block.triple
  have branches := ih.branches.triple
  have elseBlock := ih.elseBlock.triple
  mvcgen [Read.branches, namedExpression, block, branches, elseBlock]
  all_goals grind

theorem elseBlock_succ : Gives (Read.elseBlock (n + 1)) (Passes ts fun bs =>
    ∀ b ∈ bs, ∀ s ∈ b, s.Legible ts) := by
  refine .of_triple fun c₀ => ?_
  have block := ih.block.triple
  mvcgen [Read.elseBlock, block]
  all_goals grind

theorem handlers_succ : Gives (Read.handlers (n + 1)) (Passes ts fun bs =>
    ∀ b ∈ bs, ∀ s ∈ b, s.Legible ts) := by
  have handler : ∀ groups : Bool, Gives (do
      word "except"
      if groups then mark "*"
      if groups || !(← next (Token.isMark ":")) then
        let _ ← Read.expression n
        if ← skip (Token.isWord "as") then
          let _ ← Read.identifier
      mark ":"
      Read.block n) (Passes ts fun b => ∀ s ∈ b, s.Legible ts) := fun groups => by
    refine .of_triple fun c₀ => ?_
    have expression := (understood ts n).expression.triple
    have block := ih.block.triple
    mvcgen [expression, block, Read.identifier]
    all_goals grind
  refine .of_triple fun c₀ => ?_
  have caught := fun groups => ((handler groups).many_passes n).triple
  have elseBlock := ih.elseBlock.triple
  have block := ih.block.triple
  mvcgen [Read.handlers, caught, elseBlock, block]
  all_goals grind

theorem matchStatement_succ : Gives (Read.matchStatement (n + 1)) (Passes ts fun bs =>
    ∀ b ∈ bs, ∀ s ∈ b, s.Legible ts) := by
  have case : Gives (do
      word "case"
      Read.casePattern n
      if ← skip (Token.isWord "if") then
        let _ ← Read.namedExpression n
      mark ":"
      Read.block n) (Passes ts fun b => ∀ s ∈ b, s.Legible ts) := by
    refine .of_triple fun c₀ => ?_
    have pattern := (stays_casePattern ts n).triple
    have namedExpression := (understood ts n).namedExpression.triple
    have block := ih.block.triple
    mvcgen [pattern, namedExpression, block]
    all_goals grind
  refine .of_triple fun c₀ => ?_
  have head := (stays_matchHead ts n).triple
  have cases := (case.some1_passes n).triple
  mvcgen [Read.matchStatement, head, cases]
  all_goals grind

end UnderstoodStatements

theorem understoodStatements (ts : List Token) (n : Nat) : UnderstoodStatements ts n := by
  induction n with
  | zero =>
      constructor
      all_goals
        intros
        exact .of_none fun _ => rfl
  | succ n ih =>
      exact {
        statements := ih.statements_succ
        block := ih.block_succ
        definition := ih.definition_succ
        loopOrContext := ih.loopOrContext_succ
        branches := ih.branches_succ
        elseBlock := ih.elseBlock_succ
        handlers := ih.handlers_succ
        matchStatement := ih.matchStatement_succ }

/-! ## Modules -/

/-- The markers of a class can be read again. -/
structure FoundClass.Legible (ts : List Token) (c : FoundClass) : Prop where
  decorators : ∀ e ∈ c.decorators, ClassSource.Legible ts e
  body : ∀ s ∈ c.body, s.Legible ts

mutual

theorem Statement.Legible.of_mem_classesIn {topLevel : Bool} {c : FoundClass} {s : Statement}
    (legible : s.Legible ts) (member : c ∈ s.classesIn topLevel) : c.Legible ts := by
  cases s with
  | classDef start name typeParams decorators bases body =>
      obtain ⟨_, _, _, _, decorated, inner⟩ := legible
      rw [Statement.classesIn, List.mem_cons] at member
      rcases member with rfl | member
      · exact ⟨decorated, inner⟩
      · exact legible_of_mem_classesInList inner member
  | annotated | simple => cases member
  | compound blocks =>
      rw [Statement.classesIn] at member
      cases legible with
      | compound inner => exact legible_of_mem_classesInBlocks inner member

theorem legible_of_mem_classesInList {topLevel : Bool} {c : FoundClass} {l : List Statement}
    (legible : ∀ s ∈ l, s.Legible ts) (member : c ∈ Statement.classesInList topLevel l) :
    c.Legible ts := by
  cases l with
  | nil => cases member
  | cons s rest =>
      rw [List.forall_mem_cons] at legible
      rw [Statement.classesInList, List.mem_append] at member
      rcases member with member | member
      · exact legible.1.of_mem_classesIn member
      · exact legible_of_mem_classesInList legible.2 member

theorem legible_of_mem_classesInBlocks {c : FoundClass} {bs : List (List Statement)}
    (legible : ∀ b ∈ bs, ∀ s ∈ b, s.Legible ts) (member : c ∈ Statement.classesInBlocks bs) :
    c.Legible ts := by
  cases bs with
  | nil => cases member
  | cons b rest =>
      rw [List.forall_mem_cons] at legible
      rw [Statement.classesInBlocks, List.mem_append] at member
      rcases member with member | member
      · exact legible_of_mem_classesInList legible.1 member
      · exact legible_of_mem_classesInBlocks legible.2 member

end

theorem gives_module (ts : List Token) (depth : Nat) :
    Gives (do
      let all ← many depth (Read.statements depth)
      kind .endOfSource
      return all.flatten) (Passes ts fun l => ∀ s ∈ l, s.Legible ts) := by
  refine .of_triple fun c₀ => ?_
  have all := ((understoodStatements ts depth).statements.many_passes depth).triple
  mvcgen [all]
  grind [List.mem_flatten]

/-- **The classes of a module that was read are legible** on its tokens. -/
theorem exists_legible_of_moduleOf? {source : List Char} {module : List Statement}
    (read : moduleOf? source = some module) :
    ∃ ts, tokensOf? source = some ts ∧ ∀ c ∈ Statement.classes module, c.Legible ts := by
  unfold moduleOf? at read
  simp only [Option.bind_eq_bind, Option.bind_eq_some_iff] at read
  obtain ⟨-, -, ts, cut, ⟨all, c'⟩, run, same⟩ := read
  cases same
  have legible := (gives_module ts _ _ _ _ run).2 List.suffix_rfl
  exact ⟨ts, cut, fun c member => legible_of_mem_classesInList legible member⟩

end Narrowing.ClassSource
