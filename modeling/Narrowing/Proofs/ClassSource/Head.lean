import Narrowing.Proofs.ClassSource.Statement
import Narrowing.Proofs.ClassSource.Token

/-!
# Where classes begin

A class begins with a keyword that stands nowhere else in a module.  Its positions are
therefore the places of the classes, whatever holds them: this module follows the
readers and shows that each of these keywords has become a class of the tree, and that
the tree lists them in the order of the text.

`ahead` gives the positions that a cursor has not come to, and a reader *finds* some of
them (`Finds`) when these are all that it has passed.

* Readers of expressions and patterns find none (`Classless`): a word that they take is
  either a name, which is no keyword, or another keyword.
* Readers of statements find the places of the classes in what they give
  (`Statement.placesIn`).  A branch of a compound statement that was read and then left
  out of the tree would show here.

## Main statements

* `map_start_classes` — the classes of a module stand exactly at the keywords of classes
* `pairwise_start_classes` — they are listed in the order of their places
-/

set_option mvcgen.warning false

namespace Narrowing.ClassSource

open Reading Reading.Cursor Reading.Reader Std.Do

/-! ## The keyword of a class -/

/-- The places of the classes in a token list: where their keyword stands. -/
def classPlaces (ts : List Token) : List Nat := (ts.filter (Token.isWord "class")).map Token.start

/-- The places that a cursor has not come to. -/
def ahead (c : Cursor) : List Nat := classPlaces c.tokens

/-- A token that is no keyword of a class leaves all places ahead. -/
theorem ahead_of_takes {c c' : Cursor} {t : Token} (takes : Takes c t c')
    (other : t.isWord "class" = false) : ahead c = ahead c' := by
  rw [ahead, ahead, classPlaces, classPlaces, takes.tokens, List.filter_cons_of_neg (by simp [other])]

/-- The keyword of a class is the first place that was ahead. -/
theorem ahead_of_takes_class {c c' : Cursor} {t : Token} (takes : Takes c t c')
    (keyword : t.isWord "class" = true) : ahead c = c.here :: ahead c' := by
  rw [ahead, ahead, classPlaces, classPlaces, takes.here_eq, takes.tokens,
    List.filter_cons_of_pos keyword, List.map_cons]

/-- A name is no keyword. -/
theorem isWord_of_isIdentifier {t : Token} (identifier : isIdentifier t = true) :
    t.isWord "class" = false := by
  rw [isIdentifier, Bool.and_eq_true, decide_eq_true_eq] at identifier
  rw [Token.isWord, Bool.and_eq_false_iff]
  refine .inr (beq_false_of_ne fun same => identifier.2 ?_)
  rw [same]
  decide

attribute [grind →] ahead_of_takes ahead_of_takes_class isWord_of_isIdentifier
attribute [grind =] Token.isWord Token.isMark

/-! ## Finding places -/

section Finding

variable {α : Type} {thing : Reader α} {f : α → List Nat}

/-- **What a reader finds**: the places that it passes are those that its result tells. -/
abbrev Finds (m : Reader α) (f : α → List Nat) : Prop := Gives m fun c a c' => ahead c = f a ++ ahead c'

/-- The reader passes no class. -/
abbrev Classless (m : Reader α) : Prop := Finds m fun _ => []

/-- What things pass one behind the other they pass together. -/
theorem ahead_of_chain {c c' : Cursor} {l : List α}
    (chain : Chain (fun c a c' => ahead c = f a ++ ahead c') c l c') :
    ahead c = l.flatMap f ++ ahead c' := by
  induction chain with
  | nil => rfl
  | cons first _ ih => rw [first, ih, List.flatMap_cons, List.append_assoc]

theorem Finds.many (finds : Finds thing f) (count : Nat) :
    Finds (many count thing) fun l => l.flatMap f :=
  fun c l c' run => ahead_of_chain (finds.many_chain count c l c' run)

theorem Finds.some1 (finds : Finds thing f) (count : Nat) :
    Finds (some1 count thing) fun l => l.flatMap f :=
  fun c l c' run => ahead_of_chain (finds.some1_chain count c l c' run)

/-- A mark in front of a thing changes nothing. -/
theorem Finds.mark_then (finds : Finds thing f) (m : String) : Finds (do mark m; thing) f := by
  refine .of_triple fun c₀ => ?_
  have thing := finds.triple
  mvcgen [thing]
  grind

theorem Finds.separated (finds : Finds thing f) (count : Nat) (m : String) :
    Finds (separated count m thing) fun l => l.flatMap f := by
  have behind : ∀ c t c' a c'', Takes c t c' → t.isMark m = true → ahead c' = f a ++ ahead c'' →
      ahead c = f a ++ ahead c'' := by grind
  exact fun c l c' run => ahead_of_chain (finds.separated_chain count m behind c l c' run)

/-- Things without classes have none together. -/
theorem flatMap_nil (l : List α) : (l.flatMap fun _ => ([] : List Nat)) = [] := by simp

theorem Classless.many (classless : Classless thing) (count : Nat) : Classless (many count thing) :=
  fun c l c' run => flatMap_nil l ▸ Finds.many classless count c l c' run

theorem Classless.some1 (classless : Classless thing) (count : Nat) : Classless (some1 count thing) :=
  fun c l c' run => flatMap_nil l ▸ Finds.some1 classless count c l c' run

theorem Classless.separated (classless : Classless thing) (count : Nat) (m : String) :
    Classless (separated count m thing) :=
  fun c l c' run => flatMap_nil l ▸ Finds.separated classless count m c l c' run

/-- Another keyword in front of a thing changes nothing. -/
theorem Classless.word_then (classless : Classless thing) {w : String} (other : w ≠ "class") :
    Classless (do word w; thing) := by
  refine .of_triple fun c₀ => ?_
  have thing := classless.triple
  mvcgen [thing]
  grind

/-- A token that is no keyword of a class. -/
theorem classless_takeIf {condition : Token → Bool} (other : ∀ t, condition t = true → t.isWord "class" = false) :
    Classless (takeIf condition) := by
  refine .of_triple fun c₀ => ?_
  mvcgen
  grind

end Finding

theorem classless_identifier : Classless Read.identifier := by
  refine .of_triple fun c₀ => ?_
  mvcgen [Read.identifier]
  grind

/-! ## Expressions -/

theorem classless_operator (level : Nat) : Classless (Read.operator level) := by
  refine .of_triple fun c₀ => ?_
  mvcgen [Read.operator, Read.comparison]
  all_goals grind

/-- The expression readers of one depth find no class. -/
structure ClasslessExpressions (n : Nat) : Prop where
  starExpressions : Classless (Read.starExpressions n)
  starExpression : Classless (Read.starExpression n)
  starNamedExpression : Classless (Read.starNamedExpression n)
  namedExpression : Classless (Read.namedExpression n)
  expression : Classless (Read.expression n)
  binary (level : Nat) : Classless (Read.binary n level)
  primary : Classless (Read.primary n)
  trailers (start : Nat) (e : Expr) : Classless (Read.trailers n start e)
  callArguments : Classless (Read.callArguments n)
  arguments (phase : Read.ArgumentPhase) (a : Read.Arguments) : Classless (Read.arguments n phase a)
  subscripts : Classless (Read.subscripts n)
  subscriptItem : Classless (Read.subscriptItem n)
  sliceBound : Classless (Read.sliceBound n)
  comprehension : Classless (Read.comprehension n)
  targets : Classless (Read.targets n)
  target : Classless (Read.target n)
  display : Classless (Read.display n)
  entry : Classless (Read.entry n)
  dictionary : Classless (Read.dictionary n)
  yieldExpression : Classless (Read.yieldExpression n)
  /-- The expressions inside a literal are read on tokens of their own. -/
  formatted (l : StringLiteral) : Gives (Read.formatted n l) fun c _ c' => c' = c
  atom : Classless (Read.atom n)
  parameters (annotated : Bool) (phase : Read.ParameterPhase) :
    Classless (Read.parameters n annotated phase)

namespace ClasslessExpressions

variable {n : Nat} (ih : ClasslessExpressions n)

include ih

theorem starExpressions_succ : Classless (Read.starExpressions (n + 1)) := by
  refine .of_triple fun c₀ => ?_
  have starExpression := ih.starExpression.triple
  have others := (Classless.many (ih.starExpression.mark_then ",") n).triple
  mvcgen [Read.starExpressions, starExpression, others]
  all_goals grind

theorem starExpression_succ : Classless (Read.starExpression (n + 1)) := by
  refine .of_triple fun c₀ => ?_
  have expression := ih.expression.triple
  have binary := (ih.binary 4).triple
  mvcgen [Read.starExpression, expression, binary]
  all_goals grind

theorem starNamedExpression_succ : Classless (Read.starNamedExpression (n + 1)) := by
  refine .of_triple fun c₀ => ?_
  have namedExpression := ih.namedExpression.triple
  have binary := (ih.binary 4).triple
  mvcgen [Read.starNamedExpression, namedExpression, binary]
  all_goals grind

theorem namedExpression_succ : Classless (Read.namedExpression (n + 1)) := by
  refine .of_triple fun c₀ => ?_
  have expression := ih.expression.triple
  have identifier := classless_identifier.triple
  mvcgen [Read.namedExpression, expression, identifier]
  all_goals grind

theorem expression_succ : Classless (Read.expression (n + 1)) := by
  refine .of_triple fun c₀ => ?_
  have parameters := (ih.parameters false {}).triple
  have expression := ih.expression.triple
  have binary := (ih.binary 0).triple
  mvcgen [Read.expression, parameters, expression, binary]
  all_goals grind

theorem binary_succ (level : Nat) : Classless (Read.binary (n + 1) level) := by
  have operand : Classless (do Read.operator level; Read.binary n (level + 1)) := by
    refine .of_triple fun c₀ => ?_
    have operator := (classless_operator level).triple
    have binary := (ih.binary (level + 1)).triple
    mvcgen [operator, binary]
    grind
  refine .of_triple fun c₀ => ?_
  have binary := fun level => (ih.binary level).triple
  have primary := ih.primary.triple
  have operands := (Classless.many operand n).triple
  mvcgen [Read.binary, binary, primary, operands]
  all_goals grind

theorem primary_succ : Classless (Read.primary (n + 1)) := by
  refine .of_triple fun c₀ => ?_
  have primary := ih.primary.triple
  have atom := ih.atom.triple
  have trailers := fun start e => (ih.trailers start e).triple
  mvcgen [Read.primary, primary, atom, trailers]
  all_goals grind

theorem trailers_succ (start : Nat) (e : Expr) : Classless (Read.trailers (n + 1) start e) := by
  refine .of_triple fun c₀ => ?_
  have trailers := fun start e => (ih.trailers start e).triple
  have callArguments := ih.callArguments.triple
  have subscripts := ih.subscripts.triple
  have identifier := classless_identifier.triple
  mvcgen [Read.trailers, trailers, callArguments, subscripts, identifier]
  all_goals grind

theorem callArguments_succ : Classless (Read.callArguments (n + 1)) := by
  refine .of_triple fun c₀ => ?_
  have arguments := (ih.arguments .positional {}).triple
  have namedExpression := ih.namedExpression.triple
  have comprehension := ih.comprehension.triple
  mvcgen [Read.callArguments, arguments, namedExpression, comprehension]
  all_goals grind

theorem arguments_succ (phase : Read.ArgumentPhase) (a : Read.Arguments) :
    Classless (Read.arguments (n + 1) phase a) := by
  refine .of_triple fun c₀ => ?_
  have arguments := fun p a => (ih.arguments p a).triple
  have expression := ih.expression.triple
  have namedExpression := ih.namedExpression.triple
  have identifier := classless_identifier.triple
  mvcgen [Read.arguments, arguments, expression, namedExpression, identifier]
  all_goals grind +zetaDelta

theorem subscripts_succ : Classless (Read.subscripts (n + 1)) := by
  refine .of_triple fun c₀ => ?_
  have subscriptItem := ih.subscriptItem.triple
  have others := (Classless.many (ih.subscriptItem.mark_then ",") n).triple
  mvcgen [Read.subscripts, subscriptItem, others]
  all_goals grind

theorem subscriptItem_succ : Classless (Read.subscriptItem (n + 1)) := by
  refine .of_triple fun c₀ => ?_
  have binary := (ih.binary 4).triple
  have namedExpression := ih.namedExpression.triple
  have sliceBound := ih.sliceBound.triple
  mvcgen [Read.subscriptItem, binary, namedExpression, sliceBound]
  all_goals grind

theorem sliceBound_succ : Classless (Read.sliceBound (n + 1)) := by
  refine .of_triple fun c₀ => ?_
  have expression := ih.expression.triple
  mvcgen [Read.sliceBound, expression]
  all_goals grind

theorem comprehension_succ : Classless (Read.comprehension (n + 1)) := by
  refine .of_triple fun c₀ => ?_
  have binary := (ih.binary 0).triple
  have targets := ih.targets.triple
  have comprehension := ih.comprehension.triple
  have conditions :=
    (Classless.many (Classless.word_then (ih.binary 0) (w := "if") (by decide)) n).triple
  mvcgen [Read.comprehension, binary, targets, comprehension, conditions]
  all_goals grind

theorem targets_succ : Classless (Read.targets (n + 1)) := by
  refine .of_triple fun c₀ => ?_
  have targets := (Classless.separated ih.target n ",").triple
  mvcgen [Read.targets, targets]
  all_goals grind

theorem target_succ : Classless (Read.target (n + 1)) := by
  refine .of_triple fun c₀ => ?_
  have primary := ih.primary.triple
  mvcgen [Read.target, primary]
  all_goals grind

theorem display_succ : Classless (Read.display (n + 1)) := by
  refine .of_triple fun c₀ => ?_
  have starNamedExpression := ih.starNamedExpression.triple
  have comprehension := ih.comprehension.triple
  have others := (Classless.many (ih.starNamedExpression.mark_then ",") n).triple
  mvcgen [Read.display, Read.atListEnd, starNamedExpression, comprehension, others]
  all_goals grind

theorem entry_succ : Classless (Read.entry (n + 1)) := by
  refine .of_triple fun c₀ => ?_
  have binary := (ih.binary 4).triple
  have expression := ih.expression.triple
  mvcgen [Read.entry, binary, expression]
  all_goals grind

theorem dictionary_succ : Classless (Read.dictionary (n + 1)) := by
  refine .of_triple fun c₀ => ?_
  have entry := ih.entry.triple
  have others := (Classless.many (ih.entry.mark_then ",") n).triple
  have comprehension := ih.comprehension.triple
  mvcgen [Read.dictionary, entry, others, comprehension]
  all_goals grind

theorem yieldExpression_succ : Classless (Read.yieldExpression (n + 1)) := by
  refine .of_triple fun c₀ => ?_
  have expression := ih.expression.triple
  have starExpressions := ih.starExpressions.triple
  mvcgen [Read.yieldExpression, Read.atListEnd, expression, starExpressions]
  all_goals grind

omit ih in
theorem formatted_succ (l : StringLiteral) :
    Gives (Read.formatted (n + 1) l) fun c _ c' => c' = c := by
  refine .of_triple fun c₀ => ?_
  mvcgen [Read.formatted]
  all_goals grind

theorem atom_succ : Classless (Read.atom (n + 1)) := by
  have literal : Classless (takeIf (·.kind == .string)) := classless_takeIf (by grind)
  refine .of_triple fun c₀ => ?_
  have strings := (Classless.some1 literal n).triple
  have dictionary := ih.dictionary.triple
  have display := ih.display.triple
  have yieldExpression := ih.yieldExpression.triple
  have formatted := fun l => (ih.formatted l).triple
  have identifier := classless_identifier.triple
  mvcgen [Read.atom, strings, dictionary, display, yieldExpression, formatted, identifier]
  invariants
  · post⟨fun _ c => ⌜ahead c₀ = ahead c⌝, fun _ => ⌜True⌝⟩
  all_goals grind -zetaDelta

theorem parameters_succ (annotated : Bool) (phase : Read.ParameterPhase) :
    Classless (Read.parameters (n + 1) annotated phase) := by
  refine .of_triple fun c₀ => ?_
  have parameters := fun p => (ih.parameters annotated p).triple
  have expression := ih.expression.triple
  have starExpression := ih.starExpression.triple
  have identifier := classless_identifier.triple
  mvcgen [Read.parameters, parameters, expression, starExpression, identifier]
  all_goals grind

end ClasslessExpressions

/-- At every depth the expression readers find no class. -/
theorem classlessExpressions (n : Nat) : ClasslessExpressions n := by
  induction n with
  | zero =>
      constructor
      all_goals
        intros
        exact .of_none fun _ => rfl
  | succ n ih =>
      exact {
        starExpressions := ih.starExpressions_succ
        starExpression := ih.starExpression_succ
        starNamedExpression := ih.starNamedExpression_succ
        namedExpression := ih.namedExpression_succ
        expression := ih.expression_succ
        binary := ih.binary_succ
        primary := ih.primary_succ
        trailers := ih.trailers_succ
        callArguments := ih.callArguments_succ
        arguments := ih.arguments_succ
        subscripts := ih.subscripts_succ
        subscriptItem := ih.subscriptItem_succ
        sliceBound := ih.sliceBound_succ
        comprehension := ih.comprehension_succ
        targets := ih.targets_succ
        target := ih.target_succ
        display := ih.display_succ
        entry := ih.entry_succ
        dictionary := ih.dictionary_succ
        yieldExpression := ih.yieldExpression_succ
        formatted := ClasslessExpressions.formatted_succ
        atom := ih.atom_succ
        parameters := ih.parameters_succ }

/-! ## Patterns -/

theorem classless_numberPattern : Classless Read.numberPattern := by
  refine .of_triple fun c₀ => ?_
  mvcgen [Read.numberPattern]
  all_goals grind

theorem classless_literalPattern (n : Nat) : Classless (Read.literalPattern n) := by
  refine .of_triple fun c₀ => ?_
  have atom := (classlessExpressions n).atom.triple
  have number := classless_numberPattern.triple
  mvcgen [Read.literalPattern, atom, number]
  all_goals grind

theorem classless_dottedName (n : Nat) : Classless (Read.dottedName n) := by
  refine .of_triple fun c₀ => ?_
  have names := (Classless.separated classless_identifier n ".").triple
  mvcgen [Read.dottedName, names]
  all_goals grind

theorem classless_captureName : Classless Read.captureName := by
  refine .of_triple fun c₀ => ?_
  have identifier := classless_identifier.triple
  mvcgen [Read.captureName, identifier]
  all_goals grind

/-- The pattern readers of one depth find no class. -/
structure ClasslessPatterns (n : Nat) : Prop where
  pattern : Classless (Read.pattern n)
  closedPattern : Classless (Read.closedPattern n)
  sequencePattern : Classless (Read.sequencePattern n)
  elementPattern : Classless (Read.elementPattern n)
  mappingPattern : Classless (Read.mappingPattern n)
  classArguments (named : Bool) : Classless (Read.classArguments n named)

namespace ClasslessPatterns

variable {n : Nat} (ih : ClasslessPatterns n)

include ih

theorem pattern_succ : Classless (Read.pattern (n + 1)) := by
  refine .of_triple fun c₀ => ?_
  have closed := (Classless.separated ih.closedPattern n "|").triple
  have capture := classless_captureName.triple
  mvcgen [Read.pattern, closed, capture]
  all_goals grind

theorem closedPattern_succ : Classless (Read.closedPattern (n + 1)) := by
  refine .of_triple fun c₀ => ?_
  have sequencePattern := ih.sequencePattern.triple
  have mappingPattern := ih.mappingPattern.triple
  have dottedName := (classless_dottedName n).triple
  have classArguments := (ih.classArguments false).triple
  have literal := (classless_literalPattern n).triple
  mvcgen [Read.closedPattern, sequencePattern, mappingPattern, dottedName, classArguments, literal]
  all_goals grind

theorem sequencePattern_succ : Classless (Read.sequencePattern (n + 1)) := by
  refine .of_triple fun c₀ => ?_
  have elementPattern := ih.elementPattern.triple
  have others := (Classless.many (ih.elementPattern.mark_then ",") n).triple
  mvcgen [Read.sequencePattern, elementPattern, others]
  all_goals grind

theorem elementPattern_succ : Classless (Read.elementPattern (n + 1)) := by
  refine .of_triple fun c₀ => ?_
  have pattern := ih.pattern.triple
  have capture := classless_captureName.triple
  have identifier := classless_identifier.triple
  mvcgen [Read.elementPattern, pattern, capture, identifier]
  all_goals grind

theorem mappingPattern_succ : Classless (Read.mappingPattern (n + 1)) := by
  refine .of_triple fun c₀ => ?_
  have pattern := ih.pattern.triple
  have mappingPattern := ih.mappingPattern.triple
  have capture := classless_captureName.triple
  have dottedName := (classless_dottedName n).triple
  have literal := (classless_literalPattern n).triple
  mvcgen [Read.mappingPattern, pattern, mappingPattern, capture, dottedName, literal]
  all_goals grind

theorem classArguments_succ (named : Bool) : Classless (Read.classArguments (n + 1) named) := by
  refine .of_triple fun c₀ => ?_
  have pattern := ih.pattern.triple
  have classArguments := fun named => (ih.classArguments named).triple
  have identifier := classless_identifier.triple
  mvcgen [Read.classArguments, pattern, classArguments, identifier]
  all_goals grind

end ClasslessPatterns

theorem classlessPatterns (n : Nat) : ClasslessPatterns n := by
  induction n with
  | zero =>
      constructor
      all_goals
        intros
        exact .of_none fun _ => rfl
  | succ n ih =>
      exact {
        pattern := ih.pattern_succ
        closedPattern := ih.closedPattern_succ
        sequencePattern := ih.sequencePattern_succ
        elementPattern := ih.elementPattern_succ
        mappingPattern := ih.mappingPattern_succ
        classArguments := ih.classArguments_succ }

theorem classless_casePattern (n : Nat) : Classless (Read.casePattern n) := by
  refine .of_triple fun c₀ => ?_
  have element := (classlessPatterns n).elementPattern
  have first := element.triple
  have others := (Classless.many (element.mark_then ",") n).triple
  mvcgen [Read.casePattern, first, others]
  all_goals grind

/-! ## The classes of a tree -/

namespace Statement

/-- The places of the classes in a list of statements. -/
def placesIn (l : List Statement) : List Nat := (classesInList false l).map FoundClass.start

/-- The places of the classes in the blocks of a compound statement. -/
def blockPlaces (bs : List (List Statement)) : List Nat :=
  (classesInBlocks bs).map FoundClass.start

/-- Whether a statement stands directly in the module does not matter for the places in it. -/
theorem map_start_classesIn (topLevel : Bool) (s : Statement) :
    (classesIn topLevel s).map FoundClass.start = (classesIn false s).map FoundClass.start := by
  cases s <;> simp [classesIn]

theorem map_start_classesInList (topLevel : Bool) (l : List Statement) :
    (classesInList topLevel l).map FoundClass.start = placesIn l := by
  induction l with
  | nil => rfl
  | cons s rest ih =>
      rw [placesIn, classesInList, classesInList, List.map_append, List.map_append, ih,
        map_start_classesIn]
      rfl

@[grind =]
theorem placesIn_nil : placesIn [] = [] := rfl

@[grind =]
theorem placesIn_cons (s : Statement) (l : List Statement) :
    placesIn (s :: l) = placesIn [s] ++ placesIn l := by
  simp [placesIn, classesInList]

theorem placesIn_append (l l' : List Statement) : placesIn (l ++ l') = placesIn l ++ placesIn l' := by
  induction l with
  | nil => rfl
  | cons s l ih => rw [List.cons_append, placesIn_cons, placesIn_cons s l, ih, List.append_assoc]

@[grind =]
theorem placesIn_flatten (ls : List (List Statement)) : placesIn ls.flatten = ls.flatMap placesIn := by
  induction ls with
  | nil => rfl
  | cons l ls ih => rw [List.flatten_cons, placesIn_append, List.flatMap_cons, ih]

/-- The classes in a class stand behind it. -/
@[grind =]
theorem placesIn_classDef (start : Nat) (name : String) (typeParams : List String)
    (decorators bases : List Expr) (body : List Statement) :
    placesIn [.classDef start name typeParams decorators bases body] = start :: placesIn body := by
  simp [placesIn, classesInList, classesIn]

@[grind =]
theorem placesIn_annotated (start : Nat) (target hint : Expr) :
    placesIn [.annotated start target hint] = [] := rfl

@[grind =]
theorem placesIn_simple : placesIn [.simple] = [] := rfl

@[grind =]
theorem placesIn_compound (bs : List (List Statement)) : placesIn [.compound bs] = blockPlaces bs := by
  simp [placesIn, blockPlaces, classesInList, classesIn]

@[grind =]
theorem blockPlaces_eq (bs : List (List Statement)) : blockPlaces bs = bs.flatMap placesIn := by
  induction bs with
  | nil => rfl
  | cons b bs ih =>
      rw [List.flatMap_cons, ← ih, blockPlaces, classesInBlocks, List.map_append]
      rfl

end Statement

open Statement (placesIn)

/-! ## Statements without blocks -/

theorem classless_plainName : Classless Read.plainName := by
  refine .of_triple fun c₀ => ?_
  have identifier := classless_identifier.triple
  mvcgen [Read.plainName, identifier]
  grind

theorem classless_renamed {name : Reader Unit} (classless : Classless name) :
    Classless (Read.renamed name) := by
  refine .of_triple fun c₀ => ?_
  have name := classless.triple
  have identifier := classless_identifier.triple
  mvcgen [Read.renamed, name, identifier]
  all_goals grind

theorem classless_importFrom (n : Nat) : Classless (Read.importFrom n) := by
  have dot : Classless (takeIf fun t => Token.isMark "." t || Token.isMark "..." t) :=
    classless_takeIf (by grind)
  refine .of_triple fun c₀ => ?_
  have dots := (Classless.many dot n).triple
  have dottedName := (classless_dottedName n).triple
  have names := (Classless.separated (classless_renamed classless_plainName) n ",").triple
  mvcgen [Read.importFrom, dots, dottedName, names]
  all_goals grind

theorem classless_assignedValue (n : Nat) : Classless (Read.assignedValue n) := by
  refine .of_triple fun c₀ => ?_
  have yieldExpression := (classlessExpressions n).yieldExpression.triple
  have starExpressions := (classlessExpressions n).starExpressions.triple
  mvcgen [Read.assignedValue, yieldExpression, starExpressions]
  all_goals grind

theorem classless_assignments (n count : Nat) (e : Expr) : Classless (Read.assignments n count e) := by
  induction count generalizing e with
  | zero =>
      intro c a c' run
      cases run
  | succ count ih =>
      refine .of_triple fun c₀ => ?_
      have value := (classless_assignedValue n).triple
      have others := fun e => (ih e).triple
      mvcgen [Read.assignments, value, others]
      all_goals grind

theorem classless_keywordStatement (n : Nat) (keyword : String) :
    Classless (Read.keywordStatement n keyword) := by
  have dotted : Classless (do let _ ← Read.dottedName n) := by
    refine .of_triple fun c₀ => ?_
    have dottedName := (classless_dottedName n).triple
    mvcgen [dottedName]
    grind
  refine .of_triple fun c₀ => ?_
  have starExpressions := (classlessExpressions n).starExpressions.triple
  have expression := (classlessExpressions n).expression.triple
  have names := (Classless.separated classless_identifier n ",").triple
  have modules := (Classless.separated (classless_renamed dotted) n ",").triple
  mvcgen [Read.keywordStatement, starExpressions, expression, names, modules]
  all_goals grind

/-- The places of the classes in one statement. -/
abbrev placesOf (s : Statement) : List Nat := placesIn [s]

theorem finds_expressionStatement (n : Nat) : Finds (Read.expressionStatement n) placesOf := by
  refine .of_triple fun c₀ => ?_
  have value := (classless_assignedValue n).triple
  have expression := (classlessExpressions n).expression.triple
  have assignments := fun e => (classless_assignments n n e).triple
  mvcgen [Read.expressionStatement, value, expression, assignments]
  all_goals grind

/-- A word is no keyword of a class if it is one of several that are not. -/
theorem isWord_of_mem {w : String} {words : List String} {t : Token} (member : w ∈ words)
    (other : "class" ∉ words) (isWord : t.isWord w = true) : t.isWord "class" = false := by
  rw [Token.isWord, Bool.and_eq_true, beq_iff_eq, beq_iff_eq] at isWord
  rw [Token.isWord, Bool.and_eq_false_iff]
  refine .inr (beq_false_of_ne fun same => other ?_)
  rwa [← same, isWord.2]

theorem finds_simpleStatement (n : Nat) : Finds (Read.simpleStatement n) placesOf := by
  have apart : ∀ w ∈ ["pass", "break", "continue", "return", "raise", "assert", "del", "global",
      "nonlocal", "import"], ∀ t : Token, t.isWord w = true → t.isWord "class" = false :=
    fun w member t isWord => isWord_of_mem member (by decide) isWord
  refine .of_triple fun c₀ => ?_
  have importFrom := (classless_importFrom n).triple
  have keyword := fun w => (classless_keywordStatement n w).triple
  have expression := (finds_expressionStatement n).triple
  mvcgen [Read.simpleStatement, importFrom, keyword, expression]
  all_goals grind

theorem finds_simpleStatements (n : Nat) : Finds (Read.simpleStatements n) placesIn := by
  have together : ∀ l : List Statement, l.flatMap placesOf = placesIn l := fun l => by
    induction l with
    | nil => rfl
    | cons s l ih => rw [List.flatMap_cons, ih, ← Statement.placesIn_cons]
  refine .of_triple fun c₀ => ?_
  have all := ((finds_simpleStatement n).separated n ";").triple
  mvcgen [Read.simpleStatements, all]
  all_goals grind

/-! ## Statements with blocks -/

theorem classless_withItems (n : Nat) : Classless (Read.withItems n) := by
  have item : Classless (do
      let _ ← Read.expression n
      if ← skip (Token.isWord "as") then Read.target n) := by
    refine .of_triple fun c₀ => ?_
    have expression := (classlessExpressions n).expression.triple
    have target := (classlessExpressions n).target.triple
    mvcgen [expression, target]
    all_goals grind
  refine .of_triple fun c₀ => ?_
  have items := (Classless.separated item n ",").triple
  mvcgen [Read.withItems, items]
  all_goals grind

theorem classless_withHead (n : Nat) : Classless (Read.withHead n) := by
  refine .of_triple fun c₀ => ?_
  have items := (classless_withItems n).triple
  mvcgen [Read.withHead, items]
  all_goals grind

theorem classless_matchHead (n : Nat) : Classless (Read.matchHead n) := by
  have element := (classlessExpressions n).starNamedExpression
  refine .of_triple fun c₀ => ?_
  have first := element.triple
  have others := (Classless.many (element.mark_then ",") n).triple
  mvcgen [Read.matchHead, first, others]
  all_goals grind

/-- **What the statement readers of one depth find**: the places of the classes in what they
give. -/
structure FindsStatements (n : Nat) : Prop where
  statements : Finds (Read.statements n) placesIn
  block : Finds (Read.block n) placesIn
  definition (decorators : List Expr) : Finds (Read.definition n decorators) placesOf
  loopOrContext : Finds (Read.loopOrContext n) Statement.blockPlaces
  branches : Finds (Read.branches n) Statement.blockPlaces
  elseBlock : Finds (Read.elseBlock n) Statement.blockPlaces
  handlers : Finds (Read.handlers n) Statement.blockPlaces
  matchStatement : Finds (Read.matchStatement n) Statement.blockPlaces

namespace FindsStatements

variable {n : Nat} (ih : FindsStatements n)

include ih

theorem statements_succ : Finds (Read.statements (n + 1)) placesIn := by
  have decorator : Classless (do
      mark "@"
      let e ← Read.namedExpression n
      kind .newline
      return e) := by
    refine .of_triple fun c₀ => ?_
    have namedExpression := (classlessExpressions n).namedExpression.triple
    mvcgen [namedExpression]
    grind
  refine .of_triple fun c₀ => ?_
  have decorators := (Classless.some1 decorator n).triple
  have namedExpression := (classlessExpressions n).namedExpression.triple
  have simple := (finds_simpleStatements n).triple
  have definition := fun ds => (ih.definition ds).triple
  have block := ih.block.triple
  have branches := ih.branches.triple
  have elseBlock := ih.elseBlock.triple
  have loopOrContext := ih.loopOrContext.triple
  have handlers := ih.handlers.triple
  have matchStatement := ih.matchStatement.triple
  mvcgen [Read.statements, decorators, namedExpression, simple, definition, block, branches,
    elseBlock, loopOrContext, handlers, matchStatement]
  all_goals grind

theorem block_succ : Finds (Read.block (n + 1)) placesIn := by
  refine .of_triple fun c₀ => ?_
  have all := (ih.statements.some1 n).triple
  have simple := (finds_simpleStatements n).triple
  mvcgen [Read.block, all, simple]
  all_goals grind

/-- The keyword that a class begins with is the first place found. -/
theorem definition_succ (decorators : List Expr) :
    Finds (Read.definition (n + 1) decorators) placesOf := by
  refine .of_triple fun c₀ => ?_
  have arguments := ((classlessExpressions n).arguments .positional {}).triple
  have parameters := ((classlessExpressions n).parameters true {}).triple
  have expression := (classlessExpressions n).expression.triple
  have block := ih.block.triple
  have loopOrContext := ih.loopOrContext.triple
  have identifier := classless_identifier.triple
  mvcgen [Read.definition, arguments, parameters, expression, block, loopOrContext, identifier]
  all_goals grind

theorem loopOrContext_succ : Finds (Read.loopOrContext (n + 1)) Statement.blockPlaces := by
  refine .of_triple fun c₀ => ?_
  have targets := (classlessExpressions n).targets.triple
  have starExpressions := (classlessExpressions n).starExpressions.triple
  have withHead := (classless_withHead n).triple
  have block := ih.block.triple
  have elseBlock := ih.elseBlock.triple
  mvcgen [Read.loopOrContext, targets, starExpressions, withHead, block, elseBlock]
  all_goals grind

theorem branches_succ : Finds (Read.branches (n + 1)) Statement.blockPlaces := by
  refine .of_triple fun c₀ => ?_
  have namedExpression := (classlessExpressions n).namedExpression.triple
  have block := ih.block.triple
  have branches := ih.branches.triple
  have elseBlock := ih.elseBlock.triple
  mvcgen [Read.branches, namedExpression, block, branches, elseBlock]
  all_goals grind

theorem elseBlock_succ : Finds (Read.elseBlock (n + 1)) Statement.blockPlaces := by
  refine .of_triple fun c₀ => ?_
  have block := ih.block.triple
  mvcgen [Read.elseBlock, block]
  all_goals grind

theorem handlers_succ : Finds (Read.handlers (n + 1)) Statement.blockPlaces := by
  have handler : ∀ groups : Bool, Finds (do
      word "except"
      if groups then mark "*"
      if groups || !(← next (Token.isMark ":")) then
        let _ ← Read.expression n
        if ← skip (Token.isWord "as") then
          let _ ← Read.identifier
      mark ":"
      Read.block n) placesIn := fun groups => by
    refine .of_triple fun c₀ => ?_
    have expression := (classlessExpressions n).expression.triple
    have block := ih.block.triple
    have identifier := classless_identifier.triple
    mvcgen [expression, block, identifier]
    all_goals grind
  refine .of_triple fun c₀ => ?_
  have caught := fun groups => ((handler groups).many n).triple
  have elseBlock := ih.elseBlock.triple
  have block := ih.block.triple
  mvcgen [Read.handlers, caught, elseBlock, block]
  all_goals grind

theorem matchStatement_succ : Finds (Read.matchStatement (n + 1)) Statement.blockPlaces := by
  have case : Finds (do
      word "case"
      Read.casePattern n
      if ← skip (Token.isWord "if") then
        let _ ← Read.namedExpression n
      mark ":"
      Read.block n) placesIn := by
    refine .of_triple fun c₀ => ?_
    have pattern := (classless_casePattern n).triple
    have namedExpression := (classlessExpressions n).namedExpression.triple
    have block := ih.block.triple
    mvcgen [pattern, namedExpression, block]
    all_goals grind
  refine .of_triple fun c₀ => ?_
  have head := (classless_matchHead n).triple
  have cases := (case.some1 n).triple
  mvcgen [Read.matchStatement, head, cases]
  all_goals grind

end FindsStatements

theorem findsStatements (n : Nat) : FindsStatements n := by
  induction n with
  | zero =>
      constructor
      all_goals
        intros
        exact .of_none fun _ => rfl
  | succ n ih =>
      exact {
        statements := ih.statements_succ
        block := ih.block_succ
        definition := ih.definition_succ
        loopOrContext := ih.loopOrContext_succ
        branches := ih.branches_succ
        elseBlock := ih.elseBlock_succ
        handlers := ih.handlers_succ
        matchStatement := ih.matchStatement_succ }

/-! ## Modules -/

theorem kind_of_stepToken {stop : Nat} {layout : Layout} {s : List Char} {step : Step}
    (h : stepToken stop layout s = some step) : ∀ t ∈ step.found, t.kind ≠ .endOfSource := by
  cases s with
  | nil =>
      cases h
      simp
  | cons c r =>
      simp only [stepToken] at h
      repeat' split at h
      all_goals grind [Option.bind_eq_some_iff]

theorem kind_of_stepLine {stop : Nat} {layout : Layout} {s : List Char} {step : Step}
    (h : stepLine stop layout s = some step) : ∀ t ∈ step.found, t.kind ≠ .endOfSource := by
  simp only [stepLine, openLine, Option.bind_eq_bind, Option.bind_eq_some_iff] at h
  obtain ⟨⟨indent, rest⟩, measured, h⟩ := h
  repeat' split at h
  all_goals grind [Option.bind_eq_some_iff]

/-- Only the last token of a module ends it. -/
theorem kind_of_mem_dropLast {stop : Nat} {fresh : Bool} {layout : Layout} {s : List Char}
    {ts : List Token} (h : scan stop fresh layout s = some ts) :
    ∀ t ∈ ts.dropLast, t.kind ≠ .endOfSource := by
  fun_induction scan stop fresh layout s generalizing ts with
  | case1 | case3 | case5 => cases h
  | case2 fresh layout s step stepped finished _ =>
      cases h
      rw [closing, List.dropLast_concat]
      grind
  | case4 fresh layout s step stepped _ _ ih =>
      obtain ⟨others, scanned, rfl⟩ := Option.map_eq_some_iff.mp h
      have found : ∀ t ∈ step.found, t.kind ≠ .endOfSource := by
        split at stepped
        · exact kind_of_stepLine stepped
        · exact kind_of_stepToken stepped
      intro t member
      by_cases last : others = []
      · rw [last, List.append_nil] at member
        exact found t (List.mem_of_mem_dropLast member)
      · rw [List.dropLast_append_of_ne_nil last, List.mem_append] at member
        exact member.elim (found t) (ih scanned t)

theorem finds_module (ts : List Token) (depth : Nat) :
    Gives (do
      let all ← many depth (Read.statements depth)
      kind .endOfSource
      return all.flatten) fun c l c' =>
        ahead c = placesIn l ++ ahead c' ∧
          (c.On ts → ∃ before t, before.On ts ∧ Takes before t c' ∧ t.kind = .endOfSource) := by
  refine .of_triple fun c₀ => ?_
  have both : Gives (many depth (Read.statements depth)) fun c l c' =>
      Reaches c c' ∧ ahead c = l.flatMap placesIn ++ ahead c' := fun c l c' run =>
    ⟨((understoodStatements ts depth).statements.many_passes depth c l c' run).1,
      (findsStatements depth).statements.many depth c l c' run⟩
  have all := both.triple
  mvcgen [all]
  grind

/-- **Every keyword of a class is a class of the module**, in the order of the text. -/
theorem map_start_classes {source : List Char} {module : List Statement}
    (read : moduleOf? source = some module) :
    ∃ ts, tokensOf? source = some ts ∧
      (Statement.classes module).map FoundClass.start = classPlaces ts := by
  unfold moduleOf? at read
  simp only [Option.bind_eq_bind, Option.bind_eq_some_iff] at read
  obtain ⟨-, -, ts, cut, ⟨all, c'⟩, run, same⟩ := read
  cases same
  obtain ⟨places, ended⟩ := finds_module ts _ _ _ _ run
  obtain ⟨before, t, on, takes, kind⟩ := ended List.suffix_rfl
  -- What is left behind the end of the module holds no keyword, for nothing is left.
  have finished : c'.tokens = [] := by
    by_contra left
    obtain ⟨front, whole⟩ := on
    rw [takes.tokens] at whole
    refine kind_of_mem_dropLast cut t ?_ kind
    rw [← whole, List.dropLast_append_of_ne_nil (by simp), List.dropLast_cons_of_ne_nil left]
    simp
  have none : ahead c' = [] := by
    rw [ahead, finished]
    rfl
  refine ⟨ts, cut, ?_⟩
  rw [Statement.classes, Statement.map_start_classesInList]
  rw [none, List.append_nil] at places
  exact places.symm

/-- The tokens of a text stand behind its start. -/
theorem Cut.le_start {stop : Nat} {s : List Char} {ts : List Token} (cut : Cut stop s ts) :
    ∀ t ∈ ts, stop - s.length ≤ t.start := by
  induction cut with
  | nil => simp
  | cons isGap lexed others ih =>
      rw [List.forall_mem_cons]
      refine ⟨?_, fun t member => (ih t member).trans' ?_⟩
      all_goals
        simp only [List.length_append]
        omega

/-- The places of classes are in the order of the text. -/
theorem Cut.pairwise_classPlaces {stop : Nat} {s : List Char} {ts : List Token} (cut : Cut stop s ts)
    (bound : s.length ≤ stop) : (classPlaces ts).Pairwise (· < ·) := by
  induction cut with
  | nil => exact .nil
  | @cons gap lexeme rest kind ts isGap lexed others ih =>
      simp only [List.length_append] at bound
      rw [classPlaces, List.filter_cons]
      split
      · next keyword =>
          have visible : lexeme ≠ [] := by
            rintro rfl
            rw [Token.isWord, Bool.and_eq_true] at keyword
            exact absurd (beq_iff_eq.mp keyword.2) (show String.ofList [] ≠ "class" by decide)
          have long := List.length_pos_iff.mpr visible
          refine .cons (fun place member => ?_) (ih (by omega))
          obtain ⟨t, among, rfl⟩ := List.mem_map.mp member
          have behind := others.le_start t (List.mem_filter.mp among).1
          simp only [List.length_append]
          omega
      · exact ih (by omega)

/-- **The classes of a module are listed in the order of their places.** -/
theorem pairwise_start_classes {source : List Char} {module : List Statement}
    (read : moduleOf? source = some module) :
    (Statement.classes module).Pairwise fun c d => c.start < d.start := by
  obtain ⟨ts, cut, places⟩ := map_start_classes read
  have ordered := (cut_of_tokensOf? cut).pairwise_classPlaces (Nat.le_refl _)
  rwa [← places, List.pairwise_map] at ordered

end Narrowing.ClassSource
