import Narrowing.Proofs.Reading
import Narrowing.StructSource.Type

/-!
# Types and parameters on the tokens

Of a type a header needs the extent alone: where the bounds of a parameter end, and
where its default begins.  So nothing is asked of the readers of types but that they
advance, and a parameter is told by the tokens between two cursors: its name, its bounds
from their colon on, and its default from the equals sign on, of which the tree keeps
nothing (`ParamAt`).

The readers call each other.  What they do at one depth is one statement
(`TypesAdvance`), and every reader has a lemma that takes it one depth further.  The
readers of what is nested in a type are given, and are taken to advance
(`Inner.Advances`).

An alternative is followed by its general rule only where nothing is read behind it.
Anywhere else it has a specification of its own, and the rule is left out.

## Main statements

* `ParamsAt` — how parameters stand on the tokens
* `typesAdvance` — the readers of types advance, and parameters stand where they are read
-/

set_option mvcgen.warning false

namespace Narrowing.StructSource

open Reading Reading.Cursor Reading.Reader Std.Do

/-! ## Parameters on the tokens -/

/-- A name is one token. -/
def NameAt (c : Cursor) (name : Span) (c' : Cursor) : Prop :=
  ∃ t, Takes c t c' ∧ t.kind = .name ∧ name = ⟨t.start, t.stop⟩

theorem NameAt.reaches {c c' : Cursor} {name : Span} (at_ : NameAt c name c') : Reaches c c' := by
  obtain ⟨t, takes, -, -⟩ := at_
  exact takes.reaches

/-- A lifetime is a name behind a quote. -/
def LifetimeAt (c : Cursor) (name : Span) (c' : Cursor) : Prop :=
  ∃ quote c₁ t, Takes c quote c₁ ∧ quote.isMark "'" = true ∧ Takes c₁ t c' ∧ t.kind = .name ∧
    name = ⟨quote.start, t.stop⟩

theorem LifetimeAt.reaches {c c' : Cursor} {name : Span} (at_ : LifetimeAt c name c') :
    Reaches c c' := by
  obtain ⟨quote, c₁, t, quoted, -, named, -, -⟩ := at_
  exact .head quoted named.reaches

/-- The tokens between two cursors begin with a mark. -/
def Begins (m : String) (c c' : Cursor) : Prop :=
  ∃ t c₁, Takes c t c₁ ∧ t.isMark m = true ∧ Reaches c₁ c'

theorem Begins.reaches {m : String} {c c' : Cursor} (begins : Begins m c c') : Reaches c c' := by
  obtain ⟨t, c₁, takes, -, others⟩ := begins
  exact .head takes others

attribute [grind →] Begins.reaches

/-- Bounds begin with their colon. -/
def BoundsAt (c : Cursor) (bounds : Option Span) (c' : Cursor) : Prop :=
  (bounds = none ∧ c' = c) ∨ (bounds = some ⟨c.here, c'.last⟩ ∧ Begins ":" c c')

theorem BoundsAt.reaches {c c' : Cursor} {bounds : Option Span} (at_ : BoundsAt c bounds c') :
    Reaches c c' := by
  rcases at_ with ⟨-, rfl⟩ | ⟨-, begins⟩
  · exact .refl
  · exact begins.reaches

/-- A type stands behind its colon. -/
def TypeAt (c : Cursor) (written : Span) (c' : Cursor) : Prop :=
  ∃ colon c₁, Takes c colon c₁ ∧ colon.isMark ":" = true ∧ Reaches c₁ c' ∧
    written = ⟨c₁.here, c'.last⟩

theorem TypeAt.reaches {c c' : Cursor} {written : Span} (at_ : TypeAt c written c') :
    Reaches c c' := by
  obtain ⟨colon, c₁, takes, -, type, -⟩ := at_
  exact .head takes type

theorem TypeAt.of_takes {c c₁ c' : Cursor} {colon : Token} (takes : Takes c colon c₁)
    (isColon : colon.isMark ":" = true) (type : Reaches c₁ c') : TypeAt c ⟨c₁.here, c'.last⟩ c' :=
  ⟨colon, c₁, takes, isColon, type, rfl⟩

/-- A default begins with its equals sign. -/
def DefaultAt (c c' : Cursor) : Prop := c' = c ∨ Begins "=" c c'

theorem DefaultAt.reaches {c c' : Cursor} (at_ : DefaultAt c c') : Reaches c c' := by
  rcases at_ with rfl | begins
  · exact .refl
  · exact begins.reaches

/-- **What stands at a parameter of a header**: its name, its bounds or its type, and a default, of
which nothing is kept. -/
inductive ParamAt : Cursor → GenericParam → Cursor → Prop
  | lifetime {c c₁ c' : Cursor} {name : Span} {bounds : Option Span} (named : LifetimeAt c name c₁)
      (bounded : BoundsAt c₁ bounds c') : ParamAt c (.lifetime name bounds) c'
  | type {c c₁ c₂ c' : Cursor} {name : Span} {bounds : Option Span} (named : NameAt c name c₁)
      (bounded : BoundsAt c₁ bounds c₂) (default : DefaultAt c₂ c') :
      ParamAt c (.type name bounds) c'
  | const {c c₁ c₂ c₃ c' : Cursor} {keyword : Token} {name written : Span}
      (begins : Takes c keyword c₁) (isConst : keyword.isWord "const" = true)
      (named : NameAt c₁ name c₂) (typed : TypeAt c₂ written c₃) (default : DefaultAt c₃ c') :
      ParamAt c (.const name written) c'

theorem ParamAt.reaches {c c' : Cursor} {p : GenericParam} (at_ : ParamAt c p c') :
    Reaches c c' := by
  cases at_ with
  | lifetime named bounded => exact named.reaches.trans bounded.reaches
  | type named bounded default => exact named.reaches.trans (bounded.reaches.trans default.reaches)
  | const begins _ named typed default =>
      exact .head begins (named.reaches.trans (typed.reaches.trans default.reaches))

/-- An entry of a parameter list is a parameter, or a macro that stands for some. -/
inductive EntryAt : Cursor → Option GenericParam → Cursor → Prop
  | passed {c c₁ c' : Cursor} {dollar name : Token} (begins : Takes c dollar c₁)
      (isDollar : dollar.isMark "$" = true) (named : Takes c₁ name c') (isName : name.kind = .name) :
      EntryAt c none c'
  | param {c c' : Cursor} {p : GenericParam} (at_ : ParamAt c p c') : EntryAt c (some p) c'

/-- An attribute stands in brackets behind its hash. -/
def AttributeAt (c c' : Cursor) : Prop :=
  ∃ hash opening closing c₁ c₂ c₃, Takes c hash c₁ ∧ hash.isMark "#" = true ∧
    Takes c₁ opening c₂ ∧ opening.isMark "[" = true ∧ Reaches c₂ c₃ ∧
    Takes c₃ closing c' ∧ closing.isMark "]" = true

theorem AttributeAt.reaches {c c' : Cursor} (at_ : AttributeAt c c') : Reaches c c' := by
  obtain ⟨_, _, _, _, _, _, hash, -, opening, -, inside, closing, -⟩ := at_
  exact .head hash (.head opening (inside.trans closing.reaches))

/-- An entry with the attributes in front of it. -/
def ListedAt (c : Cursor) (entry : Option GenericParam) (c' : Cursor) : Prop :=
  ∃ (notes : List Attribute) (c₁ : Cursor), Chain (fun c _ c' => AttributeAt c c') c notes c₁ ∧
    EntryAt c₁ entry c'

theorem ListedAt.reaches {c c' : Cursor} {entry : Option GenericParam}
    (at_ : ListedAt c entry c') : Reaches c c' := by
  obtain ⟨notes, c₁, chain, at_⟩ := at_
  have before : Reaches c c₁ := chain.kept (fun _ => .refl) Reaches.trans AttributeAt.reaches
  cases at_ with
  | passed begins _ named => exact before.trans (.head begins named.reaches)
  | param at_ => exact before.trans at_.reaches

/-- **Parameters stand in angle brackets** with commas between them, and there are none where no
bracket opens. -/
inductive ParamsAt : Cursor → List GenericParam → Cursor → Prop
  | none {c : Cursor} (bare : c.tokens.head?.any (Token.isMark "<") = false) : ParamsAt c [] c
  | some {c c₁ c₂ c₃ c' : Cursor} {opening closing : Token} {entries : List (Option GenericParam)}
      (opens : Takes c opening c₁) (isOpening : opening.isMark "<" = true)
      (listed : Separated "," ListedAt c₁ entries c₂)
      (trailing : c₃ = c₂ ∨ ∃ comma, Takes c₂ comma c₃ ∧ comma.isMark "," = true)
      (closes : Takes c₃ closing c') (isClosing : closing.isMark ">" = true) :
      ParamsAt c (entries.filterMap id) c'

theorem ParamsAt.reaches {c c' : Cursor} {ps : List GenericParam} (at_ : ParamsAt c ps c') :
    Reaches c c' := by
  cases at_ with
  | none => exact .refl
  | some opens _ listed trailing closes =>
      have inside := listed.kept Reaches Reaches.trans ListedAt.reaches Takes.reaches
      rcases trailing with rfl | ⟨comma, takes, -⟩
      · exact .head opens (inside.trans closes.reaches)
      · exact .head opens (inside.trans (.head takes closes.reaches))

attribute [grind →] NameAt.reaches LifetimeAt.reaches ParamAt.reaches ParamsAt.reaches

/-! ## Names and token trees -/

theorem gives_nextMarks (m : String) : Gives (Read.nextMarks m) fun c _ c' => c' = c := by
  refine .of_triple fun c₀ => ?_
  mvcgen [Read.nextMarks]

theorem advances_marks (m : String) : Advances (Read.marks m) := by
  refine .of_triple fun c₀ => ?_
  have next := (gives_nextMarks m).triple
  have taken := ((advances_kind .mark).many m.length).triple
  mvcgen [Read.marks, next, taken]
  all_goals grind

theorem advances_skipMarks (m : String) : Advances (Read.skipMarks m) := by
  refine .of_triple fun c₀ => ?_
  have next := (gives_nextMarks m).triple
  have taken := (advances_marks m).triple
  mvcgen [Read.skipMarks, next, taken]
  all_goals grind

theorem gives_name : Gives Read.name NameAt := by
  refine .of_triple fun c₀ => ?_
  mvcgen [Read.name]
  all_goals grind [NameAt, → Takes.last]

theorem advances_name : Advances Read.name := fun c a c' run => (gives_name c a c' run).reaches

theorem gives_lifetime : Gives Read.lifetime LifetimeAt := by
  refine .of_triple fun c₀ => ?_
  mvcgen [Read.lifetime]
  all_goals grind [LifetimeAt, → Takes.last]

theorem advances_lifetime : Advances Read.lifetime :=
  fun c a c' run => (gives_lifetime c a c' run).reaches

theorem advances_literal : Advances Read.literal := by
  refine .of_triple fun c₀ => ?_
  mvcgen [Read.literal]
  all_goals grind

theorem advances_listIn {thing : Reader Unit} (advances : Advances thing) (count : Nat)
    (opening closing : String) : Advances (Read.listIn count opening closing thing) := by
  refine .of_triple fun c₀ => ?_
  have things := (advances.separated count ",").maybe.triple
  mvcgen [Read.listIn, things]
  all_goals grind

theorem advances_path (n : Nat) : Advances (Read.path n) := by
  have step : Advances (do Read.marks "::"; kind .name) := by
    refine .of_triple fun c₀ => ?_
    have colons := (advances_marks "::").triple
    mvcgen [colons]
    grind
  refine .of_triple fun c₀ => ?_
  have colons := (advances_skipMarks "::").triple
  have others := (step.many n).triple
  mvcgen [Read.path, colons, others]
  all_goals grind

theorem advances_tokenTree (n : Nat) : Advances (Read.tokenTree n) := by
  induction n with
  | zero => exact .of_none fun _ => rfl
  | succ n ih =>
      have piece : Advances ((do
          let _ ← takeIf fun t =>
            t.kind != .mark || t.text ∉ ["(", "[", "\x7b", ")", "]", "\x7d"])
          <|> (do let _ ← Read.tokenTree n)) := by
        refine .of_triple fun c₀ => ?_
        have tree := ih.triple
        mvcgen [tree]
        all_goals grind
      refine .of_triple fun c₀ => ?_
      have pieces := (piece.many n).triple
      mvcgen [Read.tokenTree, pieces]
      all_goals grind

/-- **The readers of what is nested advance.** -/
structure Inner.Advances (inner : Inner) : Prop where
  expression : Reader.Advances inner.expression
  block : Reader.Advances inner.block
  pattern : Reader.Advances inner.pattern

theorem gives_attached {inner : Inner} (nested : inner.Advances) (n : Nat) :
    Gives (Read.attached inner n) fun c _ c' => AttributeAt c c' := by
  refine .of_triple fun c₀ => ?_
  have path := (advances_path n).triple
  have tree := (advances_tokenTree n).triple
  have expression := nested.expression.triple
  mvcgen [Read.attached, path, tree, expression]
  all_goals grind [AttributeAt]

theorem advances_attached {inner : Inner} (nested : inner.Advances) (n : Nat) :
    Advances (Read.attached inner n) :=
  fun c a c' run => (gives_attached nested n c a c' run).reaches

theorem advances_bareName (t : Token) (first : Bool) : Advances (Read.bareName t first) := by
  refine .of_triple fun c₀ => ?_
  mvcgen [Read.bareName]
  all_goals grind

theorem gives_peekAt (k : Nat) : Gives (peekAt k) fun c _ c' => c' = c := by
  rintro c a c' ⟨⟩
  rfl

theorem advances_functionModifiers (n : Nat) : Advances (Read.functionModifiers n) := by
  have modifier : Advances ((do word "extern"; let _ ← skip (·.kind == .string))
      <|> (do let _ ← takeIf fun t => t.kind == .name && t.text ∈ ["async", "default", "const",
        "unsafe"])) := by
    refine .of_triple fun c₀ => ?_
    mvcgen
    all_goals grind
  refine .of_triple fun c₀ => ?_
  have modifiers := (modifier.many n).triple
  mvcgen [Read.functionModifiers, modifiers]
  all_goals grind


/-! ## Types -/

/-- What the readers of types do at one depth. -/
structure TypesAdvance (inner : Inner) (n : Nat) : Prop where
  type : Advances (Read.type inner n)
  plainType : Advances (Read.plainType inner n)
  typeAmong (forms : List TypeForm) : Advances (Read.typeAmong forms inner n)
  constrainedType : Advances (Read.constrainedType inner n)
  qualifiedSelf : Advances (Read.qualifiedSelf inner n)
  quantifier : Advances (Read.quantifier inner n)
  returnType : Advances (Read.returnType inner n)
  pathType : Advances (Read.pathType inner n)
  typeArguments : Advances (Read.typeArguments inner n)
  typeArgument : Advances (Read.typeArgument inner n)
  bounds : Gives (Read.bounds inner n) fun c _ c' => Begins ":" c c'
  parameters : Advances (Read.parameters inner n)
  typeParameters : Gives (Read.typeParameters inner n) ParamsAt
  typeParameter : Gives (Read.typeParameter inner n) EntryAt
  optionalBounds : Gives (Read.optionalBounds inner n) BoundsAt

namespace TypesAdvance

variable {inner : Inner} {n : Nat} (nested : inner.Advances) (ih : TypesAdvance inner n)

include ih in
theorem type_succ : Advances (Read.type inner (n + 1)) := by
  have bound : Advances (do
      mark "+"
      (do let _ ← Read.lifetime) <|> (do let _ ← Read.plainType inner n)) := by
    refine .of_triple fun c₀ => ?_
    have lifetime := advances_lifetime.triple
    have plainType := ih.plainType.triple
    mvcgen [lifetime, plainType]
    all_goals grind
  refine .of_triple fun c₀ => ?_
  have type := ih.type.triple
  have lifetime := advances_lifetime.triple
  have plainType := ih.plainType.triple
  have others := (bound.many n).triple
  mvcgen [Read.type, type, lifetime, plainType, others]
  all_goals grind

include nested ih in
theorem plainType_succ : Advances (Read.plainType inner (n + 1)) := by
  refine .of_triple fun c₀ => ?_
  have type := ih.type.triple
  have types := (ih.type.separated n ",").triple
  have plainType := ih.plainType.triple
  have typeAmong := fun forms => (ih.typeAmong forms).triple
  have qualifiedSelf := ih.qualifiedSelf.triple
  have quantifier := ih.quantifier.triple
  have returnType := ih.returnType.triple
  have pathType := ih.pathType.triple
  have parameters := ih.parameters.triple
  have expression := nested.expression.triple
  have lifetime := advances_lifetime.triple
  have region := advances_lifetime.maybe.triple
  have modifiers := (advances_functionModifiers n).triple
  mvcgen [Read.plainType, type, types, plainType, typeAmong, qualifiedSelf, quantifier, returnType,
    pathType, parameters, expression, lifetime, region, modifiers]
  all_goals grind

include ih in
theorem typeAmong_succ (forms : List TypeForm) : Advances (Read.typeAmong forms inner (n + 1)) := by
  refine .of_triple fun c₀ => ?_
  have plainType := ih.plainType.triple
  mvcgen [Read.typeAmong, plainType]
  all_goals grind

include ih in
theorem constrainedType_succ : Advances (Read.constrainedType inner (n + 1)) := by
  refine .of_triple fun c₀ => ?_
  have quantifier := ih.quantifier.triple
  have plainType := ih.plainType.triple
  have typeAmong := fun forms => (ih.typeAmong forms).triple
  mvcgen [Read.constrainedType, quantifier, plainType, typeAmong]
  all_goals grind

include ih in
theorem qualifiedSelf_succ : Advances (Read.qualifiedSelf inner (n + 1)) := by
  refine .of_triple fun c₀ => ?_
  have type := ih.type.triple
  have colons := fun m => (gives_nextMarks m).triple
  mvcgen [Read.qualifiedSelf, type, colons]
  all_goals grind

include ih in
theorem quantifier_succ : Advances (Read.quantifier inner (n + 1)) := by
  refine .of_triple fun c₀ => ?_
  have typeParameters := ih.typeParameters.triple
  mvcgen [Read.quantifier, typeParameters]
  all_goals grind

include ih in
theorem returnType_succ : Advances (Read.returnType inner (n + 1)) := by
  refine .of_triple fun c₀ => ?_
  have type := ih.type.triple
  have arrow := (advances_skipMarks "->").triple
  mvcgen [Read.returnType, type, arrow]
  all_goals grind

include ih in
theorem pathType_succ : Advances (Read.pathType inner (n + 1)) := by
  refine .of_triple fun c₀ => ?_
  have pathType := ih.pathType.triple
  have typeArguments := ih.typeArguments.triple
  have parameters := ih.parameters.triple
  have returnType := ih.returnType.triple
  have colons := (advances_skipMarks "::").triple
  have colons' := (advances_marks "::").triple
  have next := fun m => (gives_nextMarks m).triple
  have tree := (advances_tokenTree n).triple
  have bareName := fun t first => (advances_bareName t first).triple
  have peekAt := fun k => (gives_peekAt k).triple
  mvcgen [Read.pathType, pathType, typeArguments, parameters, returnType, colons, colons', next, tree,
    bareName, peekAt]
  all_goals grind

include ih in
theorem typeArguments_succ : Advances (Read.typeArguments inner (n + 1)) := by
  have argument : Advances (do
      Read.typeArgument inner n
      if ← next (Token.isMark ":") then Read.bounds inner n) := by
    refine .of_triple fun c₀ => ?_
    have typeArgument := ih.typeArgument.triple
    have bounds := ih.bounds.triple
    mvcgen [typeArgument, bounds]
    all_goals grind
  refine .of_triple fun c₀ => ?_
  have arguments := (argument.separated n ",").triple
  mvcgen [Read.typeArguments, arguments]
  all_goals grind

include nested ih in
theorem typeArgument_succ : Advances (Read.typeArgument inner (n + 1)) := by
  refine .of_triple fun c₀ => ?_
  have type := ih.type.triple
  have lifetime := advances_lifetime.triple
  have literal := advances_literal.triple
  have block := nested.block.triple
  mvcgen [Read.typeArgument, type, lifetime, literal, block]
  all_goals grind

include ih in
theorem bounds_succ : Gives (Read.bounds inner (n + 1)) fun c _ c' => Begins ":" c c' := by
  have bound : Advances ((do let _ ← Read.lifetime)
      <|> (do Read.quantifier inner n; let _ ← Read.plainType inner n)
      <|> (do let _ ← Read.plainType inner n)) := by
    refine .of_triple fun c₀ => ?_
    have lifetime := advances_lifetime.triple
    have quantifier := ih.quantifier.triple
    have plainType := ih.plainType.triple
    mvcgen [lifetime, quantifier, plainType]
    all_goals grind
  refine .of_triple fun c₀ => ?_
  have bounds := (bound.separated n "+").triple
  mvcgen [Read.bounds, bounds]
  all_goals grind [Begins]

include nested ih in
theorem parameters_succ : Advances (Read.parameters inner (n + 1)) := by
  refine advances_listIn ?_ n "(" ")"
  refine .of_triple fun c₀ => ?_
  have attributes := ((advances_attached nested n).many n).triple
  have type := ih.type.triple
  have pattern := nested.pattern.triple
  have region := advances_lifetime.maybe.triple
  have marks := fun m => (advances_marks m).triple
  mvcgen [attributes, type, pattern, region, marks]
  all_goals grind

include nested ih in
theorem typeParameters_succ : Gives (Read.typeParameters inner (n + 1)) ParamsAt := by
  have entry : Gives (do
      let _ ← many n (Read.attached inner n)
      Read.typeParameter inner n) ListedAt := by
    refine .of_triple fun c₀ => ?_
    have attributes := ((gives_attached nested n).many_chain n).triple
    have typeParameter := ih.typeParameter.triple
    mvcgen [attributes, typeParameter]
    grind [ListedAt]
  refine .of_triple fun c₀ => ?_
  have entries := (entry.separated_marks n ",").triple
  mvcgen [Read.typeParameters, entries]
  all_goals grind [ParamsAt.some]

include nested ih in
theorem typeParameter_succ : Gives (Read.typeParameter inner (n + 1)) EntryAt := by
  have literal : Advances (do
      let _ ← skip (Token.isMark "-")
      Read.literal) := by
    refine .of_triple fun c₀ => ?_
    have literal := advances_literal.triple
    mvcgen [literal]
    all_goals grind
  refine .of_triple fun c₀ => ?_
  have optionalBounds := ih.optionalBounds.triple
  have type := ih.type.triple
  have constant := (literal.orElse ((advances_kind .name).orElse nested.block)).triple
  have name := gives_name.triple
  have lifetime := gives_lifetime.triple
  mvcgen [-orElse_spec, Read.typeParameter, name, lifetime, optionalBounds, type, constant]
  all_goals
    grind [EntryAt, ParamAt, → ParamAt.const, → TypeAt.of_takes, DefaultAt, Begins]

include ih in
theorem optionalBounds_succ : Gives (Read.optionalBounds inner (n + 1)) BoundsAt := by
  refine .of_triple fun c₀ => ?_
  have bounds := ih.bounds.triple
  mvcgen [Read.optionalBounds, bounds]
  all_goals grind [BoundsAt]

end TypesAdvance

/-- **The readers of types advance**, if those of what is nested do, and parameters stand where they
are read. -/
theorem typesAdvance {inner : Inner} (nested : inner.Advances) (n : Nat) : TypesAdvance inner n := by
  induction n with
  | zero =>
      constructor
      all_goals
        intros
        exact .of_none fun _ => rfl
  | succ n ih =>
      exact {
        type := ih.type_succ
        plainType := ih.plainType_succ nested
        typeAmong := ih.typeAmong_succ
        constrainedType := ih.constrainedType_succ
        qualifiedSelf := ih.qualifiedSelf_succ
        quantifier := ih.quantifier_succ
        returnType := ih.returnType_succ
        pathType := ih.pathType_succ
        typeArguments := ih.typeArguments_succ
        typeArgument := ih.typeArgument_succ nested
        bounds := ih.bounds_succ
        parameters := ih.parameters_succ nested
        typeParameters := ih.typeParameters_succ nested
        typeParameter := ih.typeParameter_succ nested
        optionalBounds := ih.optionalBounds_succ }

end Narrowing.StructSource
