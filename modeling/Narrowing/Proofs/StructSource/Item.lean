import Narrowing.Proofs.StructSource.Type
import Narrowing.StructSource.Item

/-!
# Structs on the tokens

A struct of the item tree has been read somewhere: its keyword, its name and the
parameters behind it stand one behind the other on the token list (`StructItem.HeadedOn`).
That is kept for every struct of an item, in whatever module it stands (`Item.Each`).

All other items are passed over, but they have to be followed as well, since a struct is
read from where they end.  A pattern or an item only advances; its readers are grouped by
depth like those of types.

## Main statements

* `gives_structItem` — a struct is headed on the tokens
* `itemsHeaded` — so is every struct of an item
-/

set_option mvcgen.warning false

namespace Narrowing.StructSource

open Reading Reading.Cursor Reading.Reader Std.Do

/-! ## Patterns -/

theorem advances_skipRange : Advances Read.skipRange :=
  Advances.anyM advances_skipMarks Read.rangeMarks

theorem advances_signedLiteral : Advances Read.signedLiteral := by
  refine .of_triple fun c₀ => ?_
  have literal := advances_literal.triple
  mvcgen [Read.signedLiteral, literal]
  all_goals grind

theorem advances_rangeEnd (n : Nat) : Advances (Read.rangeEnd n) := by
  refine .of_triple fun c₀ => ?_
  have literal := advances_signedLiteral.triple
  have path := (advances_path n).triple
  mvcgen [Read.rangeEnd, literal, path]
  all_goals grind

theorem advances_valuePath {inner : Inner} (nested : inner.Advances) (n : Nat) :
    Advances (Read.valuePath inner n) := by
  induction n with
  | zero => exact .of_none fun _ => rfl
  | succ n ih =>
      refine .of_triple fun c₀ => ?_
      have colons := fun m => (advances_skipMarks m).triple
      have next := fun m => (gives_nextMarks m).triple
      have arguments := (typesAdvance nested n).typeArguments.triple
      have others := ih.triple
      mvcgen [Read.valuePath, colons, next, arguments, others]
      all_goals grind

/-- What the readers of patterns do at one depth. -/
structure PatternsAdvance (inner : Inner) (n : Nat) : Prop where
  pattern : Advances (Read.pattern inner n)
  plainPattern : Advances (Read.plainPattern inner n)
  namedPattern : Advances (Read.namedPattern inner n)
  fieldPattern : Advances (Read.fieldPattern inner n)

namespace PatternsAdvance

variable {inner : Inner} {n : Nat} (nested : inner.Advances) (ih : PatternsAdvance inner n)

include ih in
theorem pattern_succ : Advances (Read.pattern inner (n + 1)) := by
  refine .of_triple fun c₀ => ?_
  have alternatives := (ih.plainPattern.separated n "|").triple
  mvcgen [Read.pattern, alternatives]
  all_goals grind

include nested ih in
theorem plainPattern_succ : Advances (Read.plainPattern inner (n + 1)) := by
  refine .of_triple fun c₀ => ?_
  have plainPattern := ih.plainPattern.triple
  have namedPattern := ih.namedPattern.triple
  have listIn := fun opening closing => (advances_listIn ih.pattern n opening closing).triple
  have range := advances_skipRange.triple
  have bound := (advances_rangeEnd n).maybe.triple
  have literal := advances_signedLiteral.triple
  have block := nested.block.triple
  mvcgen [Read.plainPattern, plainPattern, namedPattern, listIn, range, bound, literal, block]
  all_goals grind

include nested ih in
theorem namedPattern_succ : Advances (Read.namedPattern inner (n + 1)) := by
  refine .of_triple fun c₀ => ?_
  have plainPattern := ih.plainPattern.triple
  have fields := (advances_listIn ih.fieldPattern n "\x7b" "\x7d").triple
  have patterns := (advances_listIn ih.pattern n "(" ")").triple
  have qualifiedSelf := (typesAdvance nested n).qualifiedSelf.triple
  have valuePath := (advances_valuePath nested n).triple
  have tree := (advances_tokenTree n).triple
  have range := advances_skipRange.triple
  have bound := (advances_rangeEnd n).maybe.triple
  mvcgen [Read.namedPattern, plainPattern, fields, patterns, qualifiedSelf, valuePath, tree, range,
    bound]
  all_goals grind

include nested ih in
theorem fieldPattern_succ : Advances (Read.fieldPattern inner (n + 1)) := by
  refine .of_triple fun c₀ => ?_
  have attributes := ((advances_attached nested n).many n).triple
  have pattern := ih.pattern.triple
  have dots := (advances_skipMarks "..").triple
  have key := ((advances_kind .name).orElse (advances_kind .number)).triple
  mvcgen [-orElse_spec, Read.fieldPattern, attributes, pattern, dots, key]
  all_goals grind

end PatternsAdvance

/-- **The readers of patterns advance**, if those of what is nested do. -/
theorem patternsAdvance {inner : Inner} (nested : inner.Advances) (n : Nat) :
    PatternsAdvance inner n := by
  induction n with
  | zero =>
      constructor
      all_goals exact .of_none fun _ => rfl
  | succ n ih =>
      exact {
        pattern := ih.pattern_succ
        plainPattern := ih.plainPattern_succ nested
        namedPattern := ih.namedPattern_succ nested
        fieldPattern := ih.fieldPattern_succ nested }

/-! ## Items -/

/-- **A struct is headed on a token list**: its parameters stand behind its name. -/
def StructItem.HeadedOn (ts : List Token) (s : StructItem) : Prop :=
  ∃ c c₁ c₂ c' keyword, c.On ts ∧ Takes c keyword c₁ ∧ keyword.isWord "struct" = true ∧
    NameAt c₁ s.name c₂ ∧ ParamsAt c₂ s.params c'

section

variable {inner : Inner} (nested : inner.Advances) (n : Nat)

theorem advances_visibility : Advances (Read.visibility n) := by
  have within : Advances (
      (do word "in"; let _ ← Read.path n)
        <|> (do let _ ← takeIf fun t => t.kind == .name && t.text ∈ ["self", "super", "crate"])) := by
    refine .of_triple fun c₀ => ?_
    have path := (advances_path n).triple
    mvcgen [path]
    all_goals grind
  have scope : Advances (do
      mark "("
      (do word "in"; let _ ← Read.path n)
        <|> (do let _ ← takeIf fun t => t.kind == .name && t.text ∈ ["self", "super", "crate"])
      mark ")") := by
    refine .of_triple fun c₀ => ?_
    have within := within.triple
    mvcgen [-orElse_spec, within]
    all_goals grind
  refine .of_triple fun c₀ => ?_
  have scope := scope.maybe.triple
  mvcgen [Read.visibility, scope]
  all_goals grind

include nested

theorem advances_whereClause : Advances (Read.whereClause inner n) := by
  have region : Advances (do let _ ← Read.lifetime) := by
    refine .of_triple fun c₀ => ?_
    have lifetime := advances_lifetime.triple
    mvcgen [lifetime]
    grind
  have condition : Advances (do
      (do let _ ← Read.lifetime) <|> Read.constrainedType inner n
      Read.bounds inner n) := by
    refine .of_triple fun c₀ => ?_
    have subject := (region.orElse (typesAdvance nested n).constrainedType).triple
    have bounds := (typesAdvance nested n).bounds.triple
    mvcgen [-orElse_spec, subject, bounds]
    all_goals grind
  have conditions : Advances (do
      let _ ← separated n "," (do
        (do let _ ← Read.lifetime) <|> Read.constrainedType inner n
        Read.bounds inner n)
      let _ ← skip (Token.isMark ",")) := by
    refine .of_triple fun c₀ => ?_
    have conditions := (condition.separated n ",").triple
    mvcgen [conditions]
    all_goals grind
  refine .of_triple fun c₀ => ?_
  have conditions := conditions.maybe.triple
  mvcgen [Read.whereClause, conditions]
  all_goals grind

theorem advances_skipWhere : Advances (Read.skipWhere inner n) := by
  refine .of_triple fun c₀ => ?_
  have clause := (advances_whereClause nested n).triple
  mvcgen [Read.skipWhere, clause]
  all_goals grind

theorem gives_skipParameters : Gives (Read.skipParameters inner n) ParamsAt := by
  refine .of_triple fun c₀ => ?_
  have parameters := (typesAdvance nested n).typeParameters.triple
  mvcgen [Read.skipParameters, parameters]
  all_goals grind [ParamsAt]

theorem advances_fieldMember : Advances (Read.fieldMember inner n) := by
  refine .of_triple fun c₀ => ?_
  have visibility := (advances_visibility n).triple
  have name := advances_name.triple
  have type := (typesAdvance nested n).type.triple
  mvcgen [Read.fieldMember, visibility, name, type]
  all_goals grind

theorem advances_members : Advances (Read.members inner n) := by
  have one : Advances (do
      let notes ← many n (.attached <$> Read.attached inner n)
      return notes ++ [← Read.fieldMember inner n]) := by
    have note : Advances (Member.attached <$> Read.attached inner n) := by
      refine .of_triple fun c₀ => ?_
      have attached := (advances_attached nested n).triple
      mvcgen [attached]
      all_goals grind
    refine .of_triple fun c₀ => ?_
    have notes := (note.many n).triple
    have field := (advances_fieldMember nested n).triple
    mvcgen [notes, field]
    all_goals grind
  refine .of_triple fun c₀ => ?_
  have all := (one.separated n ",").maybe.triple
  mvcgen [Read.members, all]
  all_goals grind

theorem advances_tupleMembers : Advances (Read.tupleMembers inner n) := by
  refine advances_listIn ?_ n "(" ")"
  refine .of_triple fun c₀ => ?_
  have attributes := ((advances_attached nested n).many n).triple
  have visibility := (advances_visibility n).triple
  have type := (typesAdvance nested n).type.triple
  mvcgen [attributes, visibility, type]
  all_goals grind

/-- **A struct is headed on the tokens** that it is read from. -/
theorem gives_structItem (ts : List Token) :
    Gives (Read.structItem inner n) (Passes ts (StructItem.HeadedOn ts)) := by
  refine .of_triple fun c₀ => ?_
  have visibility := (advances_visibility n).triple
  have name := gives_name.triple
  have parameters := (gives_skipParameters nested n).triple
  have clause := (advances_whereClause nested n).triple
  have skipWhere := (advances_skipWhere nested n).triple
  have members := (advances_members nested n).triple
  have tupleMembers := (advances_tupleMembers nested n).triple
  mvcgen [Read.structItem, visibility, name, parameters, clause, skipWhere, members, tupleMembers]
  all_goals grind [Passes, StructItem.HeadedOn]

theorem advances_enumeration : Advances (Read.enumeration inner n) := by
  have variant : Advances (do
      let _ ← many n (Read.attached inner n)
      Read.visibility n
      kind .name
      if ← next (Token.isMark "(") then Read.tupleMembers inner n
      else if ← next (Token.isMark "\x7b") then
        let _ ← Read.members inner n
      if ← skip (Token.isMark "=") then inner.expression) := by
    refine .of_triple fun c₀ => ?_
    have attributes := ((advances_attached nested n).many n).triple
    have visibility := (advances_visibility n).triple
    have tupleMembers := (advances_tupleMembers nested n).triple
    have members := (advances_members nested n).triple
    have expression := nested.expression.triple
    mvcgen [attributes, visibility, tupleMembers, members, expression]
    all_goals grind
  refine .of_triple fun c₀ => ?_
  have parameters := (gives_skipParameters nested n).triple
  have skipWhere := (advances_skipWhere nested n).triple
  have variants := (advances_listIn variant n "\x7b" "\x7d").triple
  mvcgen [Read.enumeration, parameters, skipWhere, variants]
  all_goals grind

theorem advances_unionItem : Advances (Read.unionItem inner n) := by
  refine .of_triple fun c₀ => ?_
  have parameters := (gives_skipParameters nested n).triple
  have skipWhere := (advances_skipWhere nested n).triple
  have members := (advances_members nested n).triple
  mvcgen [Read.unionItem, parameters, skipWhere, members]
  all_goals grind

theorem advances_typeItem : Advances (Read.typeItem inner n) := by
  refine .of_triple fun c₀ => ?_
  have parameters := (gives_skipParameters nested n).triple
  have skipWhere := (advances_skipWhere nested n).triple
  have bounds := (typesAdvance nested n).bounds.triple
  have type := (typesAdvance nested n).type.triple
  mvcgen [Read.typeItem, parameters, skipWhere, bounds, type]
  all_goals grind

theorem advances_constantItem : Advances (Read.constantItem inner n) := by
  refine .of_triple fun c₀ => ?_
  have type := (typesAdvance nested n).type.triple
  have expression := nested.expression.triple
  mvcgen [Read.constantItem, type, expression]
  all_goals grind

theorem advances_function : Advances (Read.function inner n) := by
  refine .of_triple fun c₀ => ?_
  have modifiers := (advances_functionModifiers n).triple
  have generics := (gives_skipParameters nested n).triple
  have parameters := (typesAdvance nested n).parameters.triple
  have returnType := (typesAdvance nested n).returnType.triple
  have skipWhere := (advances_skipWhere nested n).triple
  have block := nested.block.triple
  mvcgen [Read.function, modifiers, generics, parameters, returnType, skipWhere, block]
  all_goals grind

theorem advances_letItem : Advances (Read.letItem inner n) := by
  refine .of_triple fun c₀ => ?_
  have pattern := (patternsAdvance nested n).pattern.triple
  have type := (typesAdvance nested n).type.triple
  have expression := nested.expression.triple
  have block := nested.block.triple
  mvcgen [Read.letItem, pattern, type, expression, block]
  all_goals grind

theorem advances_innerAttribute : Advances (Read.innerAttribute inner n) := by
  refine .of_triple fun c₀ => ?_
  have path := (advances_path n).triple
  have tree := (advances_tokenTree n).triple
  have expression := nested.expression.triple
  mvcgen [Read.innerAttribute, path, tree, expression]
  all_goals grind

end

theorem advances_usePath (n : Nat) : Advances (Read.usePath n) := by
  induction n with
  | zero => exact .of_none fun _ => rfl
  | succ n ih =>
      refine .of_triple fun c₀ => ?_
      have path := ih.triple
      have paths := (advances_listIn ih n "\x7b" "\x7d").triple
      have colons := (advances_skipMarks "::").triple
      have next := (gives_nextMarks "::").triple
      mvcgen [Read.usePath, path, paths, colons, next]
      all_goals grind

theorem advances_useItem (n : Nat) : Advances (Read.useItem n) := by
  refine .of_triple fun c₀ => ?_
  have path := (advances_usePath n).triple
  mvcgen [Read.useItem, path]
  all_goals grind

theorem advances_macroRules (n : Nat) : Advances (Read.macroRules n) := by
  have rule : Advances (do
      let _ ← Read.tokenTree n
      Read.marks "=>"
      let _ ← Read.tokenTree n) := by
    refine .of_triple fun c₀ => ?_
    have tree := (advances_tokenTree n).triple
    have arrow := (advances_marks "=>").triple
    mvcgen [tree, arrow]
    all_goals grind
  refine .of_triple fun c₀ => ?_
  have rules := (rule.separated n ";").maybe.triple
  mvcgen [Read.macroRules, rules]
  all_goals grind

theorem gives_goesOn (braced : Bool) : Gives (Read.goesOn braced) fun c _ c' => c' = c := by
  refine .of_triple fun c₀ => ?_
  have marks := (gives_nextMarks "!=").triple
  mvcgen [Read.goesOn, marks]
  all_goals grind

theorem advances_macroCall (n : Nat) : Advances (Read.macroCall n) := by
  refine .of_triple fun c₀ => ?_
  have path := (advances_path n).triple
  have tree := (advances_tokenTree n).triple
  have goesOn := fun braced => (gives_goesOn braced).triple
  mvcgen [Read.macroCall, path, tree, goesOn]
  all_goals grind

/-! ## Item trees -/

/-- **Each struct of an item tree**, at any depth, has a property. -/
inductive Item.Each (P : StructItem → Prop) : Item → Prop
  | attached (note : Attribute) : Each P (.attached note)
  | struct {s : StructItem} (holds : P s) : Each P (.struct s)
  | module {items : List Item} (holds : ∀ item ∈ items, Each P item) : Each P (.module items)
  | other : Each P .other

/-- Each struct of an item is headed on a token list. -/
abbrev Item.HeadedOn (ts : List Token) (item : Item) : Prop := item.Each (StructItem.HeadedOn ts)

/-- What the readers of items do at one depth: they advance, and each struct that they give is headed
on the tokens. -/
structure ItemsHeaded (inner : Inner) (n : Nat) (ts : List Token) : Prop where
  item : Gives (Read.item inner n) (Passes ts (Item.HeadedOn ts))
  itemBlock : Gives (Read.itemBlock inner n) (Passes ts fun items => ∀ item ∈ items, item.HeadedOn ts)
  moduleItem : Gives (Read.moduleItem inner n) (Passes ts (Item.HeadedOn ts))
  foreignBlock : Advances (Read.foreignBlock inner n)
  implementation : Advances (Read.implementation inner n)
  traitItem : Advances (Read.traitItem inner n)

namespace ItemsHeaded

variable {inner : Inner} {n : Nat} {ts : List Token} (nested : inner.Advances)
  (ih : ItemsHeaded inner n ts)

include nested ih in
theorem item_succ : Gives (Read.item inner (n + 1)) (Passes ts (Item.HeadedOn ts)) := by
  have visible : Advances (do
      Read.visibility n
      Read.enumeration inner n <|> Read.unionItem inner n <|> Read.typeItem inner n
        <|> Read.constantItem inner n <|> Read.function inner n <|> Read.useItem n
        <|> Read.foreignBlock inner n <|> Read.traitItem inner n) := by
    have any := (advances_enumeration nested n).orElse <| (advances_unionItem nested n).orElse <|
      (advances_typeItem nested n).orElse <| (advances_constantItem nested n).orElse <|
      (advances_function nested n).orElse <| (advances_useItem n).orElse <|
      ih.foreignBlock.orElse ih.traitItem
    refine .of_triple fun c₀ => ?_
    have visibility := (advances_visibility n).triple
    have any := any.triple
    mvcgen [-orElse_spec, visibility, any]
    grind
  have empty : Advances (mark ";") := by
    refine .of_triple fun c₀ => ?_
    mvcgen
    grind
  have others := empty.orElse <| (advances_innerAttribute nested n).orElse <|
    (advances_letItem nested n).orElse <| ih.implementation.orElse <|
    (advances_macroRules n).orElse <| visible.orElse (advances_macroCall n)
  have attached : Gives (Item.attached <$> Read.attached inner n) (Passes ts (Item.HeadedOn ts)) := by
    refine .of_triple fun c₀ => ?_
    have attached := (advances_attached nested n).triple
    mvcgen [attached]
    grind [Passes, Item.Each]
  have struct : Gives (Item.struct <$> Read.structItem inner n) (Passes ts (Item.HeadedOn ts)) := by
    refine .of_triple fun c₀ => ?_
    have structItem := (gives_structItem nested n ts).triple
    mvcgen [structItem]
    grind [Passes, Item.Each]
  have module : Gives (do Read.visibility n; Read.moduleItem inner n)
      (Passes ts (Item.HeadedOn ts)) := by
    refine .of_triple fun c₀ => ?_
    have visibility := (advances_visibility n).triple
    have moduleItem := ih.moduleItem.triple
    mvcgen [visibility, moduleItem]
    grind [Passes]
  rw [Read.item]
  refine attached.orElse <| struct.orElse <| module.orElse <| .of_triple fun c₀ => ?_
  have others := others.triple
  mvcgen [-orElse_spec, others]
  grind [Passes, Item.Each]

include ih in
theorem itemBlock_succ : Gives (Read.itemBlock inner (n + 1))
    (Passes ts fun items => ∀ item ∈ items, item.HeadedOn ts) := by
  refine .of_triple fun c₀ => ?_
  have items := (ih.item.many_passes n).triple
  mvcgen [Read.itemBlock, items]
  grind [Passes]

include ih in
theorem moduleItem_succ : Gives (Read.moduleItem inner (n + 1)) (Passes ts (Item.HeadedOn ts)) := by
  refine .of_triple fun c₀ => ?_
  have block := ih.itemBlock.triple
  mvcgen [Read.moduleItem, block]
  all_goals grind [Passes, Item.Each]

include ih in
theorem foreignBlock_succ : Advances (Read.foreignBlock inner (n + 1)) := by
  refine .of_triple fun c₀ => ?_
  have block := ih.itemBlock.advances.triple
  mvcgen [Read.foreignBlock, block]
  all_goals grind

include nested ih in
theorem implementation_succ : Advances (Read.implementation inner (n + 1)) := by
  refine .of_triple fun c₀ => ?_
  have parameters := (gives_skipParameters nested n).triple
  have type := (typesAdvance nested n).type.triple
  have skipWhere := (advances_skipWhere nested n).triple
  have block := ih.itemBlock.advances.triple
  mvcgen [Read.implementation, parameters, type, skipWhere, block]
  all_goals grind

include nested ih in
theorem traitItem_succ : Advances (Read.traitItem inner (n + 1)) := by
  refine .of_triple fun c₀ => ?_
  have parameters := (gives_skipParameters nested n).triple
  have bounds := (typesAdvance nested n).bounds.triple
  have skipWhere := (advances_skipWhere nested n).triple
  have block := ih.itemBlock.advances.triple
  mvcgen [Read.traitItem, parameters, bounds, skipWhere, block]
  all_goals grind

end ItemsHeaded

/-- **Each struct of an item is headed on the tokens.** -/
theorem itemsHeaded {inner : Inner} (nested : inner.Advances) (n : Nat) (ts : List Token) :
    ItemsHeaded inner n ts := by
  induction n with
  | zero =>
      constructor
      all_goals exact .of_none fun _ => rfl
  | succ n ih =>
      exact {
        item := ih.item_succ nested
        itemBlock := ih.itemBlock_succ
        moduleItem := ih.moduleItem_succ
        foreignBlock := ih.foreignBlock_succ
        implementation := ih.implementation_succ nested
        traitItem := ih.traitItem_succ nested }

end Narrowing.StructSource
