import Narrowing.Proofs.Directive.Grammar
import Narrowing.Proofs.Directive.Options

/-!
# Options are a set

What a directive says is stated here of its items as a set: `SchemaOptions.StatedBy` and
`FieldOptions.StatedBy` speak of membership and of distinct keys, never of order or of the
text.  A directive is read exactly when its items state options, and then as these; so items
in another order are read as the same options.

### What is reported

The keys are gone through before any value is looked at.  A stray key is therefore reported
first, whatever the values are: an unknown key under one kind for schemas and fields, a
repeated key as malformed for a schema and as contradictory for a field.  A source that is
missing is reported next, and still before any value.

## Main statements

* `SchemaOptions.ofText_eq_ok_iff`, `FieldOptions.ofText_eq_ok_iff` — the directives that
  are read, and as what
* `Item.exists_text_of_perm` — items can be written in any order
* `options_outcome` — all of this, with what is reported otherwise
-/

namespace Narrowing.Directive

/-! ## What a set of items states -/

/-- The values that stand for a boolean: a key alone, and two spellings each. -/
def Value.booleans : List (Value × Bool) :=
  [(.flag, true), (.name "true", true), (.name "True", true), (.name "false", false),
    (.name "False", false)]

theorem Value.toBool?_eq_some_iff {value : Value} {b : Bool} :
    value.toBool? = some b ↔ (value, b) ∈ booleans := by
  cases value with
  | flag => cases b <;> simp [toBool?, booleans]
  | name text =>
      simp only [toBool?, booleans, List.mem_cons, Prod.mk.injEq, reduceCtorEq, false_and, name.injEq,
        false_or, List.not_mem_nil, or_false]
      grind
  | string text => simp [toBool?, booleans]

/-- The value stands for the boolean. -/
def Value.IsBoolean (value : Value) (b : Bool) : Prop := (value, b) ∈ booleans

/-- The value is a string that is not blank; the source is what is between its outer blanks. -/
def Value.NamesSource (value : Value) (source : String) : Prop :=
  ∃ text, value = .string text ∧ Text.allBlank text.toList = false ∧ source = Text.trim text

/-- The value is a string with an identifier between its outer blanks, which is the field. -/
def Value.NamesField (value : Value) (field : String) : Prop :=
  ∃ text, value = .string text ∧ field = Text.trim text ∧ Text.isIdentifier field.toList = true

/-- **What items state under a key**: nothing if no item has the key, or what the value of such an
item stands for. -/
def States {α : Type} (items : List Item) (key : String) (StandsFor : Value → α → Prop) :
    Option α → Prop
  | none => key ∉ items.map Item.key
  | some a => ∃ value, ⟨key, value⟩ ∈ items ∧ StandsFor value a

/-- **The items of a schema state its options.** -/
structure SchemaOptions.StatedBy (o : SchemaOptions) (items : List Item) : Prop where
  /-- The keys are known and distinct. -/
  keys : Orderly (· ∈ Scope.schema.keys) (items.map Item.key)
  /-- The source is stated. -/
  source : States items "from_type" Value.NamesSource (some o.source)
  /-- Fields are not unpacked unless it is stated. -/
  unpack : ∃ stated, States items "unpack" Value.IsBoolean stated ∧ o.unpack = stated.getD false

/-- **The items of a field state its options.** -/
structure FieldOptions.StatedBy (o : FieldOptions) (items : List Item) : Prop where
  /-- The keys are known and distinct. -/
  keys : Orderly (· ∈ Scope.field.keys) (items.map Item.key)
  /-- Another source field is stated, or none. -/
  source : States items "rename_from" Value.NamesField o.source
  /-- Unpacking is stated, or nothing about it. -/
  unpack : States items "unpack" Value.IsBoolean o.unpack

section Order

variable {items items' : List Item} (perm : items'.Perm items)

include perm

theorem orderly_keys_of_perm {scope : Scope} :
    Orderly (· ∈ scope.keys) (items'.map Item.key) ↔
      Orderly (· ∈ scope.keys) (items.map Item.key) := by
  have keys := perm.map Item.key
  constructor
  · rintro ⟨known, distinct⟩
    exact ⟨fun key member => known key (keys.mem_iff.mpr member), keys.nodup_iff.mp distinct⟩
  · rintro ⟨known, distinct⟩
    exact ⟨fun key member => known key (keys.mem_iff.mp member), keys.nodup_iff.mpr distinct⟩

theorem states_of_perm {α : Type} {key : String} {StandsFor : Value → α → Prop}
    {stated : Option α} : States items' key StandsFor stated ↔ States items key StandsFor stated := by
  cases stated with
  | none => rw [States, States, (perm.map Item.key).mem_iff]
  | some a => simp only [States, perm.mem_iff]

/-- The order of the items of a schema does not matter. -/
theorem SchemaOptions.statedBy_of_perm {o : SchemaOptions} :
    o.StatedBy items' ↔ o.StatedBy items := by
  constructor
  · rintro ⟨keys, source, unpack⟩
    simp only [states_of_perm perm] at source unpack
    exact ⟨(orderly_keys_of_perm perm).mp keys, source, unpack⟩
  · rintro ⟨keys, source, unpack⟩
    simp only [← states_of_perm perm] at source unpack
    exact ⟨(orderly_keys_of_perm perm).mpr keys, source, unpack⟩

/-- The order of the items of a field does not matter. -/
theorem FieldOptions.statedBy_of_perm {o : FieldOptions} :
    o.StatedBy items' ↔ o.StatedBy items := by
  constructor
  · rintro ⟨keys, source, unpack⟩
    exact ⟨(orderly_keys_of_perm perm).mp keys, (states_of_perm perm).mp source,
      (states_of_perm perm).mp unpack⟩
  · rintro ⟨keys, source, unpack⟩
    exact ⟨(orderly_keys_of_perm perm).mpr keys, (states_of_perm perm).mpr source,
      (states_of_perm perm).mpr unpack⟩

end Order

/-! ## Reading what is stated -/

section Reading

variable {items : List Item}

theorem Value.toString?_eq_some_iff {value : Value} {text : String} :
    value.toString? = some text ↔ value = .string text := by
  cases value <;> simp [toString?]

theorem Options.string?_eq_ok_iff {key : String} {value : Value} {text : String} :
    string? key value = .ok text ↔ value = .string text := by
  rw [string?, ← Value.toString?_eq_some_iff]
  cases value.toString? <;> simp

section Stated

variable {α : Type} {key : String} {StandsFor : Value → α → Prop} {stated : Option α}

/-- Nothing is stated under a key that is missing. -/
theorem states_iff_of_get?_eq_none (found : (Options.ofItems items).get? key = none) :
    States items key StandsFor stated ↔ stated = none := by
  have missing := Options.get?_ofItems_eq_none_iff.mp found
  cases stated with
  | none => exact iff_of_true missing rfl
  | some a =>
      refine iff_of_false ?_ nofun
      rintro ⟨value, member, -⟩
      exact missing (List.mem_map_of_mem member)

/-- Under a key that is there, it is stated what its value stands for. -/
theorem states_iff_of_get?_eq_some (distinct : (items.map Item.key).Nodup) {value : Value}
    (found : (Options.ofItems items).get? key = some value) :
    States items key StandsFor stated ↔ ∃ a, StandsFor value a ∧ some a = stated := by
  have member := (Options.get?_ofItems_eq_some_iff distinct).mp found
  cases stated with
  | none =>
      refine iff_of_false (fun missing => missing (List.mem_map_of_mem member)) ?_
      rintro ⟨a, -, none⟩
      cases none
  | some a =>
      constructor
      · rintro ⟨value', member', stands⟩
        rw [← Options.get?_ofItems_eq_some_iff distinct, found, Option.some.injEq] at member'
        subst member'
        exact ⟨a, stands, rfl⟩
      · rintro ⟨_, stands, same⟩
        cases same
        exact ⟨value, member, stands⟩

end Stated

variable (distinct : (items.map Item.key).Nodup)

include distinct

/-- What is read about unpacking is what the items state. -/
theorem Options.bool?_ofItems_eq_ok_iff {stated : Option Bool} :
    (ofItems items).bool? "unpack" = .ok stated ↔
      States items "unpack" Value.IsBoolean stated := by
  rw [bool?]
  cases found : (ofItems items).get? "unpack" with
  | none => rw [states_iff_of_get?_eq_none found, Except.ok.injEq, eq_comm]
  | some value =>
      simp only [states_iff_of_get?_eq_some distinct found, Value.IsBoolean,
        ← Value.toBool?_eq_some_iff]
      cases value.toBool? with
      | none => simp
      | some b => simp

/-- What is read about renaming is what the items state. -/
theorem FieldOptions.source?_ofItems_eq_ok_iff {stated : Option String} :
    source? (Options.ofItems items) = .ok stated ↔
      States items "rename_from" Value.NamesField stated := by
  rw [source?]
  cases found : (Options.ofItems items).get? "rename_from" with
  | none => rw [states_iff_of_get?_eq_none found, Except.ok.injEq, eq_comm]
  | some value =>
      rw [states_iff_of_get?_eq_some distinct found]
      constructor
      · intro read
        dsimp only at read
        split at read
        · cases read
        next text written =>
        split at read
        · next identifier =>
            cases read
            exact ⟨_, ⟨text, Options.string?_eq_ok_iff.mp written, rfl, identifier⟩, rfl⟩
        · cases read
      · rintro ⟨_, ⟨text, rfl, rfl, identifier⟩, rfl⟩
        exact if_pos identifier

/-- The options of a schema are read exactly when they are stated. -/
theorem SchemaOptions.ofOptions_ofItems_eq_ok_iff {o : SchemaOptions} :
    ofOptions (Options.ofItems items) = .ok o ↔
      States items "from_type" Value.NamesSource (some o.source) ∧
        ∃ stated, States items "unpack" Value.IsBoolean stated ∧ o.unpack = stated.getD false := by
  simp only [← Options.bool?_ofItems_eq_ok_iff distinct]
  rw [ofOptions]
  cases found : (Options.ofItems items).get? "from_type" with
  | none =>
      rw [states_iff_of_get?_eq_none found]
      constructor
      · intro read
        cases read
      · rintro ⟨missing, -⟩
        cases missing
  | some value =>
      rw [states_iff_of_get?_eq_some distinct found]
      constructor
      · intro read
        dsimp only at read
        split at read
        · cases read
        next text written =>
        split at read
        · cases read
        next visible =>
        obtain ⟨stated, unpack, rfl⟩ := map_eq_ok_iff.mp read
        have names : value.NamesSource (Text.trim text) :=
          ⟨text, Options.string?_eq_ok_iff.mp written, Bool.eq_false_iff.mpr visible, rfl⟩
        exact ⟨⟨_, names, rfl⟩, stated, unpack, rfl⟩
      · obtain ⟨source, flag⟩ := o
        rintro ⟨⟨_, ⟨text, rfl, visible, rfl⟩, same⟩, stated, unpack, rfl⟩
        cases same
        simp only [Options.string?, Value.toString?, visible, Bool.false_eq_true, if_false, unpack]
        rfl

/-- The options of a field are read exactly when they are stated. -/
theorem FieldOptions.ofOptions_ofItems_eq_ok_iff {o : FieldOptions} :
    ofOptions (Options.ofItems items) = .ok o ↔
      States items "rename_from" Value.NamesField o.source ∧
        States items "unpack" Value.IsBoolean o.unpack := by
  rw [← source?_ofItems_eq_ok_iff distinct, ← Options.bool?_ofItems_eq_ok_iff distinct, ofOptions]
  cases source? (Options.ofItems items) with
  | error fault =>
      constructor
      · intro read
        cases read
      · rintro ⟨missing, -⟩
        cases missing
  | ok source =>
      dsimp only
      rw [map_eq_ok_iff]
      constructor
      · rintro ⟨unpack, read, rfl⟩
        exact ⟨rfl, read⟩
      · rintro ⟨same, read⟩
        cases same
        exact ⟨_, read, rfl⟩

end Reading

/-- What is made of collected items is made of items with known and distinct keys. -/
theorem Options.collect_bind_eq_ok_iff {α : Type} {scope : Scope} {items : List Item}
    {read : Options → Except Fault α} {a : α} :
    collect scope [] items >>= read = .ok a ↔
      Orderly (· ∈ scope.keys) (items.map Item.key) ∧ read (ofItems items) = .ok a := by
  simp only [bind_eq_ok_iff, collect_eq_ok_iff, and_assoc, exists_and_left, exists_eq_left]

/-! ## Directive texts -/

section Texts

variable {text : String} {items : List Item} (visible : Text.allBlank text.toList = false)
  (parsed : Item.ofText text = .ok items)

include visible parsed

/-- The directive of a schema is read in two stages: its keys, then its values. -/
theorem SchemaOptions.ofText_eq_bind :
    ofText (some text) = Options.collect .schema [] items >>= ofOptions := by
  rw [ofText, isSilent, visible, if_neg Bool.false_ne_true, Option.getD_some, Options.ofText, parsed]
  dsimp only
  cases Options.collect .schema [] items <;> rfl

/-- So is the directive of a field. -/
theorem FieldOptions.ofText_eq_bind :
    ofText (some text) = Options.collect .field [] items >>= ofOptions := by
  rw [ofText, isSilent, visible, if_neg Bool.false_ne_true, Option.getD_some, Options.ofText, parsed]
  dsimp only
  cases Options.collect .field [] items <;> rfl

/-- **The directive of a schema is read as what its items state.** -/
theorem SchemaOptions.ofText_eq_ok_iff {o : SchemaOptions} :
    ofText (some text) = .ok o ↔ o.StatedBy items := by
  rw [ofText_eq_bind visible parsed, Options.collect_bind_eq_ok_iff]
  constructor
  · rintro ⟨keys, read⟩
    obtain ⟨source, unpack⟩ := (ofOptions_ofItems_eq_ok_iff keys.distinct).mp read
    exact ⟨keys, source, unpack⟩
  · rintro ⟨keys, source, unpack⟩
    exact ⟨keys, (ofOptions_ofItems_eq_ok_iff keys.distinct).mpr ⟨source, unpack⟩⟩

/-- **The directive of a field is read as what its items state.** -/
theorem FieldOptions.ofText_eq_ok_iff {o : FieldOptions} :
    ofText (some text) = .ok o ↔ o.StatedBy items := by
  rw [ofText_eq_bind visible parsed, Options.collect_bind_eq_ok_iff]
  constructor
  · rintro ⟨keys, read⟩
    obtain ⟨source, unpack⟩ := (ofOptions_ofItems_eq_ok_iff keys.distinct).mp read
    exact ⟨keys, source, unpack⟩
  · rintro ⟨keys, source, unpack⟩
    exact ⟨keys, (ofOptions_ofItems_eq_ok_iff keys.distinct).mpr ⟨source, unpack⟩⟩

/-- **Items can be written in any order**, as a text that is not blank either. -/
theorem Item.exists_text_of_perm {items' : List Item} (perm : items'.Perm items) :
    ∃ text', Text.allBlank text'.toList = false ∧ ofText text' = .ok items' := by
  rw [ofText_eq_readFrom, readFrom_eq_ok_iff] at parsed
  have printable : ∀ p ∈ items'.map (({} : Layout), ·), p.2.Printable := by
    intro p member
    obtain ⟨i, written, rfl⟩ := List.mem_map.mp member
    exact parsed.printable i (perm.mem_iff.mp written)
  have back : (items'.map (({} : Layout), ·)).map Prod.snd = items' := by
    rw [List.map_map]
    exact List.map_id items'
  have written := writtenList_printList false ⟨[], rfl⟩ printable
  rw [back] at written
  generalize printList false _ _ = s at written
  refine ⟨String.ofList s, ?_, ?_⟩
  · rw [String.toList_ofList, Bool.eq_false_iff]
    intro blank
    -- A blank text has no items, and neither would the given one have any.
    have none : items' = [] := by
      have same := (readFrom_of_blank blank 1).symm.trans (written.readFrom 1)
      exact (Except.ok.inj same).symm
    rw [none, List.nil_perm] at perm
    subst perm
    rw [writtenList_nil_iff.mp parsed] at visible
    cases visible
  · rw [ofText_eq_readFrom, readFrom_eq_ok_iff, String.toList_ofList]
    exact written

/-! ## What is reported -/

/-- **The first stray key of a schema is reported**, whatever the values are. -/
theorem SchemaOptions.ofText_of_firstStray {i : Nat} {key : String}
    (stray : FirstStray (· ∈ Scope.schema.keys) (items.map Item.key) i key) :
    ofText (some text) =
      .error (if key ∈ Scope.schema.keys then .repeatedOption key .schema
        else .unknownOption key .schema) := by
  rw [ofText_eq_bind visible parsed, Options.collect_of_firstStray stray]
  rfl

/-- **The first stray key of a field is reported**, whatever the values are. -/
theorem FieldOptions.ofText_of_firstStray {i : Nat} {key : String}
    (stray : FirstStray (· ∈ Scope.field.keys) (items.map Item.key) i key) :
    ofText (some text) =
      .error (if key ∈ Scope.field.keys then .repeatedOption key .field
        else .unknownOption key .field) := by
  rw [ofText_eq_bind visible parsed, Options.collect_of_firstStray stray]
  rfl

omit visible parsed in
/-- Of the options collected, only the source can be missing. -/
theorem SchemaOptions.kind_eq_missingFromType_iff {options : Options} {fault : Fault}
    (failed : ofOptions options = .error fault) :
    fault.kind = .missingFromType ↔ options.get? "from_type" = none := by
  rw [ofOptions] at failed
  split at failed
  · next missing =>
      cases failed
      exact iff_of_true rfl missing
  next value found =>
  refine iff_of_false (fun kind => ?_) (by simp [found])
  split at failed
  · next wrong =>
      cases failed
      rw [Options.string?] at wrong
      split at wrong <;> cases wrong
      cases kind
  split at failed
  · cases failed
    cases kind
  · have wrong := map_eq_error_iff.mp failed
    rw [Options.bool?] at wrong
    split at wrong
    · cases wrong
    · split at wrong <;> cases wrong
      cases kind

/-- **A missing source is reported exactly when the keys are known and distinct**, and the source
is not among them. -/
theorem SchemaOptions.exists_missingFromType_iff :
    (∃ fault, ofText (some text) = .error fault ∧ fault.kind = .missingFromType) ↔
      Orderly (· ∈ Scope.schema.keys) (items.map Item.key) ∧ "from_type" ∉ items.map Item.key := by
  by_cases orderly : Orderly (· ∈ Scope.schema.keys) (items.map Item.key)
  · have collected : ofText (some text) = ofOptions (Options.ofItems items) := by
      rw [ofText_eq_bind visible parsed, Options.collect_of_orderly orderly]
      rfl
    rw [collected, and_iff_right orderly, ← Options.get?_ofItems_eq_none_iff]
    constructor
    · rintro ⟨fault, failed, kind⟩
      exact (kind_eq_missingFromType_iff failed).mp kind
    · intro missing
      exact ⟨.sourceMissing, by rw [ofOptions, missing], rfl⟩
  · obtain ⟨i, key, stray⟩ := exists_firstStray orderly
    rw [ofText_of_firstStray visible parsed stray]
    refine iff_of_false ?_ fun known => orderly known.1
    rintro ⟨fault, failed, kind⟩
    rw [Except.error.injEq] at failed
    subst failed
    split at kind <;> cases kind

end Texts

/-- **The options of a directive are a set, and the verdict on them is exact.**  A directive that
is not blank and whose items are read gives options exactly when its items state them: the keys
are known and distinct, a schema has a source, and every value stands for what its key needs.  So
the items can be written in any order, and the options stay the same, or stay refused.  A stray
key is reported before anything else, at the first place: if it is unknown as malformed, if it
repeats as malformed in a schema and as contradictory in a field.  The source of a schema is
reported missing exactly when the keys are known and distinct without it, whatever the values
are. -/
theorem options_outcome {text : String} {items : List Item}
    (visible : Text.allBlank text.toList = false) (parsed : Item.ofText text = .ok items) :
    (∀ o : SchemaOptions, SchemaOptions.ofText (some text) = .ok o ↔ o.StatedBy items) ∧
    (∀ o : FieldOptions, FieldOptions.ofText (some text) = .ok o ↔ o.StatedBy items) ∧
    (∀ items' : List Item, items'.Perm items →
      (∃ text' : String, Text.allBlank text'.toList = false ∧ Item.ofText text' = .ok items') ∧
      ∀ text' : String, Text.allBlank text'.toList = false → Item.ofText text' = .ok items' →
        (∀ o, SchemaOptions.ofText (some text') = .ok o ↔
          SchemaOptions.ofText (some text) = .ok o) ∧
        ∀ o, FieldOptions.ofText (some text') = .ok o ↔ FieldOptions.ofText (some text) = .ok o) ∧
    (∀ i key, FirstStray (· ∈ Scope.schema.keys) (items.map Item.key) i key →
      ∃ fault, SchemaOptions.ofText (some text) = .error fault ∧
        fault.kind = .malformedDirective ∧
        fault = if key ∈ Scope.schema.keys then .repeatedOption key .schema
          else .unknownOption key .schema) ∧
    (∀ i key, FirstStray (· ∈ Scope.field.keys) (items.map Item.key) i key →
      ∃ fault, FieldOptions.ofText (some text) = .error fault ∧
        if key ∈ Scope.field.keys then
          fault = .repeatedOption key .field ∧ fault.kind = .conflictingFieldDirective
        else fault = .unknownOption key .field ∧ fault.kind = .malformedDirective) ∧
    ((∃ fault, SchemaOptions.ofText (some text) = .error fault ∧ fault.kind = .missingFromType) ↔
      Orderly (· ∈ Scope.schema.keys) (items.map Item.key) ∧
        "from_type" ∉ items.map Item.key) := by
  refine ⟨fun o => SchemaOptions.ofText_eq_ok_iff visible parsed,
    fun o => FieldOptions.ofText_eq_ok_iff visible parsed, fun items' perm => ⟨?_, ?_⟩,
    fun i key stray => ?_, fun i key stray => ?_,
    SchemaOptions.exists_missingFromType_iff visible parsed⟩
  · exact Item.exists_text_of_perm visible parsed perm
  · intro text' visible' parsed'
    constructor
    · intro o
      rw [SchemaOptions.ofText_eq_ok_iff visible' parsed', SchemaOptions.statedBy_of_perm perm,
        SchemaOptions.ofText_eq_ok_iff visible parsed]
    · intro o
      rw [FieldOptions.ofText_eq_ok_iff visible' parsed', FieldOptions.statedBy_of_perm perm,
        FieldOptions.ofText_eq_ok_iff visible parsed]
  · refine ⟨_, SchemaOptions.ofText_of_firstStray visible parsed stray, ?_, rfl⟩
    split <;> rfl
  · refine ⟨_, FieldOptions.ofText_of_firstStray visible parsed stray, ?_⟩
    split
    · exact ⟨rfl, rfl⟩
    · exact ⟨rfl, rfl⟩

/-- A directive with its source behind the other option, and the same options in the other order
and in another spelling. -/
theorem options_outcome_reordered :
    Text.allBlank "unpack = False, from_type = ' Bar<#T> '".toList = false ∧
      Item.ofText "unpack = False, from_type = ' Bar<#T> '" =
        .ok [⟨"unpack", .name "False"⟩, ⟨"from_type", .string " Bar<#T> "⟩] ∧
      SchemaOptions.ofText (some "from_type=\" Bar<#T> \",unpack=False,") =
        .ok ⟨"Bar<#T>", false⟩ := by
  have visible : Text.allBlank "unpack = False, from_type = ' Bar<#T> '".toList = false := by
    decide
  have parsed : Item.ofText "unpack = False, from_type = ' Bar<#T> '" =
      .ok [⟨"unpack", .name "False"⟩, ⟨"from_type", .string " Bar<#T> "⟩] := by decide +kernel
  have parsed' : Item.ofText "from_type=\" Bar<#T> \",unpack=False," =
      .ok [⟨"from_type", .string " Bar<#T> "⟩, ⟨"unpack", .name "False"⟩] := by decide +kernel
  have same := (options_outcome visible parsed).2.2.1 _ (List.Perm.swap _ _ _)
  refine ⟨visible, parsed, ((same.2 _ (by decide) parsed').1 _).mpr ?_⟩
  decide +kernel

end Narrowing.Directive
