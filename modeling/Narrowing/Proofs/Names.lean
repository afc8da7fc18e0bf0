import Mathlib.Data.List.Nodup
import Narrowing.Code.FunctionModule
import Narrowing.Code.ImplFile
import Narrowing.Proofs.KeyedList

/-!
# The names of emitted conversions

Every conversion of one file brings a name of its own: a fallible impl the name of its
error struct, a function its own name.  Both are put together from the name of the
target and what is left of the source, with a fixed separator between the two.  This
module says exactly which conversions come to share a name.

### Two ways to share a name

A joined text does not say where its separator stands.  So two pairs are joined to one
text if they are equal, or if the text can be cut at its separator in a second place
(`Recut`); there is no third way (`join_eq_join_iff`).

What stands on the two sides of the separator is not the target and the source
themselves.  An error struct keeps only the letters and digits of the source
(`sourceLetters`), so its path, its brackets and its punctuation are lost.  A function
keeps the words of the target and of the last segment of the source in snake case
(`stem`, `sourceWords`), so letter case and the arguments are lost, and a target whose
name begins with `Try` may meet the prefix of a fallible function.

## Main statements

* `join_eq_join_iff` — when two pairs are joined to one text
* `nodup_errorStructs_iff` — when a file declares no error struct twice
* `nodup_exports_iff` — when no function of a module overwrites another
-/

namespace Narrowing.Code

/-! ## Joining with a separator -/

/-- **The text of the first pair can be cut at a later separator**, and the second pair is what
comes out: the first front and the separator, gone on with some text, are the second front and
the separator. -/
def Recut (separator front back front' back' : String) : Prop :=
  ∃ more, more ≠ "" ∧ front' ++ separator = front ++ separator ++ more ∧ back = more ++ back'

/-- Two texts put together in two ways: one of the fronts goes on to the other. -/
theorem exists_of_append_eq_append {front back front' back' : String}
    (same : front ++ back = front' ++ back') :
    (∃ more, front' = front ++ more ∧ back = more ++ back') ∨
      ∃ more, front = front' ++ more ∧ back' = more ++ back := by
  have lists := congrArg String.toList same
  rw [String.toList_append, String.toList_append] at lists
  rcases List.append_eq_append_iff.mp lists with ⟨more, longer, rest⟩ | ⟨more, longer, rest⟩
  · refine .inl ⟨String.ofList more, ?_, ?_⟩
    · rw [← String.toList_inj, String.toList_append, String.toList_ofList, longer]
    · rw [← String.toList_inj, String.toList_append, String.toList_ofList, rest]
  · refine .inr ⟨String.ofList more, ?_, ?_⟩
    · rw [← String.toList_inj, String.toList_append, String.toList_ofList, longer]
    · rw [← String.toList_inj, String.toList_append, String.toList_ofList, rest]

/-- One direction of `join_eq_join_iff`, where the first separator ends no later than the
second. -/
theorem eq_or_recut {separator front back front' back' more : String}
    (longer : front' ++ separator = front ++ separator ++ more) (rest : back = more ++ back') :
    (front = front' ∧ back = back') ∨ Recut separator front back front' back' := by
  by_cases empty : more = ""
  · subst empty
    rw [String.append_empty, String.append_left_inj] at longer
    rw [String.empty_append] at rest
    exact .inl ⟨longer.symm, rest⟩
  · exact .inr ⟨more, empty, longer, rest⟩

/-- **Two pairs are joined to one text** exactly when they are equal or the text can be cut in two
places. -/
theorem join_eq_join_iff {separator front back front' back' : String} :
    front ++ separator ++ back = front' ++ separator ++ back' ↔
      (front = front' ∧ back = back') ∨ Recut separator front back front' back' ∨
        Recut separator front' back' front back := by
  constructor
  · intro same
    rcases exists_of_append_eq_append same with ⟨more, longer, rest⟩ | ⟨more, longer, rest⟩
    · rcases eq_or_recut longer rest with equal | recut
      · exact .inl equal
      · exact .inr (.inl recut)
    · rcases eq_or_recut longer rest with ⟨equal, equal'⟩ | recut
      · exact .inl ⟨equal.symm, equal'.symm⟩
      · exact .inr (.inr recut)
  · rintro (⟨rfl, rfl⟩ | ⟨more, -, longer, rfl⟩ | ⟨more, -, longer, rfl⟩)
    · rfl
    · rw [← String.append_assoc, longer]
    · rw [← String.append_assoc, longer]

/-! ## Error structs -/

/-- What an error struct keeps of the source of its conversion: the letters and digits of its
last segment and of its arguments. -/
def sourceLetters (c : Conversion) : String :=
  String.ofList ((c.source.shortName ++ String.join (c.source.args.map Argument.value)).toList.filter
    Char.isAlphanum)

theorem errorName_eq (c : Conversion) :
    errorName c = c.target.name ++ "From" ++ sourceLetters c ++ "MissingField" := rfl

/-- **Two conversions share the name of their error structs** exactly when target and source
letters are equal, or one target goes on from the other with the separator. -/
theorem errorName_eq_iff {c d : Conversion} :
    errorName c = errorName d ↔
      (c.target.name = d.target.name ∧ sourceLetters c = sourceLetters d) ∨
        Recut "From" c.target.name (sourceLetters c) d.target.name (sourceLetters d) ∨
        Recut "From" d.target.name (sourceLetters d) c.target.name (sourceLetters c) := by
  rw [errorName_eq, errorName_eq, String.append_left_inj, join_eq_join_iff]

/-- The error structs that a file declares: those of its fallible impls, in order. -/
def ImplFile.errorStructs (cs : List Conversion) : List String :=
  cs.filterMap fun c => (Impl.ofConversion c).error

theorem ImplFile.errorStructs_eq (cs : List Conversion) :
    errorStructs cs = (cs.filter Conversion.isFallible).map errorName := by
  induction cs with
  | nil => rfl
  | cons c cs ih =>
      rw [errorStructs] at ih ⊢
      cases fallible : c.isFallible with
      | true =>
          have error : (Impl.ofConversion c).error = some (errorName c) := by
            simp [Impl.ofConversion, fallible]
          rw [List.filterMap_cons, error, List.filter_cons_of_pos fallible, List.map_cons, ← ih]
      | false =>
          have error : (Impl.ofConversion c).error = none := by
            simp [Impl.ofConversion, fallible]
          rw [List.filterMap_cons, error, List.filter_cons_of_neg (by simp [fallible]), ← ih]

/-- Names given to the members of a list are distinct exactly when no two members share one. -/
theorem nodup_map_iff_pairwise {α : Type} {name : α → String} {l : List α} :
    (l.map name).Nodup ↔ l.Pairwise fun a b => name a ≠ name b := by
  rw [List.Nodup, List.pairwise_map]

/-- **When a file declares no error struct twice.**  Two conversions share the name of their
error structs exactly when both their targets and what is kept of their sources are equal, or
when one target goes on from the other with the separator and the sources make up for it.  So
among fallible conversions of distinct targets only the latter is left to be excluded. -/
theorem nodup_errorStructs_iff (cs : List Conversion)
    (distinct : ((cs.filter Conversion.isFallible).map fun c => c.target.name).Nodup) :
    (∀ c d : Conversion, errorName c = errorName d ↔
      (c.target.name = d.target.name ∧ sourceLetters c = sourceLetters d) ∨
        Recut "From" c.target.name (sourceLetters c) d.target.name (sourceLetters d) ∨
        Recut "From" d.target.name (sourceLetters d) c.target.name (sourceLetters c)) ∧
    ((ImplFile.errorStructs cs).Nodup ↔
      (cs.filter Conversion.isFallible).Pairwise fun c d =>
        ¬ Recut "From" c.target.name (sourceLetters c) d.target.name (sourceLetters d) ∧
          ¬ Recut "From" d.target.name (sourceLetters d) c.target.name (sourceLetters c)) := by
  refine ⟨fun c d => errorName_eq_iff, ?_⟩
  rw [ImplFile.errorStructs_eq, nodup_map_iff_pairwise]
  rw [nodup_map_iff_pairwise] at distinct
  constructor
  · intro names
    refine names.imp fun different => ?_
    rw [Ne, errorName_eq_iff, not_or, not_or] at different
    exact different.2
  · intro apart
    refine (distinct.and apart).imp fun ⟨targets, apart⟩ => ?_
    rw [Ne, errorName_eq_iff, not_or, not_or]
    exact ⟨fun same => targets same.1, apart⟩

/-- A fallible conversion of the given target and source. -/
def unpacking (target source : String) (args : List Argument) : Conversion :=
  ⟨{ name := target, fields := [{ name := "x", type := "u8" }] }, ⟨source, args⟩,
    [⟨"x", "x", true, "u8", none⟩]⟩

/-- Two targets of which one goes on from the other with the separator, where the sources do not
make up for it; a third conversion is infallible. -/
def relatedConversions : List Conversion :=
  [unpacking "Foo" "crate::Bar" [.free "T", .bound "u32"],
    { unpacking "View" "Bar" [] with fields := [⟨"x", "x", false, "u8", none⟩] },
    unpacking "FooFromBar" "Baz" []]

theorem nodup_errorStructs_related :
    ((relatedConversions.filter Conversion.isFallible).map fun c => c.target.name).Nodup ∧
      ImplFile.errorStructs relatedConversions =
        ["FooFromBarTu32MissingField", "FooFromBarFromBazMissingField"] ∧
      (relatedConversions.filter Conversion.isFallible).Pairwise fun c d =>
        ¬ Recut "From" c.target.name (sourceLetters c) d.target.name (sourceLetters d) ∧
          ¬ Recut "From" d.target.name (sourceLetters d) c.target.name (sourceLetters c) := by
  have distinct :
      ((relatedConversions.filter Conversion.isFallible).map fun c => c.target.name).Nodup := by
    decide
  have names : ImplFile.errorStructs relatedConversions =
      ["FooFromBarTu32MissingField", "FooFromBarFromBazMissingField"] := by decide
  exact ⟨distinct, names, (nodup_errorStructs_iff _ distinct).2.mp (by rw [names]; decide)⟩

/-- A target whose source has the separator in its name. -/
def fooOfBarFromBaz : Declaration where
  schema := { name := "Foo", fields := [{ name := "x", type := "u8" }] }
  directive := some "from_type = 'BarFromBaz', unpack"

/-- A target that has the separator in its name. -/
def fooFromBarOfBaz : Declaration where
  schema := { name := "FooFromBar", fields := [{ name := "x", type := "u8" }] }
  directive := some "from_type = 'Baz', unpack"

/-- **Two fallible conversions of distinct targets whose error structs share their name.** -/
theorem errorName_of_infix :
    fooOfBarFromBaz.generate = .ok (unpacking "Foo" "BarFromBaz" []) ∧
      fooFromBarOfBaz.generate = .ok (unpacking "FooFromBar" "Baz" []) ∧
      ImplFile.errorStructs [unpacking "Foo" "BarFromBaz" [], unpacking "FooFromBar" "Baz" []] =
        ["FooFromBarFromBazMissingField", "FooFromBarFromBazMissingField"] := by
  decide +kernel

/-! ## Functions -/

/-- The name of a function up to the separator: the words of the target, behind a prefix if the
function is fallible. -/
def stem (c : Conversion) : String :=
  if c.isFallible then "try_" ++ Text.snakeCase c.target.name else Text.snakeCase c.target.name

/-- The name of a function behind the separator: the words of the last segment of the source. -/
def sourceWords (c : Conversion) : String := Text.snakeCase c.source.shortName

theorem functionName_eq (c : Conversion) :
    functionName c = stem c ++ "_from_" ++ sourceWords c := by
  rw [functionName, stem, sourceWords]
  split
  · have assoc (target source : String) :
        "try_" ++ (target ++ "_from_" ++ source) = "try_" ++ target ++ "_from_" ++ source := by
      simp only [String.append_assoc]
    exact assoc _ _
  · rfl

/-- **Two conversions share the name of their functions** exactly when stems and source words are
equal, or one stem goes on from the other with the separator. -/
theorem functionName_eq_iff {c d : Conversion} :
    functionName c = functionName d ↔
      (stem c = stem d ∧ sourceWords c = sourceWords d) ∨
        Recut "_from_" (stem c) (sourceWords c) (stem d) (sourceWords d) ∨
        Recut "_from_" (stem d) (sourceWords d) (stem c) (sourceWords c) := by
  rw [functionName_eq, functionName_eq, join_eq_join_iff]

namespace FunctionModule

/-- What the names of a module stand for once it has been loaded: a function takes the place of
an earlier one of its name. -/
def bindings (cs : List Conversion) : KeyedList Function :=
  .ofPairs (cs.map fun c => (functionName c, Function.ofConversion c))

/-- Where the exported names are distinct, each of them stands for its own function. -/
theorem get?_bindings_of_nodup {cs : List Conversion} (distinct : (exports cs).Nodup)
    {c : Conversion} (member : c ∈ cs) :
    (bindings cs).get? (functionName c) = some (Function.ofConversion c) := by
  have keys : (cs.map fun c => (functionName c, Function.ofConversion c)).map Prod.fst =
      exports cs := by
    rw [List.map_map]
    rfl
  rw [← keys] at distinct
  exact KeyedList.get?_ofPairs_of_mem distinct
    (List.mem_map_of_mem (f := fun c => (functionName c, Function.ofConversion c)) member)

/-- The function of a conversion names its target. -/
theorem target_eq_of_ofConversion_eq {c d : Conversion}
    (same : Function.ofConversion c = Function.ofConversion d) : c.target.name = d.target.name := by
  have bodies := congrArg (fun f => f.body.getLast?) same
  simp only [Function.ofConversion, List.getLast?_append, List.getLast?_singleton,
    Option.some_or, Option.some.injEq, Statement.build.injEq] at bodies
  exact bodies.1

/-- **When no function of a module overwrites another**, for conversions of distinct targets:
exactly when no two of them share a name, which they do if both stems and source words are equal
or if one stem goes on from the other with the separator and the source words make up for it.
The exported names are then distinct, and each of them stands for the function of exactly one
conversion; and only then does every name stand for the function of its own conversion. -/
theorem nodup_exports_iff (cs : List Conversion)
    (distinct : (cs.map fun c => c.target.name).Nodup) :
    ((exports cs).Nodup ↔ cs.Pairwise fun c d =>
      ¬ (stem c = stem d ∧ sourceWords c = sourceWords d) ∧
        ¬ Recut "_from_" (stem c) (sourceWords c) (stem d) (sourceWords d) ∧
        ¬ Recut "_from_" (stem d) (sourceWords d) (stem c) (sourceWords c)) ∧
    ((exports cs).Nodup → ∀ name ∈ exports cs, ∃! c, c ∈ cs ∧
      functionName c = name ∧ (bindings cs).get? name = some (Function.ofConversion c)) ∧
    ((∀ c ∈ cs, (bindings cs).get? (functionName c) = some (Function.ofConversion c)) →
      (exports cs).Nodup) := by
  refine ⟨?_, ?_, ?_⟩
  · rw [exports, nodup_map_iff_pairwise]
    refine List.Pairwise.iff fun c d => ?_
    rw [Ne, functionName_eq_iff, not_or, not_or]
  · intro names name exported
    obtain ⟨c, member, rfl⟩ := List.mem_map.mp exported
    refine ⟨c, ⟨member, rfl, get?_bindings_of_nodup names member⟩, ?_⟩
    rintro d ⟨member', same, -⟩
    exact List.inj_on_of_nodup_map names member' member same
  · intro bound
    rw [exports, List.nodup_map_iff_inj_on distinct.of_map]
    intro c member d member' same
    have functions : some (Function.ofConversion c) = some (Function.ofConversion d) := by
      rw [← bound c member, ← bound d member', same]
    exact List.inj_on_of_nodup_map distinct member member'
      (target_eq_of_ofConversion_eq (Option.some.inj functions))

/-- A fallible conversion and an infallible one of targets that differ in letter case only. -/
def mixedConversions : List Conversion :=
  [⟨{ name := "FooBar", fields := [{ name := "x", type := "int" }] },
      ⟨"lib.Baz", [.bound "int"]⟩, [⟨"x", "x", true, "int", none⟩]⟩,
    ⟨{ name := "foo_bar", fields := [{ name := "x", type := "int" }] }, ⟨"Baz", []⟩,
      [⟨"x", "x", false, "int", none⟩]⟩]

theorem nodup_exports_mixed :
    (mixedConversions.map fun c => c.target.name).Nodup ∧
      exports mixedConversions = ["try_foo_bar_from_baz", "foo_bar_from_baz"] ∧
      ∃! c, c ∈ mixedConversions ∧ functionName c = "foo_bar_from_baz" ∧
        (bindings mixedConversions).get? "foo_bar_from_baz" = some (Function.ofConversion c) := by
  have distinct : (mixedConversions.map fun c => c.target.name).Nodup := by decide
  have names : exports mixedConversions = ["try_foo_bar_from_baz", "foo_bar_from_baz"] := by
    decide +kernel
  have bound := (nodup_exports_iff mixedConversions distinct).2.1 (by rw [names]; decide)
  exact ⟨distinct, names, bound _ (by rw [names]; decide)⟩

/-- Two classes whose names differ in letter case only. -/
def capitalReply (name : String) : Declaration where
  schema := { name, fields := [{ name := "x", type := "int" }] }
  directive := some "from_type = 'Message'"

/-- The conversion of such a class. -/
def replyConversion (name : String) : Conversion :=
  ⟨(capitalReply name).schema, ⟨"Message", []⟩, [⟨"x", "x", false, "int", none⟩]⟩

/-- **Two conversions of distinct targets whose functions share their name**, so that the later
one takes the place of the earlier one. -/
theorem functionName_of_capitals :
    (capitalReply "HTTPReply").generate = .ok (replyConversion "HTTPReply") ∧
      (capitalReply "HttpReply").generate = .ok (replyConversion "HttpReply") ∧
      exports [replyConversion "HTTPReply", replyConversion "HttpReply"] =
        ["http_reply_from_message", "http_reply_from_message"] ∧
      (bindings [replyConversion "HTTPReply", replyConversion "HttpReply"]).get?
          "http_reply_from_message" =
        some (Function.ofConversion (replyConversion "HttpReply")) := by
  decide +kernel

end FunctionModule

end Narrowing.Code
