import Narrowing.Proofs.Lifetime
import Narrowing.Proofs.Reference.Spelling

/-!
# The anonymous lifetime of an argument

An emitted impl has to declare every lifetime of its source, and the anonymous one
cannot be declared.  Reading a reference therefore refuses it.  Whether the refusal
is right can be judged by the scan that would have to declare it: a refusal is needed
exactly when the scan of the argument gives the anonymous lifetime.

Both walk over the argument, and `Proofs.Lifetime` says of each walk what it looks
for.  The two descriptions differ in one place only: a quote behind `'_`.  It closes
a character literal, which the scan leaves out as it leaves out every other literal,
while reading does not look at it.  An underscore in quotes is refused although
no lifetime stands there (`ofText_underscore_literal`).

## Main statements

* `hasAnonymousLifetime_iff_mem_or_literal` — the two walks compared on any text
* `ofText_spellWith_singleton` — a reference with one argument, read
* `anonymousLifetime_iff_of_single` — when such a reference is refused, and what it is
  read as otherwise
-/

namespace Narrowing.Reference

open Code (lifetimesIn NamesLifetime)
open Text

/-! ## The two walks -/

/-- **A text is refused exactly when the scan gives the anonymous lifetime or an underscore stands
in quotes.** -/
theorem hasAnonymousLifetime_iff_mem_or_literal {s : List Char} :
    hasAnonymousLifetime s = true ↔
      "'_".toList ∈ lifetimesIn s ∨ "'_'".toList <:+: s := by
  have anonymous : "'_".toList ∈ lifetimesIn s ↔ NamesLifetime s ['_'] := by
    rw [Code.mem_lifetimesIn_iff]
    constructor
    · rintro ⟨name, same, names⟩
      cases same
      exact names
    · exact fun names => ⟨['_'], rfl, names⟩
  rw [anonymous, Code.hasAnonymousLifetime_iff]
  constructor
  · rintro ⟨before, after, rfl, ends⟩
    -- The character behind the underscore decides between a lifetime and a literal.
    by_cases quoted : after.head? = some '\''
    · obtain ⟨rest, rfl⟩ := List.head?_eq_some_iff.mp quoted
      exact .inr ⟨before, rest, by simp⟩
    · refine .inl ⟨before, after, rfl, rfl, fun c first => ⟨ends c first, ?_⟩⟩
      rintro rfl
      exact quoted first
  · rintro (⟨before, after, rfl, -, ends⟩ | ⟨before, rest, rfl⟩)
    · exact ⟨before, after, rfl, fun c first => (ends c first).1⟩
    · refine ⟨before, '\'' :: rest, by simp, fun c first => ?_⟩
      cases first
      decide

/-! ## A reference with one argument -/

/-- One argument without a marker is read as it is written, between its blanks. -/
theorem readArgument_of_unmarked {position : Nat} {piece : List Char}
    (visible : allBlank piece = false) (unmarked : '#' ∉ strip piece) :
    readArgument position piece =
      if hasAnonymousLifetime (strip piece) then
        .error (.anonymousLifetime position (String.ofList (strip piece)))
      else .ok (.bound (String.ofList (strip piece))) := by
  have nonempty : (strip piece).isEmpty = false := by
    rw [Bool.eq_false_iff, ne_eq, List.isEmpty_iff, strip_eq_nil_iff, visible]
    exact Bool.false_ne_true
  have markless : (strip piece).contains '#' = false := by simpa using unmarked
  rw [readArgument]
  simp only [nonempty, markless, Bool.false_eq_true, if_false]

/-- **A reference with one argument is read by reading the argument.** -/
theorem ofText_spellWith_singleton {name : String} (typeName : isTypeName name.toList = true)
    (b : Brackets) {argument : String} (single : IsPiece argument.toList)
    (visible : allBlank argument.toList = false) :
    ofText (spellWith b name [argument]) =
      (readArgument 1 argument.toList).map fun a => ⟨name, [a]⟩ := by
  have nonempty : strip argument.toList ≠ [] := by
    rw [ne_eq, strip_eq_nil_iff, visible]
    exact Bool.false_ne_true
  have cut : splitName (strip (spellWith b name [argument]).toList) =
      .ok (name.toList, [argument.toList]) := by
    rw [toList_spellWith_cons, strip_append_list typeName, splitName_append typeName]
    have list : readList b.opener (argument.toList ++ [].flatMap (',' :: ·) ++ [b.closer]) =
        .ok [argument.toList] := readList_join b nonempty (by simpa using single)
    rw [List.map_nil, list]
    rfl
  rw [ofText_eq_map cut typeName, String.ofList_toList, readArguments]
  cases readArgument 1 argument.toList with
  | error fault => rfl
  | ok a => rfl

/-- **When one argument without a marker is refused for its anonymous lifetime**: when the scan of
its text gives that lifetime, and also when an underscore in quotes stands in it.  Otherwise the
reference is read with the argument as its only one. -/
theorem anonymousLifetime_iff_of_single {name : String}
    (typeName : isTypeName name.toList = true) (b : Brackets) {argument : String}
    (single : IsPiece argument.toList) (visible : allBlank argument.toList = false)
    (unmarked : '#' ∉ argument.toList) :
    (ofText (spellWith b name [argument]) = .error (.anonymousLifetime 1 (trim argument)) ↔
      "'_".toList ∈ lifetimesIn (trim argument).toList ∨
        "'_'".toList <:+: (trim argument).toList) ∧
    (ofText (spellWith b name [argument]) = .ok ⟨name, [.bound (trim argument)]⟩ ↔
      "'_".toList ∉ lifetimesIn (trim argument).toList ∧
        ¬ "'_'".toList <:+: (trim argument).toList) := by
  have text : (trim argument).toList = strip argument.toList := String.toList_ofList
  have markless : '#' ∉ strip argument.toList := by
    obtain ⟨before, after, whole, -⟩ := exists_blanks_around_strip argument.toList
    intro member
    rw [whole] at unmarked
    exact unmarked (List.mem_append_right _ (List.mem_append_left _ member))
  rw [text, ← not_or, ← hasAnonymousLifetime_iff_mem_or_literal,
    ofText_spellWith_singleton typeName b single visible,
    readArgument_of_unmarked visible markless, ← trim]
  cases hasAnonymousLifetime (strip argument.toList) with
  | true => exact ⟨⟨fun _ => rfl, fun _ => rfl⟩, ⟨nofun, fun accepted => (accepted rfl).elim⟩⟩
  | false => exact ⟨⟨nofun, nofun⟩, ⟨fun _ => nofun, fun _ => rfl⟩⟩

/-- An argument with a character literal, a lifetime that starts with an underscore and blanks at
its ends. -/
theorem ofText_borrowed_literal :
    (isTypeName "lib::Bar".toList = true ∧ IsPiece " Tag<'x', &'_a [u8; 2]>\t".toList ∧
      allBlank " Tag<'x', &'_a [u8; 2]>\t".toList = false ∧
      '#' ∉ " Tag<'x', &'_a [u8; 2]>\t".toList) ∧
    ofText "lib::Bar[ Tag<'x', &'_a [u8; 2]>\t]" =
      .ok ⟨"lib::Bar", [.bound "Tag<'x', &'_a [u8; 2]>"]⟩ := by
  have typeName : isTypeName "lib::Bar".toList = true := by rfl
  have single : IsPiece " Tag<'x', &'_a [u8; 2]>\t".toList := by
    rw [IsPiece]
    rfl
  have visible : allBlank " Tag<'x', &'_a [u8; 2]>\t".toList = false := by rfl
  have unmarked : '#' ∉ " Tag<'x', &'_a [u8; 2]>\t".toList := by decide +kernel
  exact ⟨⟨typeName, single, visible, unmarked⟩,
    (anonymousLifetime_iff_of_single typeName .square single visible unmarked).2.mpr
      (by decide +kernel)⟩

/-- **An argument that is refused for an anonymous lifetime that the scan does not give**: its
underscore is a character literal, and any other letter in its place is accepted. -/
theorem ofText_underscore_literal :
    IsPiece "'_'".toList ∧ '#' ∉ "'_'".toList ∧ lifetimesIn "'_'".toList = [] ∧
      ofText "Bar<'_'>" = .error (.anonymousLifetime 1 "'_'") ∧
      ofText "Bar<'x'>" = .ok ⟨"Bar", [.bound "'x'"]⟩ := by
  rw [IsPiece]
  decide +kernel

end Narrowing.Reference
