import Mathlib.Data.List.Forall2
import Narrowing.Proofs.Reference.Arguments
import Narrowing.Reference.Reader

/-!
# Reading undoes spelling

A source reference that was read from some text can be spelled in either pair of
brackets, and reading that spelling gives the reference back.  The spelling differs
from the text it came from in its blanks and its brackets, so the two readings have
nothing in common but the reference itself.  The bridge between them is therefore a
property of references:

`text` is read as `r`  →  `r` is `Readable`  →  every spelling of `r` is read as `r`.

### What reading guarantees

`Readable` collects what survives of the checks that reading makes: the name is a
type name, every argument is `Proper` (what the checks on one argument say), has no
blanks at its ends, and stays inside one piece of an argument list.  The last point
is the one that makes a bound argument, which is never looked into, safe to print
next to others.

### Dropping the markers

A spelling without markers is the marked spelling of the reference with every
argument bound (`Reference.allBound`), and that reference is `Readable` as well, so
it needs no reading argument of its own.

## Main statements

* `Reference.readable_of_ofText` — a reference that was read is readable.
* `Reference.Readable.ofText_spellMarked` — a readable reference is read from its
  marked spelling.
* `Reference.ofText_spell_of_ofText` — spelling and reading again, with markers and
  without, in either pair of brackets.
-/

namespace Narrowing

open Text

/-! ## Type names -/

namespace Reference

/-- Segments are cut out of a name. -/
theorem mem_of_mem_nameSegments {s segment : List Char} {c : Char}
    (segmentOf : segment ∈ nameSegments s) (member : c ∈ segment) : c ∈ s := by
  fun_induction nameSegments s generalizing segment with
  | case1 =>
      cases List.mem_singleton.mp segmentOf
      exact member
  | case2 r ih =>
      rcases List.mem_cons.mp segmentOf with rfl | behind
      · cases member
      · exact List.mem_cons_of_mem _ (List.mem_cons_of_mem _ (ih behind member))
  | case3 r ih =>
      rcases List.mem_cons.mp segmentOf with rfl | behind
      · cases member
      · exact List.mem_cons_of_mem _ (ih behind member)
  | case4 d r noColons noDot nothing ih =>
      cases List.mem_singleton.mp segmentOf
      cases List.mem_singleton.mp member
      exact List.mem_cons_self
  | case5 d r noColons noDot first others found ih =>
      rcases List.mem_cons.mp segmentOf with rfl | behind
      · rcases List.mem_cons.mp member with rfl | member
        · exact List.mem_cons_self
        · exact List.mem_cons_of_mem _ (ih (found ▸ List.mem_cons_self) member)
      · exact List.mem_cons_of_mem _ (ih (found ▸ List.mem_cons_of_mem _ behind) member)

/-- A character of a qualified name stands in one of its segments or in a separator. -/
theorem mem_nameSegments {s : List Char} {c : Char} (member : c ∈ s) :
    c = '.' ∨ c = ':' ∨ c ∈ (nameSegments s).flatten := by
  fun_induction nameSegments s with
  | case1 => cases member
  | case2 r ih =>
      rw [List.flatten_cons, List.nil_append]
      rcases List.mem_cons.mp member with rfl | member
      · exact .inr (.inl rfl)
      · rcases List.mem_cons.mp member with rfl | member
        · exact .inr (.inl rfl)
        · exact ih member
  | case3 r ih =>
      rw [List.flatten_cons, List.nil_append]
      rcases List.mem_cons.mp member with rfl | member
      · exact .inl rfl
      · exact ih member
  | case4 d r _ _ empty ih =>
      rw [empty] at ih
      rcases List.mem_cons.mp member with rfl | member
      · exact .inr (.inr List.mem_cons_self)
      · rcases ih member with dot | colon | impossible
        · exact .inl dot
        · exact .inr (.inl colon)
        · cases impossible
  | case5 d r _ _ first others segments ih =>
      rw [segments] at ih
      rw [List.flatten_cons, List.cons_append, ← List.flatten_cons]
      rcases List.mem_cons.mp member with rfl | member
      · exact .inr (.inr List.mem_cons_self)
      · rcases ih member with dot | colon | inside
        · exact .inl dot
        · exact .inr (.inl colon)
        · exact .inr (.inr (List.mem_cons_of_mem _ inside))

/-- The characters of a type name are name characters and the characters of its separators. -/
theorem mem_typeName {s : List Char} (name : isTypeName s = true) {c : Char} (member : c ∈ s) :
    isNameChar c = true ∨ c = '.' ∨ c = ':' := by
  rcases mem_nameSegments member with dot | colon | inside
  · exact .inr (.inl dot)
  · exact .inr (.inr colon)
  · obtain ⟨segment, found, inside⟩ := List.mem_flatten.mp inside
    rw [isTypeName, List.all_eq_true] at name
    exact .inl (isNameChar_of_isIdentifier (name segment found) c inside)

theorem isBlank_of_mem_typeName {s : List Char} (name : isTypeName s = true) :
    ∀ c ∈ s, isBlank c = false := by
  intro c member
  rcases mem_typeName name member with char | rfl | rfl
  · exact isBlank_of_isNameChar char
  · decide
  · decide

/-- A name character is none of the marks that give a reference its structure. -/
theorem notMem_of_isNameChar {c : Char} (char : isNameChar c = true) : c ∉ "#&<['".toList := by
  intro member
  have avoids : "#&<['".toList.any isNameChar = false := by decide
  exact List.any_eq_false.mp avoids c member char

theorem notMem_of_mem_typeName {s : List Char} (name : isTypeName s = true) :
    ∀ c ∈ s, c ∉ "#&<['".toList := by
  intro c member
  rcases mem_typeName name member with char | rfl | rfl
  · exact notMem_of_isNameChar char
  · decide
  · decide

theorem not_isListOpener_of_mem_typeName {s : List Char} (name : isTypeName s = true) :
    ∀ c ∈ s, (!isListOpener c) = true := by
  intro c member
  have other := notMem_of_mem_typeName name c member
  rw [Bool.not_eq_true', isListOpener, Bool.or_eq_false_iff, beq_eq_false_iff_ne,
    beq_eq_false_iff_ne]
  constructor
  · rintro rfl
    exact other (by decide)
  · rintro rfl
    exact other (by decide)

theorem ne_nil_of_isTypeName {s : List Char} (name : isTypeName s = true) : s ≠ [] := by
  rintro rfl
  cases name

/-! ## One argument -/

end Reference

/-- **What reading one argument checks**, apart from where it ends: a free argument is named by
an identifier, and a bound one is not empty, has no marker in it and names no anonymous
lifetime. -/
inductive Argument.Proper : Argument → Prop
  | free {name : String} (identifier : isIdentifier name.toList = true) : Proper (.free name)
  | bound {text : String} (nonempty : text.toList ≠ []) (unmarked : '#' ∉ text.toList)
      (declared : Reference.hasAnonymousLifetime text.toList = false) : Proper (.bound text)

theorem Argument.toList_marked_free (name : String) :
    (Argument.free name).marked.toList = '#' :: name.toList := by
  simp [Argument.marked, toString]

theorem Argument.Proper.marked_ne_nil {a : Argument} (proper : a.Proper) :
    a.marked.toList ≠ [] := by
  cases proper with
  | free => simp [Argument.toList_marked_free]
  | bound nonempty => exact nonempty

namespace Reference

/-- **One argument is read from a piece** exactly when the piece spells it between blanks. -/
theorem readArgument_eq_ok_iff {position : Nat} {piece : List Char} {a : Argument} :
    readArgument position piece = .ok a ↔ strip piece = a.marked.toList ∧ a.Proper := by
  constructor
  · intro h
    unfold readArgument at h
    dsimp only at h
    split at h
    · cases h
    next nonempty =>
    split at h
    next marked =>
      split at h
      next name spelled =>
        split at h
        next identifier =>
          cases h
          rw [Argument.toList_marked_free, String.toList_ofList]
          exact ⟨spelled, .free (by rwa [String.toList_ofList])⟩
        · cases h
      · cases h
    next unmarked =>
      split at h
      · cases h
      next declared =>
        cases h
        refine ⟨String.toList_ofList.symm, .bound ?_ ?_ ?_⟩
        all_goals rw [String.toList_ofList]
        · simpa using nonempty
        · simpa using unmarked
        · simpa using declared
  · rintro ⟨spelled, proper⟩
    unfold readArgument
    rw [spelled]
    cases proper with
    | free identifier => simp [Argument.toList_marked_free, identifier]
    | bound nonempty unmarked declared => simp [Argument.marked, nonempty, unmarked, declared]

/-- The arguments are read from the pieces one by one. -/
theorem readArguments_eq_ok_iff {position : Nat} {pieces : List (List Char)}
    {args : List Argument} :
    readArguments position pieces = .ok args ↔
      List.Forall₂ (fun piece a => strip piece = a.marked.toList ∧ a.Proper) pieces args := by
  induction pieces generalizing position args with
  | nil =>
      rw [readArguments, List.forall₂_nil_left_iff]
      exact ⟨fun h => by cases h; rfl, fun h => by rw [h]⟩
  | cons piece pieces ih =>
      rw [readArguments, List.forall₂_cons_left_iff]
      constructor
      · intro h
        cases read : readArgument position piece with
        | error fault =>
            rw [read] at h
            cases h
        | ok a =>
            rw [read] at h
            cases others : readArguments (position + 1) pieces with
            | error fault =>
                rw [others] at h
                cases h
            | ok rest =>
                rw [others] at h
                cases h
                exact ⟨a, rest, readArgument_eq_ok_iff.mp read, ih.mp others, rfl⟩
      · rintro ⟨a, rest, spelled, others, rfl⟩
        rw [readArgument_eq_ok_iff.mpr spelled, ih.mpr others]
        rfl

/-! ## What reading guarantees -/

/-- **What is known of a reference that was read.** -/
structure Readable (r : Reference) : Prop where
  name : isTypeName r.name.toList = true
  proper : ∀ a ∈ r.args, a.Proper
  stripped : ∀ a ∈ r.args, strip a.marked.toList = a.marked.toList
  inside : ∀ a ∈ r.args, IsPiece a.marked.toList

/-- An argument list is read up to its last character, which closes it. -/
theorem splitArguments_of_readList {opener : Char} {rest : List Char}
    {pieces : List (List Char)} (h : readList opener rest = .ok pieces) :
    rest.getLast? = closerOf? opener ∧ splitArguments rest.dropLast = some pieces := by
  unfold readList at h
  split at h
  · cases h
  next closed =>
  refine ⟨by simpa using closed, ?_⟩
  cases cut : splitArguments rest.dropLast with
  | none =>
      rw [cut] at h
      cases h
  | some found =>
      rw [cut] at h
      dsimp only at h
      split at h
      · split at h
        · cases h
        · rw [Except.ok.inj h]
      · rw [Except.ok.inj h]

theorem isPiece_of_readList {opener : Char} {rest : List Char} {pieces : List (List Char)}
    (h : readList opener rest = .ok pieces) : ∀ p ∈ pieces, IsPiece p :=
  isPiece_of_mem (splitArguments_of_readList h).2

/-- The pieces that are cut off a text are those of the list at its first opening bracket. -/
theorem exists_list_of_splitName {s name : List Char} {pieces : List (List Char)}
    (h : splitName s = .ok (name, pieces)) (nonempty : pieces ≠ []) :
    ∃ opener rest, s.dropWhile (fun c => !isListOpener c) = opener :: rest ∧
      isListOpener opener = true ∧ readList opener rest = .ok pieces := by
  unfold splitName at h
  split at h
  · cases h
    exact absurd rfl nonempty
  next opener rest found =>
  have isOpener : isListOpener opener = true := by
    have first := List.head?_dropWhile_not (fun c => !isListOpener c) s
    rw [found] at first
    simpa using first
  cases read : readList opener rest with
  | error fault =>
      rw [read] at h
      cases h
  | ok cut =>
      rw [read] at h
      cases h
      exact ⟨opener, rest, found, isOpener, read⟩

theorem isPiece_of_splitName {s name : List Char} {pieces : List (List Char)}
    (h : splitName s = .ok (name, pieces)) : ∀ p ∈ pieces, IsPiece p := by
  intro p member
  obtain ⟨_, _, -, -, read⟩ := exists_list_of_splitName h (List.ne_nil_of_mem member)
  exact isPiece_of_readList read p member

/-- Every argument that is read comes from a piece that spells it. -/
theorem exists_piece_of_readArguments {position : Nat} {pieces : List (List Char)}
    {args : List Argument} (h : readArguments position pieces = .ok args) :
    ∀ a ∈ args, ∃ piece ∈ pieces, strip piece = a.marked.toList ∧ a.Proper := by
  have spelled := readArguments_eq_ok_iff.mp h
  clear h
  induction spelled with
  | nil => simp
  | cons here _ ih =>
      rw [List.forall_mem_cons]
      refine ⟨⟨_, List.mem_cons_self, here⟩, fun a member => ?_⟩
      obtain ⟨piece, found, same⟩ := ih a member
      exact ⟨piece, List.mem_cons_of_mem _ found, same⟩

/-- The text of a reference that was read is cut into its name and the pieces of its arguments. -/
theorem exists_cut_of_ofText {text : String} {r : Reference} (h : ofText text = .ok r) :
    ∃ pieces, splitName (strip text.toList) = .ok (r.name.toList, pieces) ∧
      isTypeName r.name.toList = true ∧ readArguments 1 pieces = .ok r.args := by
  unfold ofText at h
  cases cut : splitName (strip text.toList) with
  | error fault =>
      rw [cut] at h
      cases h
  | ok found =>
      obtain ⟨name, pieces⟩ := found
      rw [cut] at h
      dsimp only at h
      split at h
      · cases h
      split at h
      · cases h
      next typeName =>
      cases read : readArguments 1 pieces with
      | error fault =>
          rw [read] at h
          cases h
      | ok args =>
          rw [read] at h
          cases h
          rw [String.toList_ofList]
          exact ⟨pieces, rfl, by simpa using typeName, read⟩

/-- **A reference that was read is readable.** -/
theorem readable_of_ofText {text : String} {r : Reference} (h : ofText text = .ok r) :
    r.Readable := by
  obtain ⟨pieces, cut, typeName, read⟩ := exists_cut_of_ofText h
  -- What is checked of a piece is known of the argument that is spelled by it.
  have source := exists_piece_of_readArguments read
  constructor
  · exact typeName
  · intro a member
    obtain ⟨_, _, _, proper⟩ := source a member
    exact proper
  · intro a member
    obtain ⟨piece, _, same, _⟩ := source a member
    rw [← same, strip_strip]
  · intro a member
    obtain ⟨piece, found, same, _⟩ := source a member
    rw [← same]
    exact (isPiece_of_splitName cut piece found).strip

/-! ## Spelling and reading again -/

/-- The pieces of a spelled argument list, all but the first of which start with a blank. -/
theorem toList_spellWith_cons (b : Brackets) (name first : String) (others : List String) :
    (spellWith b name (first :: others)).toList =
      name.toList ++ b.opener :: (first.toList ++
        (others.map (' ' :: ·.toList)).flatMap (',' :: ·) ++ [b.closer]) := by
  have joined : (", ".intercalate (first :: others)).toList =
      first.toList ++ (others.map (' ' :: ·.toList)).flatMap (',' :: ·) := by
    induction others generalizing first with
    | nil => simp
    | cons second others ih => simp [String.intercalate_cons_cons, ih]
  simp [spellWith, joined]

theorem toList_spellMarked_cons (b : Brackets) (name : String) (a : Argument)
    (others : List Argument) :
    (spellMarked ⟨name, a :: others⟩ b).toList =
      name.toList ++ b.opener :: (a.marked.toList ++
        (others.map fun a => ' ' :: a.marked.toList).flatMap (',' :: ·) ++ [b.closer]) := by
  rw [spellMarked, List.map_cons, toList_spellWith_cons, List.map_map]
  rfl

theorem closerOf?_opener (b : Brackets) : closerOf? b.opener = some b.closer := by
  cases b <;> rfl

theorem isListOpener_opener (b : Brackets) : isListOpener b.opener = true := by
  cases b <;> rfl

/-- A type name alone is a reference without an argument list. -/
theorem splitName_of_isTypeName {name : List Char} (h : isTypeName name = true) :
    splitName name = .ok (name, []) := by
  rw [splitName, List.dropWhile_eq_nil_iff.mpr (not_isListOpener_of_mem_typeName h)]

/-- The argument list starts at the first opening bracket behind a type name. -/
theorem splitName_append {name : List Char} (h : isTypeName name = true) (b : Brackets)
    (list : List Char) :
    splitName (name ++ b.opener :: list) =
      (readList b.opener list).map fun pieces => (name, pieces) := by
  rw [splitName, List.dropWhile_append_of_pos (not_isListOpener_of_mem_typeName h),
    List.takeWhile_append_of_pos (not_isListOpener_of_mem_typeName h),
    List.dropWhile_cons_of_neg (by simp [isListOpener_opener]),
    List.takeWhile_cons_of_neg (by simp [isListOpener_opener]), List.append_nil,
    strip_eq_self_of_forall (isBlank_of_mem_typeName h)]

/-- A type name with an argument list behind it has no blanks at its ends. -/
theorem strip_append_list {name : List Char} (h : isTypeName name = true) (b : Brackets)
    (list : List Char) :
    strip (name ++ b.opener :: (list ++ [b.closer])) =
      name ++ b.opener :: (list ++ [b.closer]) := by
  rw [strip_eq_self_iff]
  constructor
  · intro c first
    rw [List.head?_append_of_ne_nil _ (ne_nil_of_isTypeName h)] at first
    exact isBlank_of_mem_typeName h c (List.mem_of_mem_head? first)
  · intro c last
    rw [← List.cons_append, ← List.append_assoc, List.getLast?_concat] at last
    cases last
    cases b
    all_goals decide

/-- **The pieces of a joined list are read back.** -/
theorem readList_join (b : Brackets) {first : List Char} {others : List (List Char)}
    (nonempty : strip first ≠ []) (insides : ∀ p ∈ first :: others, IsPiece p) :
    readList b.opener (first ++ others.flatMap (',' :: ·) ++ [b.closer]) =
      .ok (first :: others) := by
  rw [List.forall_mem_cons] at insides
  have cut : splitArguments (first ++ others.flatMap (',' :: ·)) = some (first :: others) :=
    splitFrom_join (by decide) insides.1 insides.2
  have present : allBlank first = false := by
    rw [Bool.eq_false_iff]
    intro blank
    exact nonempty (strip_eq_nil_iff.mpr blank)
  rw [readList, closerOf?_opener, List.getLast?_concat, if_neg (by simp), List.dropLast_concat,
    cut]
  cases others with
  | nil => simp [present]
  | cons second others => rfl

/-- What is left for `ofText` after the text is cut: its arguments are read. -/
theorem ofText_eq_map {text : String} {name : List Char} {pieces : List (List Char)}
    (cut : splitName (strip text.toList) = .ok (name, pieces))
    (typeName : isTypeName name = true) :
    ofText text = (readArguments 1 pieces).map fun args => ⟨String.ofList name, args⟩ := by
  have owned : name.head? ≠ some '&' := by
    intro borrowed
    exact notMem_of_mem_typeName typeName '&' (List.mem_of_mem_head? borrowed) (by decide)
  rw [ofText, cut]
  simp only [if_neg owned, typeName, Bool.not_true, Bool.false_eq_true, if_false]

theorem ofText_eq_ok {text : String} {name : List Char} {pieces : List (List Char)}
    {args : List Argument} (cut : splitName (strip text.toList) = .ok (name, pieces))
    (typeName : isTypeName name = true) (read : readArguments 1 pieces = .ok args) :
    ofText text = .ok ⟨String.ofList name, args⟩ := by
  rw [ofText_eq_map cut typeName, read]
  rfl

/-- **A readable reference is read from its marked spelling**, in either pair of brackets. -/
theorem Readable.ofText_spellMarked {r : Reference} (readable : r.Readable) (b : Brackets) :
    ofText (r.spellMarked b) = .ok r := by
  obtain ⟨name, args⟩ := r
  obtain ⟨typeName, proper, stripped, inside⟩ := readable
  dsimp only at typeName proper stripped inside
  have unblank := isBlank_of_mem_typeName typeName
  cases args with
  | nil =>
      have cut : splitName (strip name.toList) = .ok (name.toList, []) := by
        rw [strip_eq_self_of_forall unblank, splitName_of_isTypeName typeName]
      have read := ofText_eq_ok cut typeName rfl
      rwa [String.ofList_toList] at read
  | cons a others =>
      rw [List.forall_mem_cons] at proper stripped inside
      -- The list is spelled with a blank after each comma, which every later piece keeps.
      let pieces := others.map fun a => ' ' :: a.marked.toList
      have nonempty : strip a.marked.toList ≠ [] := by
        rw [stripped.1]
        exact proper.1.marked_ne_nil
      have insides : ∀ p ∈ a.marked.toList :: pieces, IsPiece p := by
        rw [List.forall_mem_cons]
        refine ⟨inside.1, fun p member => ?_⟩
        obtain ⟨other, found, rfl⟩ := List.mem_map.mp member
        exact (isPiece_cons_iff_of_isBlank (by decide) _).mpr (inside.2 other found)
      have cut : splitName (strip (spellMarked ⟨name, a :: others⟩ b).toList) =
          .ok (name.toList, a.marked.toList :: pieces) := by
        rw [toList_spellMarked_cons, strip_append_list typeName, splitName_append typeName,
          readList_join b nonempty insides]
        rfl
      have read : readArguments 1 (a.marked.toList :: pieces) = .ok (a :: others) := by
        rw [readArguments_eq_ok_iff]
        refine .cons ⟨stripped.1, proper.1⟩ ?_
        rw [List.forall₂_map_left_iff, List.forall₂_same]
        intro other member
        rw [strip_cons_of_isBlank (by decide)]
        exact ⟨stripped.2 other member, proper.2 other member⟩
      have result := ofText_eq_ok cut typeName read
      rwa [String.ofList_toList] at result

/-! ### Without markers -/

/-- The reference with every argument bound. -/
def allBound (r : Reference) : Reference :=
  { r with args := r.args.map fun a => .bound a.value }

/-- A spelling without markers is the marked one with every argument bound. -/
theorem spellMarked_allBound (r : Reference) (b : Brackets) :
    r.allBound.spellMarked b = r.spell b := by
  rw [spellMarked, spell, allBound, List.map_map]
  rfl

/-- A text without a quote names no lifetime. -/
theorem hasAnonymousLifetime_of_notMem {s : List Char} (unquoted : '\'' ∉ s) :
    hasAnonymousLifetime s = false := by
  induction s with
  | nil => rfl
  | cons c r ih =>
      rw [List.mem_cons, not_or] at unquoted
      rw [hasAnonymousLifetime, ih unquoted.2, Bool.or_false]
      rintro after rfl -
      exact unquoted.1 rfl

/-- No argument that was read has a marker in its text. -/
theorem notMem_value {a : Argument} (proper : a.Proper) : '#' ∉ a.value.toList := by
  cases proper with
  | free identifier =>
      intro member
      exact notMem_of_isNameChar (isNameChar_of_isIdentifier identifier _ member) (by decide)
  | bound _ unmarked _ => exact unmarked

/-- The name of a free argument is also a proper bound argument. -/
theorem proper_bound_value {a : Argument} (proper : a.Proper) :
    (Argument.bound a.value).Proper := by
  have unmarked := notMem_value proper
  cases proper with
  | free identifier =>
      refine .bound (ne_nil_of_isIdentifier identifier) unmarked ?_
      refine hasAnonymousLifetime_of_notMem fun member => ?_
      exact notMem_of_isNameChar (isNameChar_of_isIdentifier identifier _ member) (by decide)
  | bound nonempty unmarked declared => exact .bound nonempty unmarked declared

/-- **A readable reference stays readable without its markers.** -/
theorem Readable.allBound {r : Reference} (readable : r.Readable) : r.allBound.Readable := by
  obtain ⟨typeName, proper, stripped, inside⟩ := readable
  constructor
  · exact typeName
  · rw [Reference.allBound, List.forall_mem_map]
    exact fun a member => proper_bound_value (proper a member)
  · rw [Reference.allBound, List.forall_mem_map]
    intro a member
    cases proper a member with
    | free identifier => exact strip_of_isIdentifier identifier
    | bound => exact stripped _ member
  · rw [Reference.allBound, List.forall_mem_map]
    intro a member
    cases proper a member with
    | free identifier =>
        exact isPiece_of_forall_isPlain fun c inName =>
          isPlain_of_isNameChar (isNameChar_of_isIdentifier identifier c inName)
    | bound => exact inside _ member

/-! ## The round trip -/

/-- **Reading undoes spelling.**  Every reference that was read from some text is read back from
its marked spelling in either pair of brackets; from its spelling without markers it is read
back with the same name and the same argument texts, all of them bound.  Neither the name nor
an argument has a marker in it. -/
theorem ofText_spell_of_ofText {text : String} {r : Reference} (h : ofText text = .ok r) :
    (∀ b, ofText (r.spellMarked b) = .ok r) ∧
      (∀ b, ofText (r.spell b) = .ok ⟨r.name, r.args.map fun a => .bound a.value⟩) ∧
      '#' ∉ r.name.toList ∧ ∀ a ∈ r.args, '#' ∉ a.value.toList := by
  have readable := readable_of_ofText h
  refine ⟨readable.ofText_spellMarked, ?_, ?_, ?_⟩
  · intro b
    rw [← spellMarked_allBound]
    exact readable.allBound.ofText_spellMarked b
  · intro member
    exact notMem_of_mem_typeName readable.name '#' member (by decide)
  · exact fun a member => notMem_value (readable.proper a member)

/-- A source with a free argument, mixed brackets, an arrow and commas inside its arguments. -/
def mixed : Reference :=
  { name := "crate::model.Bar"
    args := [.free "T", .bound "fn(u8, &'a str)  -> Vec<[T; 2]>", .bound "Map<[u8],(K , V)>"] }

/-- The round trip of `mixed`, from a text in square brackets with blanks of its own. -/
theorem ofText_spell_mixed :
    ofText " crate::model.Bar [ #T ,fn(u8, &'a str)  -> Vec<[T; 2]>\t,Map<[u8],(K , V)>]" =
        .ok mixed ∧
      (∀ b, ofText (mixed.spellMarked b) = .ok mixed) ∧
      (∀ b, ofText (mixed.spell b) =
        .ok ⟨mixed.name, mixed.args.map fun a => .bound a.value⟩) ∧
      '#' ∉ mixed.name.toList ∧ ∀ a ∈ mixed.args, '#' ∉ a.value.toList := by
  have read : ofText
      " crate::model.Bar [ #T ,fn(u8, &'a str)  -> Vec<[T; 2]>\t,Map<[u8],(K , V)>]" =
        .ok mixed := by
    decide
  exact ⟨read, ofText_spell_of_ofText read⟩

end Reference

end Narrowing
