import Mathlib.Data.List.Find
import Narrowing.Config.Basic
import Narrowing.Proofs.Results
import Narrowing.Proofs.Text
import Narrowing.Proofs.Workspace
import Narrowing.Yaml.Document

/-!
# What a configuration is read from

A configuration depends on the tree through one file, and on that file through the
document that its text describes (`Config.load_of_describes`).  This module follows a
document to the configuration and asks what its null values mean.

### Keys without a value

A key whose value is null is a key that was left open, and every key is optional; so
one expects that it may as well be left out.  `Config.cleared` leaves such keys out, of
a document and of its targets.  Most keys are read alike then, since they ask for a
value and take null for none: `targets` of the document, `input`, `output` and
`language` of a target (`Target.ofValue_dropNulls_cases`).

Two keys are not.  The default of `marker` is there for an absent key only, and a null
value is spelled out as a marker; and `imports` has to be a list once it is there.
`Config.load_cleared_iff` says that nothing else tells a null value from an absent key,
and when these two do.

## Main statements

* `Config.load_congr` — a configuration depends on what its path leads to
* `Value.valueAt?_withoutNulls` — what is read from a mapping without its null values
* `Config.load_cleared_iff` — when a document without its null values gives the same
  configuration or the same fault
-/

namespace Narrowing

/-! ## The file -/

namespace Config

/-- The path at which the configuration is looked for. -/
def pathFrom (root : Path) (file : Option String) : Path :=
  match file.filter (· ≠ "") with
  | some file => .ofText file
  | none => root.under (.ofText fileName)

variable {yaml : Yaml.Reader}

theorem load_eq (yaml : Yaml.Reader) (w : Workspace) (root : Path) (file : Option String) :
    load yaml w root file =
      if w.isPresent (pathFrom root file) then
        ((w.readLines (pathFrom root file)).mapError .unreadable).bind
          (ofText yaml root (pathFrom root file))
      else if (file.filter (· ≠ "")).isSome then .error (.absent (pathFrom root file))
      else ofText yaml root none defaultText := rfl

end Config

/-- The file that a path leads to describes a document, for the reader that is given. -/
def Workspace.Describes (yaml : Yaml.Reader) (w : Workspace) (p : Path) (document : Value) : Prop :=
  ∃ text, w.readLines p = .ok text ∧ yaml text = .ok document

/-- A file without carriage returns describes the document that the reader of plain documents finds
in its text. -/
theorem Workspace.describes_of_read {w : Workspace} {p : Path} {text : String} {document : Value}
    (read : w.read p = .ok (Text.encode text.toList)) (plain : '\r' ∉ text.toList)
    (describes : Yaml.documentOf? text = some document) :
    w.Describes Yaml.plainReader p document := by
  refine ⟨text, readLines_of_read read plain, ?_⟩
  rw [Yaml.plainReader, describes]

/-- **A configuration is that of the document that its file describes.** -/
theorem Config.load_of_describes {yaml : Yaml.Reader} {w : Workspace} {root : Path}
    {file : Option String} {document : Value}
    (described : w.Describes yaml (pathFrom root file) document) :
    load yaml w root file = ofValue root (pathFrom root file) document := by
  obtain ⟨text, read, describes⟩ := described
  have present : w.isPresent (pathFrom root file) = true := by
    obtain ⟨written, decoded, -⟩ := map_eq_ok_iff.mp read
    obtain ⟨bytes, found, -⟩ := bind_eq_ok_iff.mp decoded
    rw [Workspace.isPresent, Workspace.read_eq_ok_iff.mp (mapError_eq_ok_iff.mp found)]
    rfl
  rw [load_eq, if_pos present, read]
  show (yaml text).mapError Fault.document >>= _ = _
  rw [describes]
  rfl

/-! ## Mappings without their null values -/

namespace Value

/-- Nothing at all. -/
def isNull : Value → Bool
  | null => true
  | _ => false

/-- A key of a mapping has a null value.  Of entries with the same key the last one counts. -/
def nullAt (key : Value) (entries : List (Value × Value)) : Bool :=
  (entries.reverse.find? fun e => e.1 == key).any fun e => e.2.isNull

/-- The entries of a mapping, those whose key has a null value left out. -/
def withoutNulls (entries : List (Value × Value)) : List (Value × Value) :=
  entries.filter fun e => !nullAt e.1 entries

/-- A mapping without its null values; another value stays what it is. -/
def dropNulls : Value → Value
  | mapping entries => mapping (withoutNulls entries)
  | v => v

/-- The value is a mapping in which the key has a null value. -/
def hasNull (key : String) : Value → Bool
  | mapping entries => nullAt (text key) entries
  | _ => false

theorem valueAt?_eq (key : String) (entries : List (Value × Value)) :
    valueAt? key entries = (entries.reverse.find? fun e => e.1 == text key).map Prod.snd := by
  rw [valueAt?]
  congr 2
  funext ⟨k, v⟩
  cases k <;> rfl

/-- **What is read from a mapping without its null values**: what was read before, or nothing in
place of null. -/
theorem valueAt?_withoutNulls (key : String) (entries : List (Value × Value)) :
    valueAt? key (withoutNulls entries) =
      if nullAt (text key) entries then none else valueAt? key entries := by
  rw [valueAt?_eq, valueAt?_eq, withoutNulls, ← List.filter_reverse, List.find?_filter]
  -- All entries with the key stay, or none of them does.
  split
  · next null =>
      rw [Option.map_eq_none_iff, List.find?_eq_none]
      rintro e - kept
      simp only [decide_eq_true_eq] at kept
      rw [eq_of_beq kept.2, null] at kept
      exact absurd kept.1 (by decide)
  · next value =>
      congr 1
      refine List.find?_congr fun e _ => ?_
      by_cases named : (e.1 == text key) = true
      · simp [eq_of_beq named, value]
      · simp [named]

theorem nullAt_text_iff {key : String} {entries : List (Value × Value)} :
    nullAt (text key) entries = true ↔ valueAt? key entries = some null := by
  rw [nullAt, valueAt?_eq]
  cases entries.reverse.find? fun e => e.1 == text key with
  | none => simp
  | some e => cases value : e.2 <;> simp [value, isNull]

/-- A change of values that leaves keys alone is a change of what is read. -/
theorem valueAt?_map {f : Value × Value → Value} (key : String) (entries : List (Value × Value)) :
    valueAt? key (entries.map fun e => (e.1, f e)) =
      (entries.reverse.find? fun e => e.1 == text key).map f := by
  rw [valueAt?_eq, ← List.map_reverse, List.find?_map, Option.map_map]
  rfl

/-- A change of values that leaves keys and null values alone. -/
theorem nullAt_map {f : Value × Value → Value} (nulls : ∀ e, (f e).isNull = e.2.isNull)
    (key : Value) (entries : List (Value × Value)) :
    nullAt key (entries.map fun e => (e.1, f e)) = nullAt key entries := by
  rw [nullAt, nullAt, ← List.map_reverse, List.find?_map, Option.any_map]
  congr 1
  funext e
  exact nulls e

end Value

/-! ## Targets -/

namespace Target

open Value (withoutNulls nullAt)

variable {entries : List (Value × Value)}

theorem pathUnder_withoutNulls (root : Path) (entries : List (Value × Value)) (key : String) :
    pathUnder root (withoutNulls entries) key = pathUnder root entries key := by
  rw [pathUnder, pathUnder, Value.valueAt?_withoutNulls]
  by_cases null : nullAt (.text key) entries = true
  · rw [if_pos null, Value.nullAt_text_iff.mp null]
    rfl
  · rw [if_neg null]

theorem languageOf_withoutNulls (entries : List (Value × Value)) (input : Path) :
    languageOf (withoutNulls entries) input = languageOf entries input := by
  rw [languageOf, languageOf, Value.valueAt?_withoutNulls]
  by_cases null : nullAt (.text "language") entries = true
  · rw [if_pos null, Value.nullAt_text_iff.mp null]
    rfl
  · rw [if_neg null]

/-- The lines to import have to be a list once they are there, which null is not. -/
theorem importsOf_of_nullAt (null : nullAt (.text "imports") entries = true) :
    importsOf entries = .error .importsNoList ∧ importsOf (withoutNulls entries) = .ok [] := by
  rw [importsOf, importsOf, Value.valueAt?_withoutNulls, if_pos null,
    Value.nullAt_text_iff.mp null]
  exact ⟨rfl, rfl⟩

theorem importsOf_withoutNulls (value : nullAt (.text "imports") entries = false) :
    importsOf (withoutNulls entries) = importsOf entries := by
  rw [importsOf, importsOf, Value.valueAt?_withoutNulls, value]
  rfl

/-- One unrolling of `ofValue`: the lines to import are read last. -/
theorem ofValue_mapping (root : Path) (entries : List (Value × Value)) :
    ofValue root (.mapping entries) =
      match pathUnder root entries "input" with
      | none => .error (.missing "input")
      | some input =>
        match pathUnder root entries "output" with
        | none => .error (.missing "output")
        | some output =>
          match languageOf entries input with
          | .error fault => .error fault
          | .ok language =>
            (importsOf entries).map fun imports => ⟨input, output, language, imports⟩ := by
  rw [ofValue]
  dsimp only
  cases pathUnder root entries "input" with
  | none => rfl
  | some input =>
      cases pathUnder root entries "output" with
      | none => rfl
      | some output =>
          show (languageOf entries input >>= fun language => importsOf entries >>= _) = _
          dsimp only
          cases languageOf entries input with
          | error fault => rfl
          | ok language => cases importsOf entries <;> rfl

/-- No fault of a language is about the lines to import. -/
theorem languageOf_ne_importsNoList (entries : List (Value × Value)) (input : Path) :
    languageOf entries input ≠ .error .importsNoList := by
  rw [languageOf]
  split
  · rw [Ne, mapError_eq_error_iff]
    rintro ⟨fault, -, ⟨⟩⟩
  · split
    · split <;> nofun
    · nofun

/-- **A target without its null values** is the same target or the same fault, with one exception:
where the fault was that the lines to import are null, it is a target. -/
theorem ofValue_dropNulls_cases (root : Path) (v : Value) :
    (ofValue root v.dropNulls = ofValue root v ∧
      ¬ (v.hasNull "imports" = true ∧ ofValue root v = .error .importsNoList)) ∨
    (v.hasNull "imports" = true ∧ ofValue root v = .error .importsNoList ∧
      ∃ t, ofValue root v.dropNulls = .ok t) := by
  cases v with
  | mapping entries =>
      rw [Value.dropNulls, Value.hasNull, ofValue_mapping, ofValue_mapping,
        pathUnder_withoutNulls, pathUnder_withoutNulls]
      cases pathUnder root entries "input" with
      | none => exact .inl ⟨rfl, nofun⟩
      | some input =>
          cases pathUnder root entries "output" with
          | none => exact .inl ⟨rfl, nofun⟩
          | some output =>
              dsimp only
              rw [languageOf_withoutNulls]
              cases language : languageOf entries input with
              | error fault =>
                  refine .inl ⟨rfl, fun ⟨_, same⟩ => ?_⟩
                  cases same
                  exact languageOf_ne_importsNoList entries input language
              | ok language =>
                  -- Only here the two readings can part.
                  by_cases null : nullAt (.text "imports") entries = true
                  · obtain ⟨fault, cleared⟩ := importsOf_of_nullAt null
                    rw [fault, cleared]
                    exact .inr ⟨null, rfl, _, rfl⟩
                  · rw [importsOf_withoutNulls (by simpa using null)]
                    exact .inl ⟨rfl, fun both => null both.1⟩
  | _ => exact .inl ⟨rfl, nofun⟩

end Target

/-! ## Documents -/

namespace Config

open Value (nullAt withoutNulls)

/-- The value of an entry of a document, where the null values of each listed target are left
out. -/
def clearedValue (e : Value × Value) : Value :=
  if e.1 == .text "targets" then
    match e.2 with
    | .list targets => .list (targets.map Value.dropNulls)
    | v => v
  else e.2

/-- **A document without its null values**: neither it nor one of its targets has a key with a null
value. -/
def cleared : Value → Value
  | .mapping entries => .mapping (withoutNulls (entries.map fun e => (e.1, clearedValue e)))
  | v => v

/-- The values that a document lists as its targets. -/
def listed : Value → List Value
  | .mapping entries => (targetValues entries).toOption.getD []
  | _ => []

theorem isNull_clearedValue (e : Value × Value) : (clearedValue e).isNull = e.2.isNull := by
  rw [clearedValue]
  split
  · cases e.2 <;> rfl
  · rfl

/-- What is read from a document without its null values, under a key. -/
theorem valueAt?_cleared (key : String) (entries : List (Value × Value)) :
    Value.valueAt? key (withoutNulls (entries.map fun e => (e.1, clearedValue e))) =
      if nullAt (.text key) entries then none
      else (Value.valueAt? key entries).map fun v => clearedValue (.text key, v) := by
  rw [Value.valueAt?_withoutNulls, Value.nullAt_map isNull_clearedValue, Value.valueAt?_map,
    Value.valueAt?_eq, Option.map_map]
  congr 1
  refine Option.map_congr fun e found => ?_
  have same := List.find?_some found
  rw [Function.comp, ← eq_of_beq same]

/-- The marker has a default for an absent key only. -/
theorem markerOf_cleared (entries : List (Value × Value)) :
    markerOf (withoutNulls (entries.map fun e => (e.1, clearedValue e))) =
      if nullAt (.text "marker") entries then "fromsuper" else markerOf entries := by
  rw [markerOf, markerOf, valueAt?_cleared]
  by_cases null : nullAt (.text "marker") entries = true
  · rw [if_pos null, if_pos null]
  · rw [if_neg null, if_neg null]
    cases Value.valueAt? "marker" entries <;> rfl

theorem markerOf_of_nullAt {entries : List (Value × Value)}
    (null : nullAt (.text "marker") entries = true) : markerOf entries = "None" := by
  rw [markerOf, Value.nullAt_text_iff.mp null]
  rfl

/-- A document without its null values lists its targets without theirs. -/
theorem targetValues_cleared (entries : List (Value × Value)) :
    targetValues (withoutNulls (entries.map fun e => (e.1, clearedValue e))) =
      (targetValues entries).map fun targets => targets.map Value.dropNulls := by
  rw [targetValues, targetValues, valueAt?_cleared]
  by_cases null : nullAt (.text "targets") entries = true
  · rw [if_pos null, Value.nullAt_text_iff.mp null]
    rfl
  · rw [if_neg null]
    cases Value.valueAt? "targets" entries with
    | none => rfl
    | some v => cases v <;> rfl

/-- One unrolling of `targetsFrom`. -/
theorem targetsFrom_cons (root : Path) (index : Nat) (v : Value) (rest : List Value) :
    targetsFrom root index (v :: rest) =
      match Target.ofValue root v with
      | .error fault => .error (.target index fault)
      | .ok t => (targetsFrom root (index + 1) rest).map (t :: ·) := by
  rw [targetsFrom]
  cases Target.ofValue root v with
  | error fault => rfl
  | ok t => cases targetsFrom root (index + 1) rest <;> rfl

/-- A fault in a list of targets is one in an element. -/
theorem exists_of_targetsFrom_eq_error {root : Path} {index : Nat} {targets : List Value}
    {fault : Fault} (failed : targetsFrom root index targets = .error fault) :
    ∃ i f, fault = .target (index + i) f := by
  induction targets generalizing index with
  | nil => cases failed
  | cons v rest ih =>
      rw [targetsFrom_cons] at failed
      cases target : Target.ofValue root v with
      | error f =>
          rw [target] at failed
          cases failed
          exact ⟨0, f, rfl⟩
      | ok t =>
          rw [target] at failed
          obtain ⟨i, f, rfl⟩ := ih (map_eq_error_iff.mp failed)
          exact ⟨i + 1, f, by rw [Nat.add_assoc, Nat.add_comm 1]⟩

/-- **Targets without their null values** are the same targets or the same fault, unless the fault
was that the lines to import of a target are null. -/
theorem targetsFrom_dropNulls_iff (root : Path) (index : Nat) (targets : List Value) :
    targetsFrom root index (targets.map Value.dropNulls) = targetsFrom root index targets ↔
      ∀ i v, targets[i]? = some v → v.hasNull "imports" = true →
        targetsFrom root index targets ≠ .error (.target (index + i) .importsNoList) := by
  induction targets generalizing index with
  | nil => simp
  | cons v rest ih =>
      rw [List.map_cons, targetsFrom_cons, targetsFrom_cons]
      rcases Target.ofValue_dropNulls_cases root v with ⟨same, other⟩ | ⟨null, fault, t, found⟩
      · rw [same]
        cases target : Target.ofValue root v with
        | error f =>
            refine ⟨fun _ i u stands null => ?_, fun _ => rfl⟩
            rw [Ne, Except.error.injEq, Fault.target.injEq]
            rintro ⟨here, rfl⟩
            obtain rfl : i = 0 := by omega
            cases stands
            exact other ⟨null, target⟩
        | ok t =>
            have cancel {r r' : Except Fault (List Target)} :
                r.map (t :: ·) = r'.map (t :: ·) ↔ r = r' := by
              cases r <;> cases r' <;> simp [Except.map]
            dsimp only
            rw [cancel, ih]
            simp only [Ne, map_eq_error_iff]
            constructor
            · -- The first element is a target, so no fault has its number.
              rintro others (_ | i) u stands null failed
              · obtain ⟨i, f, same⟩ := exists_of_targetsFrom_eq_error failed
                rw [Fault.target.injEq] at same
                omega
              · refine others i u stands null ?_
                rw [failed, Nat.add_assoc, Nat.add_comm 1]
            · intro others i u stands null failed
              refine others (i + 1) u stands null ?_
              rw [failed, Nat.add_assoc, Nat.add_comm 1]
      · rw [found, fault]
        refine ⟨fun same => ?_, fun others => absurd rfl (others 0 v rfl null)⟩
        -- Behind the element that is a target now, any fault is one in a later element.
        obtain ⟨i, f, later⟩ := exists_of_targetsFrom_eq_error (map_eq_error_iff.mp same)
        rw [Fault.target.injEq] at later
        omega

/-- The configuration that a mapping describes, the empty one included. -/
theorem ofValue_mapping (root : Path) (path : Option Path) (entries : List (Value × Value)) :
    ofValue root path (.mapping entries) =
      match targetValues entries with
      | .error fault => .error fault
      | .ok targets =>
        (targetsFrom root 0 targets).map fun targets => ⟨markerOf entries, targets, path⟩ := by
  rw [ofValue]
  cases entries with
  | nil => rfl
  | cons e entries =>
      rw [Value.isEmpty, List.isEmpty_cons]
      show (targetValues (e :: entries) >>= fun targets => targetsFrom root 0 targets >>= _) = _
      cases targetValues (e :: entries) with
      | error fault => rfl
      | ok targets =>
          show (targetsFrom root 0 targets >>= _) = Except.map _ (targetsFrom root 0 targets)
          cases targetsFrom root 0 targets <;> rfl

/-- Two configurations are the same when they have the same targets and the same marker. -/
theorem map_mk_eq_iff {found found' : Except Fault (List Target)} {marker marker' : String}
    {path : Option Path} :
    (found'.map fun targets => (⟨marker', targets, path⟩ : Config)) =
        found.map (fun targets => ⟨marker, targets, path⟩) ↔
      found' = found ∧ ((∃ targets, found = .ok targets) → marker' = marker) := by
  cases found' <;> cases found <;> simp [Except.map, and_comm]

/-- **When a document without its null values describes the same**: unless there is a marker to be
read and it is null, or the fault is that the lines to import of a target are null. -/
theorem ofValue_cleared_iff (root : Path) (path : Option Path) (document : Value) :
    ofValue root path (cleared document) = ofValue root path document ↔
      (document.hasNull "marker" = true → ∃ fault, ofValue root path document = .error fault) ∧
      ∀ i v, (listed document)[i]? = some v → v.hasNull "imports" = true →
        ofValue root path document ≠ .error (.target i .importsNoList) := by
  cases document with
  | mapping entries =>
      rw [cleared, listed, Value.hasNull, ofValue_mapping, ofValue_mapping, targetValues_cleared,
        markerOf_cleared]
      cases targetValues entries with
      | error fault => exact ⟨fun _ => ⟨fun _ => ⟨fault, rfl⟩, nofun⟩, fun _ => rfl⟩
      | ok targets =>
          show Except.map _ (targetsFrom root 0 (targets.map Value.dropNulls)) = _ ↔ _
          have numbered : ∀ i, 0 + i = i := Nat.zero_add
          rw [map_mk_eq_iff, targetsFrom_dropNulls_iff, and_comm]
          simp only [Except.toOption, Option.getD_some, numbered, Ne, map_eq_error_iff]
          refine and_congr_left fun _ => ?_
          rw [exists_error_iff]
          by_cases null : nullAt (.text "marker") entries = true
          · have other : "fromsuper" ≠ "None" := by decide
            simp [null, markerOf_of_nullAt null, other]
          · simp [null]
  | _ => exact ⟨fun _ => ⟨nofun, nofun⟩, fun _ => rfl⟩

/-- **What a null value means in a configuration.**  Of two files whose documents differ in keys with
null values only, in the document or in its targets, the second one gives the same configuration or
the same fault as the first, with two exceptions: the marker of the first one is null and there is a
configuration, or its fault is that the lines to import of a target are null.  This holds for every
reader of documents. -/
theorem load_cleared_iff {yaml : Yaml.Reader} {w v : Workspace} {root : Path} {file : Option String}
    {document : Value} (described : w.Describes yaml (pathFrom root file) document)
    (without : v.Describes yaml (pathFrom root file) (cleared document)) :
    load yaml v root file = load yaml w root file ↔
      (document.hasNull "marker" = true → ∃ fault, load yaml w root file = .error fault) ∧
      ∀ i target, (listed document)[i]? = some target → target.hasNull "imports" = true →
        load yaml w root file ≠ .error (.target i .importsNoList) := by
  rw [load_of_describes described, load_of_describes without]
  exact ofValue_cleared_iff root (pathFrom root file) document

/-- A directory with a configuration file. -/
def configured (text : String) : Workspace where
  directory := ["work"]
  entries := [(["work"], .directory), (["work", "fromsuper.yaml"], .text text)]

/-- The root of the project in that directory. -/
def workRoot : Path := ⟨.root, ["work"]⟩

/-- A document whose keys with a null value are one of its own and two of its targets'. -/
def openDocument : Value :=
  .mapping [(.text "marker", .text "view"), (.text "owner", .null),
    (.text "targets", .list
      [.mapping [(.text "input", .text "a.py"), (.text "output", .text "b.py"),
          (.text "language", .null)],
        .mapping [(.text "input", .text "c.py"), (.text "output", .null)]])]

/-- A file that describes it. -/
def openTree : Workspace :=
  configured ("marker: view\nowner:\ntargets:\n- input: a.py\n  output: b.py\n  language: ~\n"
    ++ "- input: c.py\n  output: null\n")

/-- A file without its null values. -/
def closedTree : Workspace :=
  configured "marker: view\ntargets:\n- input: a.py\n  output: b.py\n- input: c.py\n"

/-- A text whose lines to import are null. -/
def importsText : String := "targets:\n- input: a.py\n  output: b.py\n  imports:\n"

/-- The document that it describes. -/
def importsDocument : Value :=
  .mapping [(.text "targets", .list [.mapping
    [(.text "input", .text "a.py"), (.text "output", .text "b.py"), (.text "imports", .null)]])]

/-- A text without carriage returns that describes a document does so in the configuration file. -/
theorem describes_configured {text : String} {document : Value} (plain : '\r' ∉ text.toList)
    (describes : Yaml.documentOf? text = some document) :
    (configured text).Describes Yaml.plainReader (pathFrom workRoot none) document :=
  Workspace.describes_of_read (Workspace.read_eq_ok_iff.mpr rfl) plain describes

theorem load_cleared_open :
    openTree.Describes Yaml.plainReader (pathFrom workRoot none) openDocument ∧
      closedTree.Describes Yaml.plainReader (pathFrom workRoot none) (cleared openDocument) ∧
      load Yaml.plainReader openTree workRoot none = .error (.target 1 (.missing "output")) ∧
      load Yaml.plainReader closedTree workRoot none =
        load Yaml.plainReader openTree workRoot none := by
  have described : openTree.Describes Yaml.plainReader (pathFrom workRoot none) openDocument :=
    describes_configured (by decide) (eq_of_beq (by decide +kernel))
  have without :
      closedTree.Describes Yaml.plainReader (pathFrom workRoot none) (cleared openDocument) :=
    describes_configured (by decide) (eq_of_beq (by decide +kernel))
  have failed : load Yaml.plainReader openTree workRoot none =
      .error (.target 1 (.missing "output")) := by
    rw [load_of_describes described]
    decide
  refine ⟨described, without, failed, (load_cleared_iff described without).mpr ⟨nofun, ?_⟩⟩
  intro i target _ _
  rw [failed]
  nofun

/-- **Null values that are no absent keys.**  A null marker is spelled out, and null lines to import
are no list; without the key there are the default marker and no lines. -/
theorem load_null_values :
    ((configured "marker:\n").Describes Yaml.plainReader (pathFrom workRoot none)
        (.mapping [(.text "marker", .null)]) ∧
      (configured "\x7b\x7d\n").Describes Yaml.plainReader (pathFrom workRoot none)
        (cleared (.mapping [(.text "marker", .null)])) ∧
      (load Yaml.plainReader (configured "marker:\n") workRoot none).map Config.marker = .ok "None" ∧
      (load Yaml.plainReader (configured "\x7b\x7d\n") workRoot none).map Config.marker =
        .ok "fromsuper") ∧
    (configured importsText).Describes Yaml.plainReader (pathFrom workRoot none) importsDocument ∧
      (configured "targets:\n- input: a.py\n  output: b.py\n").Describes Yaml.plainReader
        (pathFrom workRoot none) (cleared importsDocument) ∧
      load Yaml.plainReader (configured importsText) workRoot none =
        .error (.target 0 .importsNoList) ∧
      load Yaml.plainReader (configured "targets:\n- input: a.py\n  output: b.py\n") workRoot none =
        .ok { targets := [⟨⟨.root, ["work", "a.py"]⟩, ⟨.root, ["work", "b.py"]⟩, .python, []⟩]
              path := some ⟨.root, ["work", "fromsuper.yaml"]⟩ } := by
  refine ⟨⟨describes_configured (by decide) (eq_of_beq ?_),
    describes_configured (by decide) (eq_of_beq ?_), ?_, ?_⟩,
    describes_configured (by decide) (eq_of_beq ?_), describes_configured (by decide) (eq_of_beq ?_),
    ?_, ?_⟩ <;> decide +kernel

end Config

end Narrowing
