import Mathlib.Data.List.Infix
import Narrowing.Proofs.Results
import Narrowing.Proofs.Text
import Narrowing.Proofs.Utf8
import Narrowing.Workspace

/-!
# What writing a file does to a tree

A run writes files and makes the directories above them.  This module says what that
leaves alone.  The result is a relation between the tree before and the tree after,
`Workspace.Grown`, which is closed under composition, so that it describes one write
and a whole run alike.

### Places and paths

Files are compared by the *place* that a path leads to, since two paths may lead to one
file.  A place is only found by following the path through the tree, which may fail;
`Workspace.destination` is the place that it would be, computed from the parts of the
path alone, and it is the place itself whenever there is one (`destination_of_place`).

### Missing directories

Writing `gen/out` makes the directory `gen`.  Most paths do not notice: a path that ran
into the missing directory still leads to nothing, since nothing lies in a new directory
but what was written there.  The exception is a path such as `gen/../a`, which comes back
out of the directory that was missing.  `Workspace.Steady` excludes exactly such paths.

## Main statements

* `Workspace.grown_of_writeWithParents`, `Workspace.Sound.writeWithParents` — what writing a file
  does to a tree, and that it leaves one
* `Workspace.Grown.at?_cases` — what that does to what a path leads to
* `Workspace.Grown.read_eq_ok_iff` — a file that was not written is read as before
-/

namespace Narrowing

namespace Workspace

/-! ## Following a path -/

/-- The place from which the parts of a path are followed. -/
def startOf (w : Workspace) (p : Path) : List String := if p.isAbsolute then [] else w.directory

/-- Where parts lead from a place, if nothing keeps them from being followed. -/
def lead (start : List String) (parts : List String) : List String :=
  parts.foldl (fun place part => if part = ".." then place.dropLast else place ++ [part]) start

/-- Where a path leads, if nothing keeps it from being followed. -/
def destination (w : Workspace) (p : Path) : List String := lead (w.startOf p) p.parts

/-- The places that are passed on the way of a path, its start and its destination included. -/
def way (w : Workspace) (p : Path) : List (List String) := p.parts.inits.map (lead (w.startOf p))

@[simp] theorem lead_nil (start : List String) : lead start [] = start := rfl

theorem lead_up (start rest : List String) :
    lead start (".." :: rest) = lead start.dropLast rest := rfl

theorem lead_cons {part : String} (named : part ≠ "..") (start rest : List String) :
    lead start (part :: rest) = lead (start ++ [part]) rest := by
  rw [lead, List.foldl_cons, if_neg named, lead]

theorem lead_of_notMem {parts : List String} (plain : ".." ∉ parts) (start : List String) :
    lead start parts = start ++ parts := by
  induction parts generalizing start with
  | nil => rw [lead_nil, List.append_nil]
  | cons part rest ih =>
      rw [List.mem_cons, not_or] at plain
      rw [lead_cons (Ne.symm plain.1), ih plain.2, List.append_assoc, List.singleton_append]

theorem destination_mem_way (w : Workspace) (p : Path) : w.destination p ∈ w.way p :=
  List.mem_map_of_mem ((List.mem_inits _ _).mpr List.prefix_rfl)

/-- A path that is a front of another one. -/
def Front (d p : Path) : Prop := d.anchor = p.anchor ∧ d.parts <+: p.parts

theorem front_parent {d p : Path} (front : Front d p) : Front d.parent p :=
  ⟨front.1, (List.dropLast_prefix d.parts).trans front.2⟩

/-- What is passed on the way of a front is passed on the way of the path. -/
theorem way_subset_of_front (w : Workspace) {d p : Path} (front : Front d p) :
    w.way d ⊆ w.way p := by
  intro q passed
  obtain ⟨parts, isFront, rfl⟩ := List.mem_map.mp passed
  have start : w.startOf d = w.startOf p := by
    rw [startOf, startOf, Path.isAbsolute, Path.isAbsolute, front.1]
  rw [start]
  exact List.mem_map_of_mem
    ((List.mem_inits _ _).mpr (((List.mem_inits _ _).mp isFront).trans front.2))

theorem follow_up (w : Workspace) (start rest : List String) :
    w.follow start (".." :: rest) = w.follow start.dropLast rest := by
  rw [follow]

/-- A part that names something is followed to it, and further if it is a directory. -/
theorem follow_cons_eq_ok_iff {w : Workspace} {part : String} {start rest q : List String}
    (named : part ≠ "..") :
    w.follow start (part :: rest) = .ok q ↔
      (rest = [] ∨ w.find? (start ++ [part]) = some .directory) ∧
        w.follow (start ++ [part]) rest = .ok q := by
  cases rest with
  | nil =>
      rw [follow, follow]
      · simp
      · exact named
  | cons next more =>
      rw [follow]
      · cases w.find? (start ++ [part]) with
        | none => simp
        | some entry => cases entry <;> simp
      · exact named
      · exact List.cons_ne_nil _ _

/-- Where parts were followed to is where they lead. -/
theorem eq_lead_of_follow {w : Workspace} {start parts q : List String}
    (followed : w.follow start parts = .ok q) : q = lead start parts := by
  induction parts generalizing start with
  | nil =>
      rw [follow, Except.ok.injEq] at followed
      exact followed.symm
  | cons part rest ih =>
      rcases eq_or_ne part ".." with rfl | named
      · rw [follow_up] at followed
        rw [lead_up]
        exact ih followed
      · rw [lead_cons named]
        exact ih ((follow_cons_eq_ok_iff named).mp followed).2

theorem place_eq_ok_iff {w : Workspace} {p : Path} {q : List String} :
    w.place p = .ok q ↔ w.follow (w.startOf p) p.parts = .ok q := by
  rw [place, ← startOf]
  cases w.follow (w.startOf p) p.parts with
  | error cause => exact ⟨nofun, nofun⟩
  | ok found =>
      show Except.ok found = Except.ok q ↔ Except.ok found = Except.ok q
      rw [Except.ok.injEq, Except.ok.injEq]

theorem destination_of_place {w : Workspace} {p : Path} {q : List String}
    (placed : w.place p = .ok q) : w.destination p = q :=
  (eq_lead_of_follow (place_eq_ok_iff.mp placed)).symm

theorem at?_of_place {w : Workspace} {p : Path} {q : List String} (placed : w.place p = .ok q) :
    w.at? p = w.find? q := by
  rw [at?, placed]

theorem at?_eq_some_iff {w : Workspace} {p : Path} {entry : Entry} :
    w.at? p = some entry ↔ ∃ q, w.place p = .ok q ∧ w.find? q = some entry := by
  rw [at?]
  cases w.place p with
  | error fault => simp
  | ok q => simp

theorem read_eq_ok_iff {w : Workspace} {p : Path} {bytes : List UInt8} :
    w.read p = .ok bytes ↔ w.at? p = some (.file bytes) := by
  rw [at?_eq_some_iff, read, bind_eq_ok_iff]
  refine exists_congr fun q => and_congr_right fun _ => ?_
  cases w.find? q with
  | none => simp
  | some entry => cases entry <;> simp [pure_eq_ok_iff]

theorem readText_of_read {w : Workspace} {p : Path} {text : String}
    (read : w.read p = .ok (Text.encode text.toList)) : w.readText p = .ok text := by
  unfold readText
  rw [read]
  show (Text.decode (Text.encode text.toList)).mapError TextFault.undecodable >>= _ = _
  rw [Text.decode_encode]
  show Except.ok (String.ofList text.toList) = _
  rw [String.ofList_toList]

/-- A text without carriage returns is read as it was written. -/
theorem readLines_of_read {w : Workspace} {p : Path} {text : String}
    (read : w.read p = .ok (Text.encode text.toList)) (plain : '\r' ∉ text.toList) :
    w.readLines p = .ok text := by
  rw [readLines, readText_of_read read]
  show Except.ok (String.ofList (Text.unifyLines text.toList)) = _
  rw [Text.unifyLines_eq_self_iff.mpr plain, String.ofList_toList]

/-- **A file tree**: whatever there is lies in a directory, and the working directory is one. -/
structure Sound (w : Workspace) : Prop where
  working : w.find? w.directory = some .directory
  above : ∀ q, w.find? q ≠ none → w.find? q.dropLast = some .directory

/-- Nothing lies below a place where nothing is. -/
theorem Sound.find?_below {w : Workspace} (sound : w.Sound) {q : List String}
    (missing : w.find? q = none) (rest : List String) : w.find? (q ++ rest) = none := by
  induction rest generalizing q with
  | nil => rwa [List.append_nil]
  | cons part rest ih =>
      rw [← List.singleton_append, ← List.append_assoc]
      refine ih ?_
      by_contra there
      have above := sound.above _ there
      rw [List.dropLast_concat, missing] at above
      cases above

/-- **A path that does not come back** out of a place where nothing is: each `..` in it stands
behind parts that lead to something. -/
def Steady (w : Workspace) (start parts : List String) : Prop :=
  ∀ n < parts.length, ".." ∈ parts.drop n → w.find? (lead start (parts.take n)) ≠ none

instance (w : Workspace) (start parts : List String) : Decidable (w.Steady start parts) :=
  inferInstanceAs (Decidable (∀ n < parts.length, _ → _))

theorem Steady.tail {w : Workspace} {part : String} {start rest : List String}
    (steady : w.Steady start (part :: rest)) : w.Steady (lead start [part]) rest := by
  intro n short back
  have behind := steady (n + 1) (Nat.succ_lt_succ short) back
  rwa [List.take_succ_cons, ← List.singleton_append, lead, List.foldl_append] at behind

/-! ## Growth -/

/-- **What writing files does to a tree.**  A place holds what it held before, or a directory was
made where nothing was, on the way of one of the outputs, or a file was written where no
directory was, at the destination of one of the outputs. -/
structure Grown (outputs : Path → Prop) (w v : Workspace) : Prop where
  directory : v.directory = w.directory
  places : ∀ q, v.find? q = w.find? q ∨
    ((w.find? q = none ∧ v.find? q = some .directory) ∧ ∃ p, outputs p ∧ q ∈ w.way p) ∨
    ((w.find? q ≠ some .directory ∧ ∃ bytes, v.find? q = some (.file bytes)) ∧
      ∃ p, outputs p ∧ w.destination p = q)

namespace Grown

variable {outputs : Path → Prop} {w v u : Workspace}

theorem refl (outputs : Path → Prop) (w : Workspace) : Grown outputs w w :=
  ⟨rfl, fun _ => .inl rfl⟩

theorem mono {wider : Path → Prop} (grown : Grown outputs w v) (sub : ∀ p, outputs p → wider p) :
    Grown wider w v := by
  refine ⟨grown.directory, fun q => ?_⟩
  rcases grown.places q with same | ⟨made, p, output, passed⟩ | ⟨written, p, output, leads⟩
  · exact .inl same
  · exact .inr (.inl ⟨made, p, sub p output, passed⟩)
  · exact .inr (.inr ⟨written, p, sub p output, leads⟩)

theorem startOf_eq (grown : Grown outputs w v) (p : Path) : v.startOf p = w.startOf p := by
  rw [startOf, startOf, grown.directory]

theorem destination_eq (grown : Grown outputs w v) (p : Path) :
    v.destination p = w.destination p := by
  rw [destination, destination, grown.startOf_eq]

theorem way_eq (grown : Grown outputs w v) (p : Path) : v.way p = w.way p := by
  rw [way, way, grown.startOf_eq]

/-- Growth after growth is growth: what was made or written first is only written over. -/
theorem trans (first : Grown outputs w v) (second : Grown outputs v u) : Grown outputs w u := by
  refine ⟨second.directory.trans first.directory, fun q => ?_⟩
  rcases second.places q with same | ⟨⟨missing, made⟩, p, output, passed⟩ |
    ⟨⟨free, written⟩, p, output, leads⟩
  · rw [same]
    exact first.places q
  · -- made second, so nothing was there before either
    rw [first.way_eq] at passed
    rcases first.places q with same | ⟨⟨-, found⟩, -⟩ | ⟨⟨-, text, found⟩, -⟩
    · exact .inr (.inl ⟨⟨same ▸ missing, made⟩, p, output, passed⟩)
    · rw [missing] at found; cases found
    · rw [missing] at found; cases found
  · -- written second, over what was there or over what was written first
    rw [first.destination_eq] at leads
    rcases first.places q with same | ⟨⟨-, found⟩, -⟩ | ⟨⟨before, -⟩, -⟩
    · exact .inr (.inr ⟨⟨same ▸ free, written⟩, p, output, leads⟩)
    · exact (free found).elim
    · exact .inr (.inr ⟨⟨before, written⟩, p, output, leads⟩)

/-- A directory stays a directory. -/
theorem find?_directory (grown : Grown outputs w v) {q : List String}
    (found : w.find? q = some .directory) : v.find? q = some .directory := by
  rcases grown.places q with same | ⟨⟨missing, -⟩, -⟩ | ⟨⟨free, -⟩, -⟩
  · rw [same, found]
  · rw [found] at missing; cases missing
  · exact (free found).elim

/-- What could be followed can be followed to the same place. -/
theorem follow_eq_ok (grown : Grown outputs w v) {start parts q : List String}
    (followed : w.follow start parts = .ok q) : v.follow start parts = .ok q := by
  induction parts generalizing start with
  | nil => exact followed
  | cons part rest ih =>
      rcases eq_or_ne part ".." with rfl | named
      · rw [follow_up] at followed ⊢
        exact ih followed
      · rw [follow_cons_eq_ok_iff named] at followed ⊢
        exact ⟨followed.1.imp_right grown.find?_directory, ih followed.2⟩

theorem place_eq_ok (grown : Grown outputs w v) {p : Path} {q : List String}
    (placed : w.place p = .ok q) : v.place p = .ok q := by
  rw [place_eq_ok_iff, grown.startOf_eq]
  exact grown.follow_eq_ok (place_eq_ok_iff.mp placed)

/-- A steady path that could not be followed and now can be leads to where nothing was. -/
theorem find?_of_follow (grown : Grown outputs w v) (sound : w.Sound)
    {start parts q : List String} (steady : w.Steady start parts)
    (failed : w.follow start parts ≠ .ok q) (followed : v.follow start parts = .ok q) :
    w.find? q = none := by
  induction parts generalizing start with
  | nil => exact (failed followed).elim
  | cons part rest ih =>
      rcases eq_or_ne part ".." with rfl | named
      · rw [follow_up] at failed followed
        exact ih steady.tail failed followed
      · have leads := eq_lead_of_follow followed
        rw [lead_cons named] at leads
        rw [Ne, follow_cons_eq_ok_iff named] at failed
        obtain ⟨enters, followed⟩ := (follow_cons_eq_ok_iff named).mp followed
        have tail : w.Steady (start ++ [part]) rest := by
          have shifted := steady.tail
          rwa [lead_cons named, lead_nil] at shifted
        rcases enters with rfl | enters
        · exact (failed ⟨.inl rfl, followed⟩).elim
        rcases grown.places (start ++ [part]) with same | ⟨⟨missing, -⟩, -⟩ |
          ⟨⟨-, text, written⟩, -⟩
        · rw [same] at enters
          exact ih tail (fun step => failed ⟨.inr enters, step⟩) followed
        · -- the directory was made since, so no `..` follows and the place lies below it
          cases rest with
          | nil => exact (failed ⟨.inl rfl, followed⟩).elim
          | cons next more =>
              have plain : ".." ∉ next :: more := by
                intro back
                refine steady 1 (by simp) back ?_
                rw [List.take_succ_cons, List.take_zero, lead_cons named, lead_nil, missing]
              rw [leads, lead_of_notMem plain]
              exact sound.find?_below missing _
        · rw [enters] at written; cases written

/-- **What growth does to a steady path**: it leads to what it led to, or to a directory where it
led to nothing, or to a file that is the destination of an output. -/
theorem at?_cases (grown : Grown outputs w v) (sound : w.Sound) {p : Path}
    (steady : w.Steady (w.startOf p) p.parts) :
    v.at? p = w.at? p ∨
      ((w.at? p = none ∧ v.at? p = some .directory) ∧
        ∃ o, outputs o ∧ w.destination p ∈ w.way o) ∨
      ((w.at? p ≠ some .directory ∧ ∃ bytes, v.at? p = some (.file bytes)) ∧
        ∃ o, outputs o ∧ w.destination o = w.destination p) := by
  cases placed : v.place p with
  | error fault =>
      have nothing : w.at? p = none := by
        cases before : w.place p with
        | error fault => rw [at?, before]
        | ok q => rw [grown.place_eq_ok before] at placed; cases placed
      exact .inl (by rw [nothing, at?, placed])
  | ok q =>
      have same_place : w.at? p = w.find? q := by
        cases before : w.place p with
        | ok q' =>
            rw [grown.place_eq_ok before, Except.ok.injEq] at placed
            rw [at?_of_place before, placed]
        | error fault =>
            have failed : w.follow (w.startOf p) p.parts ≠ .ok q := by
              rw [Ne, ← place_eq_ok_iff, before]
              exact nofun
            have followed : v.follow (w.startOf p) p.parts = .ok q := by
              rw [← grown.startOf_eq, ← place_eq_ok_iff, placed]
            rw [at?, before, grown.find?_of_follow sound steady failed followed]
      rw [same_place, at?_of_place placed, ← grown.destination_eq, destination_of_place placed]
      exact grown.places q

/-- **A file that was not written is read as before**: what could be read reads as the same bytes,
and what could not be read still cannot. -/
theorem read_eq_ok_iff (grown : Grown outputs w v) (sound : w.Sound) {p : Path}
    (steady : w.Steady (w.startOf p) p.parts)
    (apart : ∀ o, outputs o → w.destination o ≠ w.destination p) {bytes : List UInt8} :
    v.read p = .ok bytes ↔ w.read p = .ok bytes := by
  rw [Workspace.read_eq_ok_iff, Workspace.read_eq_ok_iff]
  rcases grown.at?_cases sound steady with same | ⟨⟨nothing, directory⟩, -⟩ | ⟨-, o, output, leads⟩
  · rw [same]
  · simp [nothing, directory]
  · exact (apart o output leads).elim

end Grown

/-! ## Writing -/

@[simp] theorem directory_put (w : Workspace) (q : List String) (entry : Entry) :
    (w.put q entry).directory = w.directory := by
  rw [put]
  split <;> rfl

theorem find?_put_of_ne_directory {w : Workspace} {q : List String}
    (free : w.find? q ≠ some .directory) (entry : Entry) (other : List String) :
    (w.put q entry).find? other = if other = q then some entry else w.find? other := by
  refine find?_put w q other entry ?_
  rintro rfl
  exact free rfl

section

variable {w v : Workspace} {p : Path} {text : String}

theorem makeDirectory_eq_ok_iff :
    w.makeDirectory p = .ok v ↔
      ∃ q, w.place p = .ok q ∧ w.find? q = none ∧ w.put q .directory = v := by
  rw [makeDirectory, bind_eq_ok_iff]
  refine exists_congr fun q => and_congr_right fun _ => ?_
  cases w.find? q with
  | none => simp [pure_eq_ok_iff]
  | some entry => simp

theorem write_eq_ok_iff :
    w.write p text = .ok v ↔
      ∃ q, w.place p = .ok q ∧ w.find? q ≠ some .directory ∧ w.put q (.text text) = v := by
  rw [write, bind_eq_ok_iff]
  refine exists_congr fun q => and_congr_right fun _ => ?_
  cases w.find? q with
  | none => simp [pure_eq_ok_iff]
  | some entry => cases entry <;> simp [pure_eq_ok_iff]

/-- **Directories made one after another**, at fronts of a path. -/
inductive Makes (p : Path) : Workspace → Workspace → Prop where
  | nothing (w : Workspace) : Makes p w w
  | made {w u v : Workspace} {d : Path} (front : Front d p) (first : w.makeDirectory d = .ok u)
      (rest : Makes p u v) : Makes p w v

theorem Makes.trans {u : Workspace} (first : Makes p w v) (second : Makes p v u) :
    Makes p w u := by
  induction first with
  | nothing => exact second
  | made front made _ ih => exact .made front made (ih second)

theorem makes_of_ensureDirectory {d : Path} (front : Front d p)
    (made : w.ensureDirectory d = .ok v) : Makes p w v := by
  rw [ensureDirectory] at made
  split at made
  · next u done =>
      rw [Except.ok.injEq] at made
      exact .made front done (made ▸ .nothing u)
  · next fault failed =>
      split at made
      · rw [Except.ok.injEq] at made
        exact made ▸ .nothing w
      · cases made

/-- What making a directory with the missing ones above it comes to. -/
theorem makes_of_makeDirectoriesWithin {d : Path} (n : Nat) (front : Front d p)
    (made : w.makeDirectoriesWithin d n = .ok v) : Makes p w v := by
  induction n generalizing d v with
  | zero => exact makes_of_ensureDirectory front made
  | succ n ih =>
      rw [makeDirectoriesWithin] at made
      split at made
      · next u done =>
          rw [Except.ok.injEq] at made
          exact made ▸ makes_of_ensureDirectory front done
      · next fault failed =>
          split at made
          · obtain ⟨u, above, last⟩ := bind_eq_ok_iff.mp made
            exact (ih (front_parent front) above).trans (makes_of_ensureDirectory front last)
          · cases made

theorem Makes.grown (makes : Makes p w v) : Grown (· = p) w v := by
  induction makes with
  | nothing => exact .refl _ _
  | @made w u v d front first _ ih =>
      refine Grown.trans ?_ ih
      obtain ⟨q, placed, missing, rfl⟩ := makeDirectory_eq_ok_iff.mp first
      refine ⟨directory_put .., fun other => ?_⟩
      rw [find?_put_of_ne_directory (by simp [missing])]
      rcases eq_or_ne other q with rfl | different
      · have passed := way_subset_of_front w front (destination_mem_way w d)
        rw [destination_of_place placed] at passed
        exact .inr (.inl ⟨⟨missing, if_pos rfl⟩, p, rfl, passed⟩)
      · exact .inl (if_neg different)

/-- What writing a file with the missing directories above it comes to. -/
theorem exists_of_writeWithParents (written : w.writeWithParents p text = .ok v) :
    ∃ u, Makes p w u ∧ u.write p text = .ok v := by
  obtain ⟨u, made, last⟩ := bind_eq_ok_iff.mp written
  exact ⟨u, makes_of_makeDirectoriesWithin _ (front_parent ⟨rfl, List.prefix_rfl⟩) made, last⟩

/-- What a path leads to lies in a directory. -/
theorem Sound.above_follow {start parts q : List String} (sound : w.Sound)
    (inside : w.find? start = some .directory) (followed : w.follow start parts = .ok q) :
    w.find? q.dropLast = some .directory := by
  induction parts generalizing start with
  | nil =>
      rw [follow, Except.ok.injEq] at followed
      exact followed ▸ sound.above start (by simp [inside])
  | cons part rest ih =>
      rcases eq_or_ne part ".." with rfl | named
      · rw [follow_up] at followed
        exact ih (sound.above start (by simp [inside])) followed
      · obtain ⟨rfl | enters, followed⟩ := (follow_cons_eq_ok_iff named).mp followed
        · rw [follow, Except.ok.injEq] at followed
          rw [← followed, List.dropLast_concat, inside]
        · exact ih enters followed

theorem Sound.above_place {q : List String} (sound : w.Sound) (placed : w.place p = .ok q) :
    w.find? q.dropLast = some .directory := by
  refine sound.above_follow ?_ (place_eq_ok_iff.mp placed)
  rw [startOf]
  split
  · rfl
  · exact sound.working

/-- Something put in a directory, in the place of no directory. -/
theorem Sound.put {q : List String} (sound : w.Sound) (free : w.find? q ≠ some .directory)
    (inside : w.find? q.dropLast = some .directory) (entry : Entry) : (w.put q entry).Sound := by
  -- a place that holds a directory is not the one that changes
  have kept : ∀ other, w.find? other = some .directory →
      (w.put q entry).find? other = some .directory := by
    intro other holds
    rw [find?_put_of_ne_directory free, if_neg, holds]
    rintro rfl
    exact free holds
  refine ⟨?_, fun other there => kept _ ?_⟩
  · rw [directory_put]
    exact kept _ sound.working
  · rw [find?_put_of_ne_directory free] at there
    rcases eq_or_ne other q with rfl | different
    · exact inside
    · rw [if_neg different] at there
      exact sound.above other there

theorem Makes.sound (makes : Makes p w v) (sound : w.Sound) : v.Sound := by
  induction makes with
  | nothing => exact sound
  | made _ first _ ih =>
      obtain ⟨q, placed, missing, rfl⟩ := makeDirectory_eq_ok_iff.mp first
      exact ih (sound.put (by simp [missing]) (sound.above_place placed) .directory)

/-- **Writing a file in a file tree leaves a file tree.** -/
theorem Sound.writeWithParents (sound : w.Sound) (written : w.writeWithParents p text = .ok v) :
    v.Sound := by
  obtain ⟨u, makes, last⟩ := exists_of_writeWithParents written
  obtain ⟨q, placed, free, rfl⟩ := write_eq_ok_iff.mp last
  have made := makes.sound sound
  exact made.put free (made.above_place placed) (.text text)

end

end Workspace

end Narrowing
