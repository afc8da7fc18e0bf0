import Narrowing.Path
import Narrowing.Text.Lines
import Narrowing.Text.Utf8

/-!
# Workspaces

The files that a run works on: a tree of files and directories, and the
directory in which it runs. The part `..` of a path leads to the directory above
what the parts before it lead to, which has to be a directory itself. A file holds
bytes, which need not spell a text.

## Main definitions

* `Workspace` — the entries of a file tree and the working directory
* `FileFault`, `TextFault` — why an operation on a file fails, and why no text is read
* `Workspace.place` — the entry that a path leads to
* `Workspace.read`, `Workspace.readText`, `Workspace.readLines`, `Workspace.write`,
  `Workspace.makeDirectories` — the operations
-/

namespace Narrowing

/-- What a place in a file tree holds. -/
inductive Entry where
  | file (bytes : List UInt8)
  | directory
deriving DecidableEq, Repr, Inhabited

/-- A file with a text. -/
def Entry.text (s : String) : Entry := file (Text.encode s.toList)

/-- The entries of a file tree, each at its place below the root, and the working directory.
The root itself is a directory without an entry. -/
structure Workspace where
  directory : List String := []
  entries : List (List String × Entry) := []
deriving DecidableEq, Repr, Inhabited

namespace FileFault

/-- Why an operation on a file fails. -/
inductive Cause where
  | absent
  | present
  | noDirectory
  | isDirectory
deriving DecidableEq, Repr, Inhabited

namespace Cause

/-- The number of a cause. -/
def number : Cause → Nat
  | absent => 2
  | present => 17
  | noDirectory => 20
  | isDirectory => 21

/-- The wording of a cause. -/
def text : Cause → String
  | absent => "No such file or directory"
  | present => "File exists"
  | noDirectory => "Not a directory"
  | isDirectory => "Is a directory"

end Cause

end FileFault

/-- An operation on a file that fails. -/
structure FileFault where
  cause : FileFault.Cause
  path : Path
deriving DecidableEq, Repr, Inhabited

/-- The wording of a failed operation. -/
def FileFault.message (f : FileFault) : String :=
  s!"[Errno {f.cause.number}] {f.cause.text}: {Text.quoted f.path.text}"

/-- Why no text is read from a file: the operation fails, or the bytes spell no text. -/
inductive TextFault where
  | file (fault : FileFault)
  | undecodable (fault : Text.DecodeFault)
deriving DecidableEq, Repr, Inhabited

/-- The wording of a fault. -/
def TextFault.message : TextFault → String
  | file fault => fault.message
  | undecodable fault => fault.message

namespace Workspace

/-- What a place holds. -/
def find? (w : Workspace) (place : List String) : Option Entry :=
  if place = [] then some .directory else w.entries.lookup place

/-- Puts an entry at a place: what was there is replaced. -/
def put (w : Workspace) (place : List String) (entry : Entry) : Workspace :=
  if (w.entries.lookup place).isSome then
    { w with entries := w.entries.map fun e => if e.1 = place then (place, entry) else e }
  else { w with entries := w.entries ++ [(place, entry)] }

/-- Takes the entry at a place away. -/
def remove (w : Workspace) (place : List String) : Workspace :=
  { w with entries := w.entries.filter fun e => e.1 != place }

/-- The place that parts lead to from a directory. The last one need not exist. -/
def follow (w : Workspace) (start : List String) :
    List String → Except FileFault.Cause (List String)
  | [] => .ok start
  | ".." :: rest => follow w start.dropLast rest
  | [last] => .ok (start ++ [last])
  | part :: rest =>
    match w.find? (start ++ [part]) with
    | some .directory => follow w (start ++ [part]) rest
    | some (.file _) => .error .noDirectory
    | none => .error .absent

/-- The place that a path leads to. -/
def place (w : Workspace) (p : Path) : Except FileFault (List String) :=
  (w.follow (if p.isAbsolute then [] else w.directory) p.parts).mapError (⟨·, p⟩)

/-- What a path leads to, if there is anything. -/
def at? (w : Workspace) (p : Path) : Option Entry :=
  match w.place p with
  | .error _ => none
  | .ok place => w.find? place

/-- A path leads to something. -/
def isPresent (w : Workspace) (p : Path) : Bool := (w.at? p).isSome

/-- The bytes of the file that a path leads to. -/
def read (w : Workspace) (p : Path) : Except FileFault (List UInt8) := do
  match w.find? (← w.place p) with
  | some (.file bytes) => return bytes
  | some .directory => .error ⟨.isDirectory, p⟩
  | none => .error ⟨.absent, p⟩

/-- The text of the file that a path leads to. -/
def readText (w : Workspace) (p : Path) : Except TextFault String := do
  let bytes ← (w.read p).mapError .file
  let text ← (Text.decode bytes).mapError .undecodable
  return String.ofList text

/-- The text of the file that a path leads to, every line break written as a line feed. -/
def readLines (w : Workspace) (p : Path) : Except TextFault String :=
  (w.readText p).map fun text => String.ofList (Text.unifyLines text.toList)

/-- Writes a file in a directory that exists. -/
def write (w : Workspace) (p : Path) (text : String) : Except FileFault Workspace := do
  let place ← w.place p
  match w.find? place with
  | some .directory => .error ⟨.isDirectory, p⟩
  | _ => return w.put place (.text text)

/-- Makes a directory in a directory that exists. -/
def makeDirectory (w : Workspace) (p : Path) : Except FileFault Workspace := do
  let place ← w.place p
  if (w.find? place).isSome then .error ⟨.present, p⟩ else return w.put place .directory

/-- Makes a directory unless it is there already. -/
def ensureDirectory (w : Workspace) (p : Path) : Except FileFault Workspace :=
  match w.makeDirectory p with
  | .ok w => .ok w
  | .error f => if f.cause ≠ .absent ∧ w.at? p = some .directory then .ok w else .error f

/-- Makes a directory and the ones above it, as many as are missing at the end of a path with so
many parts. -/
def makeDirectoriesWithin (w : Workspace) (p : Path) : Nat → Except FileFault Workspace
  | 0 => w.ensureDirectory p
  | n + 1 =>
    match w.ensureDirectory p with
    | .ok w => .ok w
    | .error f =>
      if f.cause = .absent then do
        let w ← w.makeDirectoriesWithin p.parent n
        w.ensureDirectory p
      else .error f

/-- Makes a directory and the missing ones above it. -/
def makeDirectories (w : Workspace) (p : Path) : Except FileFault Workspace :=
  w.makeDirectoriesWithin p p.parts.length

/-- Writes a file and makes the missing directories above it. -/
def writeWithParents (w : Workspace) (p : Path) (text : String) : Except FileFault Workspace := do
  let w ← w.makeDirectories p.parent
  w.write p text

/-- A tree with nothing but the working directory and the directories above it. -/
def empty (directory : List String) : Workspace :=
  { directory
    entries := (List.range directory.length).map fun n => (directory.take (n + 1), .directory) }

/-- The files of a tree with their places. -/
def files (w : Workspace) : List (List String × List UInt8) :=
  w.entries.filterMap fun
    | (place, .file bytes) => some (place, bytes)
    | (_, .directory) => none

theorem lookup_map_put (entries : List (List String × Entry)) (place other : List String)
    (entry : Entry) (h : (entries.lookup place).isSome = true) :
    (entries.map fun e => if e.1 = place then (place, entry) else e).lookup other
      = if other = place then some entry else entries.lookup other := by
  induction entries with
  | nil => simp at h
  | cons e rest ih =>
    obtain ⟨key, value⟩ := e
    by_cases hk : key = place
    · subst hk
      by_cases ho : other = key
      · simp [ho]
      · have ho' : (other == key) = false := by simpa using ho
        by_cases hr : (rest.lookup key).isSome = true
        · have := ih hr
          simp only [ho, if_false] at this
          simp [List.lookup_cons, ho', ho, this]
        · have hm : ∀ e ∈ rest, e.1 ≠ key := by
            intro e he hkey
            apply hr
            rw [List.lookup_isSome_iff]
            exact ⟨e, he, by simp [hkey]⟩
          have : rest.map (fun e => if e.1 = key then (key, entry) else e) = rest := by
            conv => rhs; rw [← List.map_id rest]
            exact List.map_congr_left fun e he => by simp [hm e he]
          simp [List.lookup_cons, ho', ho, this]
    · have hk' : (place == key) = false := by simpa using fun e => hk e.symm
      rw [List.lookup_cons, hk'] at h
      have := ih h
      by_cases ho : other = key
      · subst ho
        simp [hk]
      · have ho' : (other == key) = false := by simpa using ho
        simp [List.lookup_cons, hk, ho', this]

/-- What a place holds after something was put at a place other than the root. -/
theorem find?_put (w : Workspace) (place other : List String) (entry : Entry)
    (h : place ≠ []) :
    (w.put place entry).find? other = if other = place then some entry else w.find? other := by
  by_cases ho : other = []
  · subst ho
    simp [find?, Ne.symm h]
  · unfold put
    split
    next hs => simp [find?, ho, lookup_map_put _ _ _ _ hs]
    next hs =>
      by_cases hop : other = place
      · subst hop
        have : w.entries.lookup other = none := by
          cases hl : w.entries.lookup other with
          | none => rfl
          | some e => simp [hl] at hs
        simp [find?, ho, List.lookup_append, this]
      · have hop' : (other == place) = false := by simpa using hop
        simp [find?, ho, hop, List.lookup_append, List.lookup_cons, hop']

end Workspace

end Narrowing
