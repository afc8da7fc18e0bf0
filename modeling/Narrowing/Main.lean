import Narrowing.CommandLine.Run

/-!
# The program's entry

The files that a run may touch are read beforehand, the run itself is a function
on them, and what it changed is written back.
-/

namespace Narrowing.CommandLine

/-- Adds what stands at a path on disk to a workspace, with the directories on the way. -/
def survey (w : Workspace) (p : Path) : IO Workspace := do
  let mut w := w
  let mut place := if p.isAbsolute then [] else w.directory
  for part in p.parts do
    if part == ".." then place := place.dropLast
    else
      place := place ++ [part]
      let onDisk := (← IO.currentDir) / ("/" ++ "/".intercalate place)
      if ← onDisk.isDir then w := w.put place .directory
      else if ← onDisk.pathExists then
        w := w.put place (.file (← IO.FS.readBinFile onDisk).toList)
  return w

/-- The paths that a command touches before its targets are known. -/
def Command.paths (w : Workspace) : Command → List Path
  | help => []
  | generate o =>
    let roots := ((ancestors w.directory).map fun d => (⟨.root, d⟩ : Path))
      ++ (nonempty o.projectRoot).toList.map .ofText
    roots.map (·.under (.ofText Config.fileName))
      ++ [o.config, o.input, o.output].filterMap (·.map .ofText)
  | inspect o => [.ofText o.input]

/-- The paths of the targets of a command. -/
def Command.targetPaths (tools : Tools) (w : Workspace) : Command → List Path
  | generate o =>
    match o.plan tools w with
    | .ok (targets, _) => targets.flatMap fun t => [t.input, t.output, t.output.parent]
    | .error _ => []
  | _ => []

/-- Writes what a run changed. -/
def commit (before after : Workspace) : IO Unit := do
  for (place, entry) in after.entries do
    if before.entries.lookup place != some entry then
      let onDisk := "/" ++ "/".intercalate place
      match entry with
      | .directory => IO.FS.createDirAll onDisk
      | .file bytes => IO.FS.writeBinFile onDisk ⟨bytes.toArray⟩

/-- Runs a command line on the files on disk, and gives the code it ends with. -/
def runOnDisk (tools : Tools) (args : List String) : IO UInt32 := do
  let here := Path.ofText (← IO.currentDir).toString
  let mut w := Workspace.empty here.parts
  match Command.ofArguments args with
  | .error _ => pure ()
  | .ok command =>
    for p in command.paths w do w ← survey w p
    for p in command.targetPaths tools w do w ← survey w p
  let outcome := run tools w args
  IO.print outcome.printed
  IO.eprint outcome.reported
  commit w outcome.workspace
  return outcome.code.toUInt32

end Narrowing.CommandLine

/-- The program, with the readers of plain files. -/
def main (args : List String) : IO UInt32 := Narrowing.CommandLine.runOnDisk .plain args
