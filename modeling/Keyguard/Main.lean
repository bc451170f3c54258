import Keyguard.Command.Run

/-!
# The program

The program reads its arguments and its environment, loads the files that the task may read or
change into a file tree, runs the task on that tree and writes the changes back to the disk. All
that it decides, it decides in `Invocation.ofArguments?` and `Invocation.run`.
-/

namespace Keyguard.Disk

/-- The path of a place on the disk. -/
def path (p : Place) : String := (Path.ofPlace p).text

/-- Whether the disk can have anything at a place. -/
def canHold (p : Place) : Bool := p.all fun name => name.utf8ByteSize ≤ longestName

/-- What the disk has at a place. A file that is there and cannot be read ends the program, since
a credential in it must not count as missing. -/
def node? (p : Place) : IO (Option Node) := do
  try
    return some (.ofContent (← IO.FS.readBinFile (path p)).toList)
  catch
    | .noFileOrDirectory .. => return none
    | fault =>
      if ← (← IO.FS.realPath (path p)).isDir then return some .directory else throw fault

/-- Loads what is at some places. A place comes after those on the way to it. -/
def load (t : FileTree) (places : List Place) : IO FileTree :=
  places.foldlM
    (fun t p => do
      if t.blocked p || !canHold p then return t
      match ← node? p with
      | some n => return t.put p n
      | none => return t) t

/-- Loads what a path leads through and to. -/
def loadPath (t : FileTree) (p : Path) : IO FileTree :=
  match p.check with
  | .error _ => return t
  | .ok () => load t p.trail

/-- Loads a directory and all that is below it. -/
partial def loadAll (t : FileTree) (p : Place) : IO FileTree := do
  let t ← load t [p]
  match t.at? p with
  | some .directory =>
    let entries ← (← IO.FS.realPath (path p)).readDir
    entries.foldlM (fun t e => loadAll t (p ++ [e.fileName])) t
  | _ => return t

/-- Writes a node to the disk. A file is written beside its place and renamed. -/
def write (p : Place) (n : Node) : IO Unit := do
  match n.content? with
  | none => IO.FS.createDirAll (path p)
  | some content =>
    IO.FS.writeBinFile (path p ++ ".tmp") ⟨content.toArray⟩
    IO.FS.rename (path p ++ ".tmp") (path p)

/-- Brings the disk from one tree to another. Directories come before what they hold. -/
def update (before after : FileTree) : IO Unit := do
  for (p, _) in before.nodes do
    if (after.at? p).isNone then IO.FS.removeFile (path p)
  for (p, n) in after.nodes.mergeSort fun a b => a.1.length ≤ b.1.length do
    if before.at? p ≠ some n then write p n

/-- What the environment says about directories. -/
def environment : IO Environment := do
  return { dataDir := ← IO.getEnv dataDirVariable
           xdgDataHome := ← IO.getEnv "XDG_DATA_HOME"
           home := (← IO.getEnv "HOME").filter (· ≠ "") }

/-- The files that a run may read or change. -/
def filesOf (i : Invocation) (e : Environment) : IO FileTree := do
  let legacy := match i.task with
    | .migrate source => source.toList
    | _ => []
  let t ← (i.config.toList ++ legacy).foldlM loadPath FileTree.empty
  match i.configure e t with
  | .error _ => return t
  | .ok c =>
    let dir := Layout.systemDir ⟨c.dataDir⟩
    match dir.check with
    | .error _ => return t
    | .ok () => loadAll (← loadPath t dir) dir.names

end Keyguard.Disk

open Keyguard in
/-- Runs the program. A wrong argument exits with 2 and a task that fails with 1. -/
def main (args : List String) : IO UInt32 := do
  match Invocation.ofArguments? args with
  | none =>
    IO.eprintln "usage: keyguard [-c CONFIG] [-d DATA_DIR] COMMAND [ARGUMENTS]"
    return 2
  | some i =>
    let e ← Disk.environment
    let before ← Disk.filesOf i e
    let (report, after) := i.run e before
    Disk.update before after
    report.printed.forM fun line => IO.println line
    match report.fault with
    | none => return 0
    | some fault =>
      IO.eprintln ("Error: " ++ fault.text)
      return 1
