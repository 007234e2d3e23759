/-
GuardCost/Main.lean

The command line.  The files below the current directory are read into a
file system, the command line is carried out there, and what it changed is
written back: nothing outside of the current directory is seen or touched.
-/
import GuardCost.Cli.Run
import GuardCost.Machine.FileSystem
import GuardCost.Shell.System

namespace GuardCost

/-- A file that starts as a script or a program does can be run. -/
def looksExecutable (content : Bytes) : Bool :=
  Bytes.startsWith content (Bytes.ofString "#!") || Bytes.startsWith content Process.mark

/-- The time of a file in nanoseconds. -/
def timeOf (metadata : IO.FS.Metadata) : Time :=
  metadata.modified.sec.toNat * 1000000000 + metadata.modified.nsec.toNat

/-- Read a directory entry, and everything below it, into a file system. -/
partial def readEntry (fs : FileSystem) (place : Location) (entry : IO.FS.DirEntry) :
    IO FileSystem := do
  let here := place ++ [Bytes.ofString entry.fileName]
  let metadata ← entry.path.symlinkMetadata
  match metadata.type with
  | .dir =>
    let mut fs := fs.insert here (.directory (timeOf metadata))
    for inner in ← entry.path.readDir do
      fs ← readEntry fs here inner
    return fs
  | .file =>
    let content := (← IO.FS.readBinFile entry.path).data.toList
    let rights := if looksExecutable content then Rights.program else Rights.plain
    return fs.insert here (.file content rights (timeOf metadata))
  | _ => return fs

/-- Write one changed file back. -/
def writeEntry (place : Location) (node : Node) : IO Unit := do
  let path := place.path.text
  match node with
  | .directory _ => IO.FS.createDirAll path
  | .file content rights _ =>
    IO.FS.writeBinFile path ⟨content.toArray⟩
    if rights.isRunnable then
      let all : IO.AccessRight := { read := true, write := true, execution := true }
      let others : IO.AccessRight := { read := true, execution := true }
      IO.setAccessRights path { user := all, group := others, other := others }
  | _ => return ()

/-- Write what has changed below a place back. -/
def writeChanges (before after : FileSystem) (place : Location) : IO Unit := do
  for (rest, node) in after.below place do
    let old? := before.lookup? (place ++ rest)
    let same := match old?, node with
      | some (.directory _), .directory _ => true
      | some (.file c e _), .file c' e' _ => c == c' && e == e'
      | some old, node => old == node
      | none, _ => false
    if !same then writeEntry (place ++ rest) node
  for (rest, node) in before.below place do
    match node, after.lookup? (place ++ rest) with
    | .file .., none => IO.FS.removeFile (place ++ rest).path.text
    | _, _ => pure ()

/-- A time after every change that a file system knows of. -/
def timeAfter (fs : FileSystem) : Time :=
  fs.entries.foldl (fun latest entry =>
    match entry.2 with
    | .file _ _ time => max latest (time + 1)
    | .directory time => max latest (time + 1)
    | _ => latest) 0

/-- Carry out a command line in the current directory. -/
def runHere (words : List String) : IO UInt32 := do
  let directory ← IO.currentDir
  let place := ((⟨Bytes.ofString directory.toString⟩ : Path).parts).filter fun part => part != []
  let mut files := Shell.freshFiles.makeDirectories 0 place
  for entry in ← directory.readDir do
    files ← readEntry files place entry
  let world : World := ⟨files, place, timeAfter files⟩
  let (code, session) :=
    (Cli.perform Shell.tools (.unlimited 1) (words.map Bytes.ofString)).run (.ofWorld world)
  writeChanges files session.world.files place
  (← IO.getStderr).putStr session.console.diagnostics
  (← IO.getStdout).putStr session.console.printed
  return code.toUInt32

end GuardCost

/-- Carry out the command line that the program was started with. -/
def main (words : List String) : IO UInt32 := GuardCost.runHere words
