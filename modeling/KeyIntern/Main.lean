import KeyIntern.Cli
import KeyIntern.Files.Snapshot

/-! # The program on a disk

`keywords` works on a file tree. This layer takes the tree from the disk, runs the program on
its command line, writes back the directories and files the run made, prints what the run
printed, and exits with its status.

The entries of the tree are named on standard input, one path per line, absolute or relative
to the working directory: a path that ends in `/` names a directory, and any other a file,
whose bytes are read from the disk. The working directory and the directories above it are
always in the tree. A listing of a project comes, for instance, from
`find "$PWD" -type d -printf '%p/\n' -o -type f -print`.

The run scans on one thread, and its time is measured from the end of the listing to the end of
the scan.
-/

namespace KeyIntern.Program

/-- The lines of a stream up to its end, without their line feeds. -/
partial def readLines (s : IO.FS.Stream) (acc : Array String) : IO (Array String) := do
  let line ← s.getLine
  if line.isEmpty then return acc
  let line := if line.endsWith "\n" then String.ofList line.toList.dropLast else line
  readLines s (acc.push line)

/-- An entry of the listing, with its bytes when it is a file; `none` when it cannot be read. -/
def readEntry (p : String) : IO (Option (String × Option ByteArray)) := do
  if p.isEmpty then return none
  if p.endsWith "/" then return some (p, none)
  try
    return some (p, some (← IO.FS.readBinFile p))
  catch _ =>
    return none

/-- Makes a change on the disk. -/
def apply : Files.Change → IO Unit
  | .makeDir p => IO.FS.createDirAll p
  | .write p b => IO.FS.writeBinFile p b

end KeyIntern.Program

open KeyIntern in
/-- Runs `keywords` on the tree listed on standard input. -/
def main (args : List String) : IO UInt32 := do
  let cwd := (← IO.currentDir).toString
  let lines ← Program.readLines (← IO.getStdin) #[]
  let entries ← lines.toList.filterMapM Program.readEntry
  let tree := Files.FileTree.ofListing cwd entries
  let begun ← IO.monoMsNow
  let done ← pure (Cli.start tree args)
  let ended ← match done with
    | .exit _ => pure begun
    | .generated .. => IO.monoMsNow
  let exit := Cli.finish ⟨ended - begun, 1⟩ done
  for change in tree.changes exit.tree do
    Program.apply change
  IO.print exit.stdout
  IO.eprint exit.stderr
  return exit.status.toUInt32
