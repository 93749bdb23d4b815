import Testbook.Command.Run

/-!
The program: it reads the files below the working directory, runs, and writes what is to be shown.
-/

namespace Testbook

open Testbook.Text

/-- A file, or a directory with all that is in it. -/
partial def readEntry (entry : IO.FS.DirEntry) : IO (Text × FileTree) := do
  if ← entry.path.isDir then
    let entries ← entry.path.readDir
    return (entry.fileName.toList, .directory (← entries.toList.mapM readEntry))
  else
    return (entry.fileName.toList, .file (← IO.FS.readBinFile entry.path))

/-- All that is below the working directory, in its place. -/
def readWorkingDirectory : IO FileSystem := do
  let directory ← IO.currentDir
  let entries ← directory.readDir
  let below := FileTree.directory (← entries.toList.mapM readEntry)
  let way := FileTree.way directory.toString.toList
  return { root := FileTree.put below way .empty, workingDirectory := way }

/-- The text of a variable of the environment. -/
def readVariable (name : String) : IO (Option Text) := do
  return (← IO.getEnv name).map String.toList

end Testbook

/-- Runs the program with the arguments of the command line. -/
def main (arguments : List String) : IO UInt32 := do
  let files ← Testbook.readWorkingDirectory
  let config ← Testbook.readVariable "CASEPORT_CONFIG"
  let level ← Testbook.readVariable "CASEPORT_LOG"
  match Testbook.run (arguments.map String.toList) config level files with
  | .ok outcome =>
    IO.eprint (String.ofList outcome.diagnostics)
    IO.print (String.ofList outcome.output)
    return outcome.code.toUInt32
  | .error _ =>
    IO.eprintln "an item cannot be cut out of its list"
    return 101
