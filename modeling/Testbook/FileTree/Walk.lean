import Testbook.FileTree.Basic

/-!
Walks through file trees. A walk lists the files at and under a place, with the entries of each
directory in the order of their names; it does not enter what is to be left out.
-/

namespace Testbook.FileTree

open Testbook.Text

/-- Whether a named list does not come after another one. -/
def isBefore {α : Type} (a b : Text × α) : Bool := !(b.1 < a.1)

mutual

/-- The files at and under a place that is spelled as `path`. -/
def walk (leaveOut : Path → Bool) (path : Path) : FileTree → List Path
  | file _ => if leaveOut path then [] else [path]
  | directory entries =>
    if leaveOut path then []
    else ((walkEntries leaveOut path entries).mergeSort isBefore).flatMap (·.2)

/-- The names of entries, each with the files at and under it. -/
def walkEntries (leaveOut : Path → Bool) (path : Path) :
    List (Text × FileTree) → List (Text × List Path)
  | [] => []
  | (name, tree) :: entries =>
    (name, walk leaveOut (Path.extend path name) tree) :: walkEntries leaveOut path entries

end

end Testbook.FileTree
