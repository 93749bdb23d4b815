import Testbook.Path
import Testbook.ReadFault

/-!
Trees of files and directories as values, and file systems: a tree with a working directory. A path
is followed piece by piece, an absolute one from the root of the tree and a relative one from the
working directory. A piece behind a file leads nowhere, and above the root is the root itself.
-/

namespace Testbook

open Testbook.Text

/-- A file with its bytes, or a directory with its entries by name. -/
inductive FileTree where
  | file (bytes : ByteArray)
  | directory (entries : List (Text × FileTree))

namespace FileTree

/-- A directory without entries. -/
def empty : FileTree := directory []

/-- The entries of a directory; a file has none. -/
def entries : FileTree → List (Text × FileTree)
  | file _ => []
  | directory entries => entries

/-- Whether a tree is a file. -/
def isFile : FileTree → Bool
  | file _ => true
  | directory _ => false

/-- The entry of a name. -/
def entryNamed? (name : Text) : List (Text × FileTree) → Option FileTree
  | [] => none
  | (n, tree) :: entries => if n = name then some tree else entryNamed? name entries

/-- Where the pieces of a path lead from a place in a tree; `above` are the directories around the
place, the innermost first, and there are none around the root. -/
def follow (above : List FileTree) (here : FileTree) : List Text → Except ReadFault FileTree
  | [] => .ok here
  | piece :: pieces =>
    match here with
    | file _ => .error .notDirectory
    | directory entries =>
      if Path.isIdle piece then follow above here pieces
      else if piece = ['.', '.'] then
        match above with
        | [] => follow [] here pieces
        | parent :: above => follow above parent pieces
      else match entryNamed? piece entries with
        | some tree => follow (here :: above) tree pieces
        | none => .error .missing

end FileTree

/-- A tree of files, with the names on the way to the directory that relative paths start from. -/
structure FileSystem where
  root : FileTree
  workingDirectory : List Text := []

/-- A tree alone is a file system with its root as the working directory. -/
instance : Coe FileTree FileSystem := ⟨fun tree => { root := tree }⟩

namespace FileSystem

/-- What is at a path. -/
def find (files : FileSystem) (path : Path) : Except ReadFault FileTree :=
  match path with
  | [] => .error .missing
  | '/' :: _ => files.root.follow [] (splitOn '/' path)
  | _ :: _ => files.root.follow [] (files.workingDirectory ++ splitOn '/' path)

/-- Whether there is anything at a path. -/
def has (files : FileSystem) (path : Path) : Bool := (files.find path).isOk

/-- Whether there is a file at a path. -/
def hasFile (files : FileSystem) (path : Path) : Bool :=
  match files.find path with
  | .ok found => found.isFile
  | .error _ => false

/-- The text of bytes in UTF-8. -/
def decode (bytes : ByteArray) : Except ReadFault Text :=
  match bytes.utf8Decode? with
  | some text => .ok text.toList
  | none => .error .notText

/-- The text of the file at a path. -/
def read (files : FileSystem) (path : Path) : Except ReadFault Text :=
  match files.find path with
  | .ok (.file bytes) => decode bytes
  | .ok (.directory _) => .error .directory
  | .error fault => .error fault

end FileSystem

namespace FileTree

/-! ### Changes -/

/-- Entries with the one of a name changed, or made from an empty directory. -/
def alterEntry (name : Text) (change : FileTree → FileTree) :
    List (Text × FileTree) → List (Text × FileTree)
  | [] => [(name, change empty)]
  | e :: entries =>
    if e.1 = name then (name, change e.2) :: entries else e :: alterEntry name change entries

/-- A tree with another one put in at the end of a way of names. Directories on the way come into
being. -/
def put (new : FileTree) : List Text → FileTree → FileTree
  | [], _ => new
  | name :: names, tree => directory (alterEntry name (put new names) tree.entries)

/-- A tree without what is at the end of a way of names. -/
def removeAt : List Text → FileTree → FileTree
  | [], _ => empty
  | [name], tree => directory (tree.entries.filter (·.1 != name))
  | name :: names, tree =>
    match entryNamed? name tree.entries with
    | some _ => directory (alterEntry name (removeAt names) tree.entries)
    | none => tree

/-- The names in a path. -/
def way (path : Path) : List Text := (Path.components path).filterMap Component.name?

/-- A tree with a file written. -/
def write (tree : FileTree) (path : Path) (bytes : ByteArray) : FileTree :=
  put (file bytes) (way path) tree

/-- A tree with a directory made, unless there is something at the path. -/
def makeDirectory (tree : FileTree) (path : Path) : FileTree :=
  if FileSystem.has tree path then tree else put empty (way path) tree

/-- A tree without what is at a path. -/
def remove (tree : FileTree) (path : Path) : FileTree := removeAt (way path) tree

end FileTree

end Testbook
