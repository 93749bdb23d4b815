import Testbook.Failure
import Testbook.FileTree.Basic
import Testbook.Python.Module

/-!
Test modules as they are read: a module together with the documentation of its package, which is
that of the initial file in its directory. The documentation of a package is read once; a cache
keeps it for the other modules of the package. What went wrong is not kept.
-/

namespace Testbook

open Testbook.Text

/-- A test module that was read, with the documentation of its package. -/
structure Source where
  path : Path
  module : Python.Module
  packageDoc : Option Text

variable [Python.Recovery]

/-- The module in a file. -/
def readModuleAt (files : FileSystem) (path : Path) : Except Failure Python.Module :=
  match files.read path with
  | .error fault => .error (.unreadable path fault)
  | .ok text => match Python.readModule text with
    | .ok module => .ok module
    | .error e => .error (.badSyntax path e.line e.column e.message)

/-- The name of the initial file of a package. -/
def initialFile : Text := "__init__.py"

/-- The documentation of the package in a directory, if it is one. -/
def readPackageDoc (files : FileSystem) (directory : Path) : Except Failure (Option Text) :=
  let path := Path.extend directory initialFile
  if files.hasFile path then (readModuleAt files path).map (·.docstring) else .ok none

/-- The documentations of packages by their directories, as far as they were read. -/
abbrev PackageDocs := List (List Component × Option Text)

/-- The documentation of the package in a directory, from the cache if it is there. -/
def PackageDocs.read (docs : PackageDocs) (files : FileSystem) (directory : Path) :
    Except Failure (Option Text) × PackageDocs :=
  match docs.lookup (Path.components directory) with
  | some doc => (.ok doc, docs)
  | none => match readPackageDoc files directory with
    | .ok doc => (.ok doc, (Path.components directory, doc) :: docs)
    | .error failure => (.error failure, docs)

/-- The test module in a file. -/
def readSource (files : FileSystem) (docs : PackageDocs) (path : Path) :
    Except Failure Source × PackageDocs :=
  match readModuleAt files path with
  | .error failure => (.error failure, docs)
  | .ok module => match Path.parent? path with
    | none => (.ok ⟨path, module, none⟩, docs)
    | some directory =>
      let (doc, docs) := docs.read files directory
      (doc.map fun doc => ⟨path, module, doc⟩, docs)

/-- The test modules in files, each with its path. -/
def readSources (files : FileSystem) (docs : PackageDocs) :
    List Path → List (Path × Except Failure Source) × PackageDocs
  | [] => ([], docs)
  | path :: paths =>
    let (source, docs) := readSource files docs path
    let (sources, docs) := readSources files docs paths
    ((path, source) :: sources, docs)

end Testbook
