import Testbook.Collection.Basic
import Testbook.Collection.Source
import Testbook.FileTree.Walk
import Testbook.Record.Naming
import Testbook.Record.Scope
import Testbook.Registry.Apply

/-!
Collecting: from a place in a file tree to the tests of all test modules there. A module that cannot
be read or is no program does not keep the others from being collected.
-/

namespace Testbook

open Testbook.Text

/-- A test function or method of a module, with the class that it is in. -/
structure Found where
  parent : Option Python.Class
  function : Python.Function

/-- The tests that a definition makes. -/
def foundIn : Python.Definition → List Found
  | .function f => if isTestName f.name then [⟨none, f⟩] else []
  | .classDef c => (c.methods.filter (isTestName ·.name)).map fun f => ⟨some c, f⟩

namespace Source

/-- The tests of a module, in their order. -/
def found (source : Source) : List Found := source.module.definitions.flatMap foundIn

/-- The scopes that a test stands in. -/
def scopes (source : Source) (test : Found) : List Scope :=
  [⟨.package, source.packageDoc, []⟩, ⟨.module, source.module.docstring, source.module.marks⟩]
    ++ test.parent.toList.map (fun c => ⟨.testClass, c.docstring, c.decorators⟩)
    ++ [⟨.function, test.function.docstring, test.function.decorators⟩]

/-- The record of a test before a registry is applied to it. -/
def bareRecord (registry : Registry) (base : Option Path) (source : Source) (test : Found) :
    Record :=
  let resolved := resolve (source.scopes test) registry.ignored
  let modulePath := Path.modulePath source.path base
  let parentClass := test.parent.map (·.name)
  { name := test.function.name
    qualifiedId := qualifiedId modulePath parentClass test.function.name
    modulePath, parentClass
    doc := test.function.docstring
    location := ⟨source.path, test.function.line⟩
    fields := resolved.fields
    markers := resolved.markers
    decorators := test.function.decorators
    classDecorators := (test.parent.map (·.decorators)).getD []
    moduleMarks := source.module.marks }

/-- The records of the tests of a module. -/
def records (registry : Registry) (base : Option Path) (source : Source) : List Record :=
  source.found.map fun test => registry.apply (source.bareRecord registry base test)

/-- What there is to say about making the records. -/
def notices (registry : Registry) (base : Option Path) (source : Source) : List Notice :=
  source.found.flatMap fun test =>
    resolveNotices (source.scopes test) ++ registry.applyNotices (source.bareRecord registry base test)

end Source

/-- What to leave out of a collection, and the directory that module paths start from. -/
structure CollectOptions where
  ignored : List Path := []
  base : Option Path := none

/-- Whether a path is one to be left out, or lies under one. -/
def CollectOptions.ignores (options : CollectOptions) (path : Path) : Bool :=
  options.ignored.any fun ignored => Path.isUnder (Path.normalize ignored) (Path.normalize path)

/-- Whether a path has the name of a test module. -/
def isTestPath (path : Path) : Bool := (Path.fileName? path).any isTestModule

/-- The test modules at and under a place with something there. -/
def testModules (options : CollectOptions) (root : Path) (place : FileTree) : List Path :=
  ((place.walk options.ignores root).filter isTestPath).map Path.normalize

/-- The collection of modules that were read or not. -/
def Collection.ofSources (registry : Registry) (base : Option Path)
    (sources : List (Path × Except Failure Source)) : Collection where
  modules := sources.filterMap fun (path, source) =>
    source.toOption.map fun source => (path, source.records registry base)
  failures := sources.filterMap fun (_, source) => match source with
    | .ok _ => none
    | .error failure => some failure

variable [Python.Recovery]

/-- The tests of one module. -/
def collectModule (registry : Registry) (options : CollectOptions) (files : FileSystem)
    (docs : PackageDocs) (path : Path) : Except Failure (List Record) × PackageDocs :=
  let (source, docs) := readSource files docs path
  (source.map (·.records registry options.base), docs)

/-- The test modules at and under a place, as they were read; nothing may be at the place. -/
def sourcesAt (options : CollectOptions) (files : FileSystem) (docs : PackageDocs)
    (root : Path) : Except Failure (List (Path × Except Failure Source)) × PackageDocs :=
  match files.find root with
  | .error _ => (.error (.notFound root), docs)
  | .ok place =>
    let (sources, docs) := readSources files docs (testModules options root place)
    (.ok sources, docs)

/-- The tests at and under a place. -/
def collect (registry : Registry) (options : CollectOptions) (files : FileSystem)
    (docs : PackageDocs) (root : Path) : Except Failure Collection × PackageDocs :=
  let (sources, docs) := sourcesAt options files docs root
  (sources.map (.ofSources registry options.base), docs)

/-- What there is to say about one module. -/
def moduleNotices (registry : Registry) (base : Option Path) :
    Path × Except Failure Source → List Notice
  | (path, .ok source) =>
    source.notices registry base
      ++ [⟨.debug, .collector, path ++ ": " ++ decimal source.found.length ++ " tests"⟩]
  | (path, .error failure) => [⟨.warning, .collector, "skipping " ++ path ++ ": " ++ failure.message⟩]

/-- What there is to say about a walk at its end. -/
def walkNotice (collection : Collection) (root : Path) : Notice :=
  ⟨.debug, .collector, "collected " ++ decimal collection.testCount ++ " tests from "
    ++ decimal collection.modules.length ++ " modules under " ++ root⟩

/-- What there is to say about collecting the tests at and under a place. -/
def collectNotices (registry : Registry) (options : CollectOptions) (files : FileSystem)
    (root : Path) : List Notice :=
  match (sourcesAt options files [] root).1 with
  | .error _ => []
  | .ok sources =>
    sources.flatMap (moduleNotices registry options.base)
      ++ if files.hasFile root then []
        else [walkNotice (.ofSources registry options.base sources) root]

end Testbook
