import Testbook.Failure
import Testbook.Record.Basic

/-!
Collections: the tests of several modules, and the modules that could not be collected.
-/

namespace Testbook

open Testbook.Text

/-- Tests by module, in the order of a walk, and what went wrong with other modules. -/
structure Collection where
  modules : List (Path × List Record)
  failures : List Failure

namespace Collection

/-- All tests. -/
def records (collection : Collection) : List Record := collection.modules.flatMap (·.2)

/-- The number of tests. -/
def testCount (collection : Collection) : Nat := collection.records.length

/-- The first test with a full name. -/
def find? (collection : Collection) (qualifiedId : Text) : Option Record :=
  collection.records.find? (·.qualifiedId = qualifiedId)

/-- The first test that a report of a test run names so. -/
def findReported? (collection : Collection) (key : Text × Text) : Option Record :=
  collection.records.find? (·.reportKey = key)

end Collection

end Testbook
