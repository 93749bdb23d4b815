import Testbook.Collection.Basic
import Testbook.Record.Steps
import Testbook.Registry.Basic

/-!
Validation of tests: required fields must have values, and steps and their expected results must
go together. The first is an error, the second a warning; a module that could not be collected is
an error as well.
-/

namespace Testbook

open Testbook.Text Testbook.Html

/-- How bad an issue is. -/
inductive Severity where
  | error | warning
  deriving DecidableEq, Repr

/-- What a severity is called. -/
def Severity.label : Severity → Text
  | error => "error"
  | warning => "warning"

/-- What is wrong with a test. -/
inductive Defect where
  | missing (field : Text)
  /-- only one of two fields that belong together is set -/
  | alone (present absent : Text)
  /-- lists of steps and results that do not pair up -/
  | uneven (steps results : Nat)
  deriving DecidableEq, Repr

/-- Something that a validation finds. -/
inductive Issue where
  | uncollected (failure : Failure)
  | defect (path qualifiedId : Text) (defect : Defect)
  deriving DecidableEq, Repr

namespace Issue

/-- The code of an issue. -/
def code : Issue → Text
  | uncollected failure => failure.code
  | defect path id (.missing field) => (Failure.missingField path id field).code
  | defect _ _ (.alone ..) => "W001"
  | defect _ _ (.uneven ..) => "W002"

/-- How bad an issue is. -/
def severity : Issue → Severity
  | uncollected _ => .error
  | defect _ _ (.missing _) => .error
  | defect _ _ (.alone ..) => .warning
  | defect _ _ (.uneven ..) => .warning

/-- What an issue says. -/
def message : Issue → Text
  | uncollected failure => failure.message
  | defect path id (.missing field) => (Failure.missingField path id field).message
  | defect _ id (.alone present absent) =>
    id ++ ": '" ++ present ++ "' is set but '" ++ absent ++ "' is not"
  | defect _ id (.uneven steps results) =>
    id ++ ": " ++ decimal steps ++ " steps but " ++ decimal results
      ++ " expected results; kept as a single pair"

/-- The file that an issue is about. -/
def path? : Issue → Option Text
  | uncollected failure => failure.path?
  | defect path _ _ => some path

/-- The test that an issue is about. -/
def qualifiedId? : Issue → Option Text
  | uncollected failure => failure.qualifiedId?
  | defect _ id _ => some id

/-- The field that an issue is about. -/
def field? : Issue → Option Text
  | uncollected _ => none
  | defect _ _ (.missing field) => some field
  | defect _ _ (.alone _ absent) => some absent
  | defect _ _ (.uneven ..) => some Record.stepsField

end Issue

/-- What is wrong with steps and expected results that make up these pairs: they are lists whose
items were not paired, as the number of pairs tells. -/
def unevenItems (pairs : List (Text × Text)) (items results : Option (List Text)) : List Defect :=
  match items, results with
  | some items, some results =>
    if pairs.length ≠ items.length ∨ items.length ≠ results.length then
      [.uneven items.length results.length]
    else []
  | _, _ => []

/-- What is wrong with two values as steps and expected results. -/
def unevenSteps (steps expected : Text) : List Defect :=
  unevenItems (pairSteps steps expected) (orderedItems? steps) (orderedItems? expected)

/-- What is wrong with the steps of a test. -/
def stepDefects (record : Record) : List Defect :=
  match record.filled? Record.stepsField, record.filled? Record.expectedField with
  | some _, none => [.alone Record.stepsField Record.expectedField]
  | none, some _ => [.alone Record.expectedField Record.stepsField]
  | some steps, some expected => unevenSteps steps expected
  | none, none => []

/-- All that is wrong with a test. -/
def defects (registry : Registry) (record : Record) : List Defect :=
  (record.missing registry.required).map .missing ++ stepDefects record

/-- The issues of a test. -/
def recordIssues (registry : Registry) (record : Record) : List Issue :=
  (defects registry record).map (.defect record.location.path record.qualifiedId)

/-- The issues of a collection. -/
def collectionIssues (registry : Registry) (collection : Collection) : List Issue :=
  collection.failures.map .uncollected ++ collection.records.flatMap (recordIssues registry)

/-! ### Reading the lists -/

/-- What is wrong with the steps of a test, the items of lists cut out of their values. -/
def readStepDefects (record : Record) : Except BadCut (List Defect) :=
  match record.filled? Record.stepsField, record.filled? Record.expectedField with
  | some steps, some expected => do
    let items ← readItems steps
    let results ← readItems expected
    return unevenItems (← cutSteps steps expected) items results
  | _, _ => .ok (stepDefects record)

/-- The issues of a test, when all items of its lists can be cut out of their values. -/
def validate (registry : Registry) (record : Record) : Except BadCut (List Issue) := do
  let defects := (record.missing registry.required).map .missing ++ (← readStepDefects record)
  return defects.map (.defect record.location.path record.qualifiedId)

/-- The issues of a collection, when those of all its tests can be found. -/
def validateAll (registry : Registry) (collection : Collection) : Except BadCut (List Issue) := do
  return collection.failures.map .uncollected
    ++ (← collection.records.mapM (validate registry)).flatten

/-! ### Verdicts -/

/-- The number of issues of a severity. -/
def countSeverity (severity : Severity) (issues : List Issue) : Nat :=
  issues.countP (·.severity = severity)

/-- Whether issues are all but warnings. -/
def areValid (issues : List Issue) : Bool := issues.all (·.severity != .error)

end Testbook
