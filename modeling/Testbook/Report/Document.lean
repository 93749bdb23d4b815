import Testbook.Collection.Requirement
import Testbook.Collection.Validation
import Testbook.Report.Json

/-!
What the commands tell other programs: a document with the data that was asked for and a list of
issues. Files are named with slashes in it.
-/

namespace Testbook.Report

open Testbook.Text

/-- A path with slashes only. -/
def slashed (path : Path) : Text := path.map fun c => if c = '\\' then '/' else c

/-- What every issue has. -/
def issueHead (code : Text) (severity : Severity) (message : Text) : List (Text × JsonValue) :=
  [("code", .text code), ("severity", .text severity.label), ("message", .text message)]

/-- A failure as an issue. -/
def failureJson (failure : Failure) : JsonValue :=
  .object (issueHead failure.code .error failure.message
    ++ JsonValue.entry? "file" (.text ∘ slashed) failure.path?
    ++ JsonValue.entry? "line" .number failure.line?
    ++ JsonValue.entry? "qualified_id" .text failure.qualifiedId?)

/-- What a validation found as an issue. -/
def issueJson (issue : Issue) : JsonValue :=
  .object (issueHead issue.code issue.severity issue.message
    ++ JsonValue.entry? "file" (.text ∘ slashed) issue.path?
    ++ JsonValue.entry? "qualified_id" .text issue.qualifiedId?
    ++ JsonValue.entry? "field" .text issue.field?)

/-- A step with its expected result. -/
def stepJson (step : Text × Text) : JsonValue :=
  .object [("step", .text step.1), ("expected_result", .text step.2)]

/-- What every test has. -/
def testHead (record : Record) : List (Text × JsonValue) :=
  [("qualified_id", .text record.qualifiedId), ("name", .text record.name),
    ("line", .number record.location.line), ("fields", .textEntries record.fields.entries),
    ("markers", .texts record.markers)]

/-- A test with these steps. -/
def testJson (record : Record) (steps : Option (List (Text × Text))) : JsonValue :=
  .object (testHead record
    ++ JsonValue.entry? "test_steps" (fun steps => .array (steps.map stepJson)) steps)

/-- A module with its tests. -/
def moduleJson (path : Path) (tests : List JsonValue) : JsonValue :=
  .object [("path", .text (slashed path)), ("tests", .array tests)]

/-- Modules, and the number of their tests. -/
def modulesJson (modules : List JsonValue) (tests : Nat) : JsonValue :=
  .object [("modules", .array modules), ("test_count", .number tests)]

/-- A test with its steps, when their items can be cut out of their values. -/
def readTest (record : Record) : Except Html.BadCut JsonValue := testJson record <$> record.readSteps

/-- A module with its tests, when the steps of all of them can be read. -/
def readModule (path : Path) (records : List Record) : Except Html.BadCut JsonValue :=
  moduleJson path <$> records.mapM readTest

/-- Collected tests, when the steps of all of them can be read. -/
def readCollection (collection : Collection) : Except Html.BadCut JsonValue :=
  (modulesJson · collection.testCount) <$> collection.modules.mapM fun m => readModule m.1 m.2

/-- The outcome of a validation. -/
def validationJson (valid : Bool) (tests : Nat) (issues : List Issue) : JsonValue :=
  .object [("valid", .boolean valid), ("test_count", .number tests),
    ("error_count", .number (countSeverity .error issues)),
    ("warning_count", .number (countSeverity .warning issues))]

/-- A requirement. -/
def requirementJson (requirement : Requirement) : JsonValue :=
  .object [("title", .text requirement.title),
    ("fields", .textEntries requirement.fields.entries),
    ("verified_by", .texts requirement.verifiedBy)]

/-- Requirements. -/
def requirementsJson (requirements : List Requirement) : JsonValue :=
  .object [("requirements", .array (requirements.map requirementJson))]

/-- The word for how a command ended. -/
def statusText (failed : Bool) : Text := if failed then "error" else "ok"

/-- The document that a command ends with. -/
def document (command : Text) (failed : Bool) (data : JsonValue) (issues : List JsonValue) :
    Text :=
  JsonValue.write 0 (.object [("schema_version", .text "1"), ("command", .text command),
    ("status", .text (statusText failed)), ("data", data), ("issues", .array issues)]) ++ "\n"

end Testbook.Report
