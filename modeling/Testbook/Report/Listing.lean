import Testbook.Collection.Requirement
import Testbook.Collection.Validation

/-!
What the commands tell people: listings, and lines about issues.
-/

namespace Testbook.Report

open Testbook.Text

/-- The lines of a text. A line may end with a carriage return as well, and an end of line at the
end of the text starts no further one. -/
def shownLines (text : Text) : List Text :=
  let pieces := splitOn '\n' text
  pieces.dropLast.map (fun line => (dropEnd? ['\r'] line).getD line)
    ++ pieces.getLast?.toList.filter (!·.isEmpty)

/-- A line with blanks in front. -/
def indented (width : Nat) (text : Text) : Text := List.replicate width ' ' ++ text ++ "\n"

/-- The lines that show a field. -/
def fieldLines (name value : Text) : Text :=
  let lines := shownLines value
  indented 6 (name ++ ": " ++ lines.head?.getD []) ++ lines.tail.flatMap (indented 8)

/-- The lines that show all fields. -/
def allFieldLines (fields : Fields) : Text := fields.entries.flatMap fun e => fieldLines e.1 e.2

/-- The lines that show a test, with its fields or without. -/
def recordLines (showFields : Bool) (record : Record) : Text :=
  "  " ++ record.qualifiedId ++ " line " ++ decimal record.location.line ++ " ["
    ++ (record.field? "id").getD "-" ++ "]\n"
    ++ if showFields then allFieldLines record.fields else []

/-- The lines that show a module and its tests. -/
def moduleLines (showFields : Bool) (path : Path) (records : List Record) : Text :=
  path ++ " (" ++ decimal records.length ++ " tests)\n"
    ++ records.flatMap (recordLines showFields)

/-- The listing of collected tests. -/
def collectionLines (showFields : Bool) (collection : Collection) : Text :=
  collection.modules.flatMap (fun m => moduleLines showFields m.1 m.2)
    ++ decimal collection.testCount ++ " tests in " ++ decimal collection.modules.length
    ++ " modules\n"

/-- The line about an issue. -/
def issueLine (issue : Issue) : Text :=
  issue.severity.label ++ "[" ++ issue.code ++ "]: " ++ issue.message ++ "\n"

/-- The lines about issues; warnings only if they are asked for. -/
def issueLines (warnings : Bool) (issues : List Issue) : Text :=
  (issues.filter fun i => warnings || i.severity = .error).flatMap issueLine

/-- The line about a validation as a whole. -/
def validationLine (tests : Nat) (issues : List Issue) : Text :=
  decimal tests ++ " tests checked: " ++ decimal (countSeverity .error issues) ++ " errors, "
    ++ decimal (countSeverity .warning issues) ++ " warnings\n"

/-- The lines that show a requirement. -/
def requirementLines (requirement : Requirement) : Text :=
  requirement.title ++ " (verified by " ++ decimal requirement.verifiedBy.length ++ " tests)\n"
    ++ requirement.fields.entries.flatMap fun e => indented 4 (e.1 ++ ": " ++ e.2)

/-- The listing of requirements. -/
def requirementsLines (requirements : List Requirement) : Text :=
  if requirements.isEmpty then "No requirements found\n"
  else requirements.flatMap requirementLines

/-- The line about a failure that ends a command. -/
def failureLine (failure : Failure) : Text := "error: " ++ failure.message ++ "\n"

end Testbook.Report
