import Testbook.Path
import Testbook.Record.Fields
import Testbook.Record.Steps
import Testbook.Text.Case

/-!
Records of tests: where a test is, what it is called, and the fields and markers that hold for it.
-/

namespace Testbook

open Testbook.Text

/-- A line of a file. -/
structure Location where
  path : Path
  line : Nat
  deriving DecidableEq, Repr

/-- How a location is shown. -/
def Location.text (l : Location) : Text := l.path ++ "#" ++ decimal l.line

/-- A test function or method. -/
structure Record where
  name : Text
  qualifiedId : Text
  modulePath : Text
  parentClass : Option Text
  doc : Option Text
  location : Location
  fields : Fields
  markers : List Text
  decorators : List Text
  classDecorators : List Text
  moduleMarks : List Text

/-- The full name of a test: the names of its module and class and its own with dots between. -/
def qualifiedId (modulePath : Text) (parentClass : Option Text) (name : Text) : Text :=
  join "." ((if modulePath.isEmpty then [] else [modulePath]) ++ parentClass.toList ++ [name])

namespace Record

/-- The value of a field, whose name may be in any case. -/
def field? (record : Record) (name : Text) : Option Text := record.fields.get? (lower name)

/-- The value of a field unless it is empty. -/
def filled? (record : Record) (name : Text) : Option Text :=
  (record.field? name).filter (!·.isEmpty)

/-- The names of the test's class, with its module in front, and of the test itself, as reports of
test runs give them. -/
def reportKey (record : Record) : Text × Text :=
  (match record.parentClass with
    | some parent => record.modulePath ++ "." ++ parent
    | none => record.modulePath, record.name)

/-- The name of the field with the steps of a test. -/
def stepsField : Text := "steps"

/-- The name of the field with the results that are expected of the steps. -/
def expectedField : Text := "expectedresults"

/-- The steps of the test and their expected results in pairs, if there are both. -/
def steps? (record : Record) : Option (List (Text × Text)) := do
  return pairSteps (← record.filled? stepsField) (← record.filled? expectedField)

/-- The steps of the test and their expected results in pairs, the items of both lists cut out of
their values, if there are both. -/
def readSteps (record : Record) : Except Html.BadCut (Option (List (Text × Text))) :=
  match record.filled? stepsField, record.filled? expectedField with
  | some steps, some expected => some <$> cutSteps steps expected
  | _, _ => .ok none

/-- Those of the required fields that the test lacks, or that are blank in it. -/
def missing (record : Record) (required : List Text) : List Text :=
  required.filter fun name => (record.field? name).all isAllBlank

end Record

end Testbook
