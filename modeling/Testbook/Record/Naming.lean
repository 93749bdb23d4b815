import Testbook.Text.Basic

/-!
Which files hold tests and which functions are tests: their names say so.
-/

namespace Testbook

open Testbook.Text

/-- Whether a file of the name holds tests. -/
def isTestModule (name : Text) : Bool :=
  match dropEnd? ".py" name with
  | some stem => (dropStart? "test_" stem).isSome || (dropEnd? "_test" stem).isSome
  | none => false

/-- Whether a function of the name is a test. -/
def isTestName (name : Text) : Bool := (dropStart? "test_" name).isSome

end Testbook
