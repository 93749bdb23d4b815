import Testbook.Text.Basic

/-!
Why a file cannot be read.
-/

namespace Testbook

open Testbook.Text

/-- Why a file cannot be read. -/
inductive ReadFault where
  | notText | missing | directory | notDirectory
  deriving DecidableEq, Repr

/-- What is said of a file that cannot be read. -/
def ReadFault.message : ReadFault → Text
  | .notText => "stream did not contain valid UTF-8"
  | .missing => "No such file or directory (os error 2)"
  | .directory => "Is a directory (os error 21)"
  | .notDirectory => "Not a directory (os error 20)"

end Testbook
