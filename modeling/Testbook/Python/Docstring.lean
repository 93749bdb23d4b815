import Testbook.Text.Blank

/-!
Documentation strings as they are meant to be read: the indentation that the source code puts in
front of their lines is removed, and empty lines at both ends are dropped. The first line stands
behind the opening quotes, so it loses all blanks in front and does not count for the margin.
-/

namespace Testbook.Python

open Testbook.Text

/-- The number of blank characters in front of a line. -/
def blanksInFront (line : Text) : Nat := (line.takeWhile isBlank).length

/-- The least number of blanks in front of a line that is not blank, zero if there is none. -/
def commonMargin (lines : List Text) : Nat :=
  ((lines.filter (!isAllBlank ·)).map blanksInFront).min?.getD 0

/-- The lines without empty ones at both ends. -/
def dropEmptyEnds (lines : List Text) : List Text :=
  ((lines.dropWhile List.isEmpty).reverse.dropWhile List.isEmpty).reverse

/-- The lines of a documentation string moved to the margin. -/
def marginLines (doc : Text) : List Text :=
  match (splitOn '\n' doc).map (expandTabs 0) with
  | [] => []
  | first :: rest => trimStart first :: rest.map (List.drop (commonMargin rest))

/-- A documentation string without the indentation of the code around it. -/
def cleanDoc (doc : Text) : Text := join ['\n'] (dropEmptyEnds (marginLines doc))

end Testbook.Python
