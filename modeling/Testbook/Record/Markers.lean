import Testbook.Text.Alphabet
import Testbook.Text.Blank

/-!
Markers: names that annotations give to tests, and that a documentation may list as well. They
gather in a set that remembers the order in which they came and refuses those to be ignored.
-/

namespace Testbook

open Testbook.Text

/-- Whether a marker may begin with a character. -/
def isMarkerStart (c : Char) : Bool := c.isAlpha || c = '_'

/-- The marker that an annotation names: the word behind `mark.`, before which the name of the
test runner may stand. -/
def markerName? (source : Text) : Option Text :=
  let text := (dropStart? "pytest." source).getD source
  match dropStart? "mark." text with
  | some (c :: cs) => if isMarkerStart c then some (c :: cs.takeWhile isWordChar) else none
  | _ => none

/-- The markers that a list with commas names. -/
def listedMarkers (value : Text) : List Text :=
  ((splitOn ',' value).map trim).filter (!·.isEmpty)

/-- The markers that are ignored unless something else is asked for. -/
def defaultIgnored : List Text := ["parametrize", "skipif", "usefixtures"]

/-- Markers in the order in which they came, without repetition, and those never to be taken. -/
structure Markers where
  ignored : List Text
  names : List Text := []
  deriving DecidableEq, Repr

namespace Markers

/-- Adds a marker unless it is ignored or there already. -/
def add (markers : Markers) (name : Text) : Markers :=
  if markers.ignored.contains name || markers.names.contains name then markers
  else { markers with names := markers.names ++ [name] }

/-- Adds markers one after the other. -/
def addAll (markers : Markers) (names : List Text) : Markers := names.foldl add markers

/-- Adds the markers that annotations name. -/
def addAnnotations (markers : Markers) (annotations : List Text) : Markers :=
  markers.addAll (annotations.filterMap markerName?)

/-- Adds the markers that a documentation lists. -/
def addListed (markers : Markers) (value : Text) : Markers := markers.addAll (listedMarkers value)

/-- The markers as the value of a field, if there are any. -/
def value? (markers : Markers) : Option Text :=
  if markers.names.isEmpty then none else some (join ", " markers.names)

end Markers

end Testbook
