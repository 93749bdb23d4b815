import Testbook.Text.Basic

/-!
Paths with slashes. A path is a text and keeps its spelling when it is shown; what it leads to is
decided by its components, in which repeated slashes and inner dots do not appear. A path lies
under another one when the other's components come first in its own.
-/

namespace Testbook

open Testbook.Text

/-- A path as it is spelled. -/
abbrev Path := Text

/-- A component of a path. -/
inductive Component where
  | root | current | parent
  | name (text : Text)
  deriving DecidableEq, Repr

/-- How a component is spelled. -/
def Component.text : Component → Text
  | .root => "/"
  | .current => "."
  | .parent => ".."
  | .name text => text

/-- The name that a component holds. -/
def Component.name? : Component → Option Text
  | .name text => some text
  | _ => none

namespace Path

/-- Whether a piece between slashes is no component: it is empty or a dot. -/
def isIdle (segment : Text) : Bool := segment.isEmpty || segment = ['.']

/-- The component that a piece between slashes stands for. -/
def componentOf? (segment : Text) : Option Component :=
  if isIdle segment then none
  else if segment = ['.', '.'] then some .parent
  else some (.name segment)

/-- The head of a path, a slash or a lone dot, and the text behind it. -/
def splitHead : Path → Option Component × Text
  | '/' :: rest => (some .root, rest)
  | ['.'] => (some .current, [])
  | '.' :: '/' :: rest => (some .current, '/' :: rest)
  | path => (none, path)

/-- The components of a path. A dot is one only at the start. -/
def components (path : Path) : List Component :=
  let (head, body) := splitHead path
  head.toList ++ (splitOn '/' body).filterMap componentOf?

/-- The path with the given components. -/
def ofComponents : List Component → Path
  | .root :: rest => '/' :: join ['/'] (rest.map Component.text)
  | components => join ['/'] (components.map Component.text)

/-- The path without dots, except for the path that is a dot. -/
def normalize (path : Path) : Path :=
  let kept := (components path).filter (· != .current)
  if kept.isEmpty then ['.'] else ofComponents kept

/-- Whether the components of `path` start with those of `base`. -/
def isUnder (base path : Path) : Bool := (components base).isPrefixOf (components path)

/-- The components of `path` behind those of `base`, if it lies under it. -/
def behind? (base path : Path) : Option (List Component) :=
  if isUnder base path then some ((components path).drop (components base).length) else none

/-- A path continued by a name. -/
def extend (path : Path) (name : Text) : Path :=
  if path.isEmpty then name
  else if path.getLast? = some '/' then path ++ name
  else path ++ '/' :: name

/-- Pieces between slashes without idle ones at their end. -/
def dropIdleEnd (segments : List Text) : List Text := (segments.reverse.dropWhile isIdle).reverse

/-- The path without its last component, spelled as before; none if there is none or only a
root. -/
def parent? (path : Path) : Option Path :=
  let (head, body) := splitHead path
  match dropIdleEnd (splitOn '/' body) with
  | [] => if head = some .current then some [] else none
  | segments =>
    some ((head.map Component.text).getD [] ++ join ['/'] (dropIdleEnd segments.dropLast))

/-- The name that a path ends with. -/
def fileName? (path : Path) : Option Text := (components path).getLast?.bind Component.name?

/-- The dotted name of the module in a file: the names of the path from below `base` on, if it lies
under it, without the ending of source files. -/
def modulePath (path : Path) (base : Option Path) : Text :=
  let inner := (base.bind (behind? · path)).getD (components path)
  let names := inner.filterMap Component.name?
  let names := match names.getLast? with
    | some last => names.dropLast ++ [(dropEnd? ".py" last).getD last]
    | none => []
  join "." names

end Path

end Testbook
