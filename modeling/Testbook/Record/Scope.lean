import Testbook.Record.Documented
import Testbook.Record.Markers

/-!
The scopes that a test stands in, each with its documentation and annotations: its package, its
module, its class and the test itself. A field that an inner scope declares replaces the value
from the outer ones, even by an empty value; markers of all scopes add up.
-/

namespace Testbook

open Testbook.Text

/-- The kinds of scopes, from the outside in. -/
inductive ScopeKind where
  | package | module | testClass | function
  deriving DecidableEq, Repr

/-- What one scope says about the tests in it. -/
structure Scope where
  kind : ScopeKind
  doc : Option Text
  annotations : List Text
  deriving DecidableEq, Repr

/-- The name of the field that lists markers. -/
def markersField : Text := "markers"

/-- What holds for a test in nested scopes. -/
structure Resolved where
  fields : Fields
  markers : List Text

/-- The markers after those of one more scope: what its annotations name comes before what its
documentation lists. -/
def Scope.mark (markers : Markers) (scope : Scope) : Markers :=
  let named := markers.addAnnotations scope.annotations
  match (documented? scope.doc).get? markersField with
  | some listed => named.addListed listed
  | none => named

/-- What holds for a test in the given scopes, the outermost first. -/
def resolve (scopes : List Scope) (ignored : List Text) : Resolved :=
  let fields := scopes.foldl (fun fields scope => fields.override (documented? scope.doc)) .empty
  let markers := scopes.foldl Scope.mark { ignored := ignored }
  match markers.value? with
  | some value => ⟨fields.insert markersField value, markers.names⟩
  | none => ⟨fields, markers.names⟩

/-- What there is to say about reading the documentation of the scopes. -/
def resolveNotices (scopes : List Scope) : List Notice :=
  scopes.flatMap fun scope => documentedNotices? scope.doc

end Testbook
