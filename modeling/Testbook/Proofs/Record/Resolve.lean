import Testbook.Record.Scope

/-!
What holds for a test in nested scopes. A field other than the list of markers has the value of the
innermost scope that declares it, also when that value is empty (`get?_resolve`).
-/

namespace Testbook

open Testbook.Text

/-- What the innermost scope that declares a field says of it. -/
def declared? (scopes : List Scope) (name : Text) : Option Text :=
  scopes.reverse.findSome? fun scope => (documented? scope.doc).get? name

theorem get?_foldl_override (scopes : List Scope) (fields : Fields) (name : Text) :
    (scopes.foldl (fun fields scope => fields.override (documented? scope.doc)) fields).get? name
      = (declared? scopes name).or (fields.get? name) := by
  induction scopes generalizing fields with
  | nil => rfl
  | cons scope scopes ih =>
    have hlast : declared? (scope :: scopes) name
        = (declared? scopes name).or ((documented? scope.doc).get? name) := by
      rw [declared?, List.reverse_cons, List.findSome?_append, List.findSome?_singleton]
      rfl
    rw [List.foldl_cons, ih, Fields.get?_override, hlast, Option.or_assoc]

/-- Inner scopes override outer ones, field by field. -/
theorem get?_resolve (scopes : List Scope) (ignored : List Text) {name : Text}
    (h : name ≠ markersField) :
    (resolve scopes ignored).fields.get? name = declared? scopes name := by
  have hfields := get?_foldl_override scopes .empty name
  rw [Fields.get?_empty, Option.or_none] at hfields
  rw [resolve]
  split
  · rw [Fields.get?_insert, if_neg (Ne.symm h), hfields]
  · exact hfields

end Testbook
