import Testbook.Collection.Basic
import Testbook.Registry.Apply

/-!
Requirements: what tests say that they verify. Each requirement is listed once, where it is first
named, with the tests that name it.
-/

namespace Testbook

open Testbook.Text

/-- A requirement, with the full names of the tests that verify it. -/
structure Requirement where
  title : Text
  fields : Table Text
  verifiedBy : List Text

/-- The name of the field that names a requirement. -/
def requirementField : Text := "requirement"

/-- The requirement that a test names, if it names one. -/
def Record.requirement? (record : Record) : Option Text :=
  ((record.field? requirementField).map trim).filter (!·.isEmpty)

/-- The requirements with a test noted for one of them; one that is not there comes last. -/
def noteTest (fields : Table Text) (title test : Text) : List Requirement → List Requirement
  | [] => [⟨title, fields, [test]⟩]
  | r :: rs =>
    if r.title = title then { r with verifiedBy := r.verifiedBy ++ [test] } :: rs
    else r :: noteTest fields title test rs

/-- The requirements that tests name. -/
def requirementsOf (registry : Registry) (records : List Record) : List Requirement :=
  records.foldl (fun found record =>
    match record.requirement? with
    | some title => noteTest (registry.applyRequirement .empty) title record.qualifiedId found
    | none => found) []

/-- What there is to say about finding requirements. -/
def requirementNotice (found : List Requirement) : Notice :=
  ⟨.debug, .requirement, "derived " ++ decimal found.length ++ " requirements"⟩

end Testbook
