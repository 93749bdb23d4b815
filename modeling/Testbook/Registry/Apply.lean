import Testbook.Registry.Basic

/-!
What a registry does to a test: fields that are absent get their default values, and then the
values are adjusted. Defaults see the test as it was before any of them, adjustments see it as it
is after all of them, so that the order in which rules were declared does not matter. Requirements
are treated alike, by rules of their own.
-/

namespace Testbook.Registry

open Testbook.Text

/-- The default value of a field for a test. -/
def defaultValue? (registry : Registry) (record : Record) (name : Text) : Option Text :=
  (registry.defaults.get? name).bind (·.value? registry.script record)

/-- The fields with the default value of one field, if it is absent and there is a default. -/
def fillField (registry : Registry) (record : Record) (fields : Fields) (name : Text) : Fields :=
  if fields.contains name then fields
  else match registry.defaultValue? record name with
    | some value => fields.insert name value
    | none => fields

/-- The fields of a test with all default values. -/
def fill (registry : Registry) (record : Record) : Fields :=
  registry.testNames.foldl (registry.fillField record) record.fields

/-- The fields with one of them adjusted, if it is present. -/
def adjustField (record : Record) (fields : Fields) (rule : Text × Adjustment) : Fields :=
  match fields.get? rule.1 with
  | some value => fields.insert rule.1 (rule.2 value record)
  | none => fields

/-- The fields of a test after all adjustments. -/
def adjust (registry : Registry) (record : Record) : Fields :=
  registry.adjustments.entries.foldl (adjustField record) record.fields

/-- A test with default values and all values adjusted. -/
def apply (registry : Registry) (record : Record) : Record :=
  let filled := { record with fields := registry.fill record }
  { filled with fields := registry.adjust filled }

/-- What there is to say about finding the default values for a test. -/
def applyNotices (registry : Registry) (record : Record) : List Notice :=
  registry.testNames.eraseDups.flatMap fun name =>
    if record.fields.contains name then []
    else match registry.defaults.get? name with
      | some source => source.notices record
      | none => []

/-- The fields of a requirement with the default value of one of them, if it is absent. -/
def fillRequirementField (registry : Registry) (fields : Table Text) (name : Text) : Table Text :=
  if fields.contains name then fields
  else match registry.requirementDefaults.get? name with
    | some value => fields.insert name value
    | none => fields

/-- The fields of a requirement with one of them transformed, if it is present. -/
def transformField (fields : Table Text) (rule : Text × Transform) : Table Text :=
  match fields.get? rule.1 with
  | some value => fields.insert rule.1 (rule.2.apply value)
  | none => fields

/-- The fields of a requirement with default values and all values transformed. -/
def applyRequirement (registry : Registry) (fields : Table Text) : Table Text :=
  registry.requirementTransforms.entries.foldl transformField
    (registry.requirementNames.foldl registry.fillRequirementField fields)

end Testbook.Registry
