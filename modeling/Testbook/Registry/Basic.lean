import Testbook.Registry.Rule
import Testbook.Registry.Table

/-!
Registries: which fields tests and requirements have, which of them are required, which markers
do not count, and the rules for single fields. A registry comes about by declarations, each of
which sets one thing; laid over another registry, it replaces what it declares and leaves the rest.
-/

namespace Testbook

open Testbook.Text

/-- Declared fields and rules. A list that is not declared is different from an empty one. -/
structure Registry where
  testFields : Option (List Text) := none
  customFields : Option (List Text) := none
  requirementFields : Option (List Text) := none
  requirementCustomFields : Option (List Text) := none
  ignoredMarkers : Option (List Text) := none
  requiredFields : Option (List Text) := none
  scriptFormat : Option Text := none
  defaults : Table Default := .empty
  adjustments : Table Adjustment := .empty
  requirementDefaults : Table Text := .empty
  requirementTransforms : Table Transform := .empty

/-- One thing that a registry says. -/
inductive Declaration where
  | testFields (names : List Text)
  | customFields (names : List Text)
  | requirementFields (names : List Text)
  | requirementCustomFields (names : List Text)
  | ignoredMarkers (names : List Text)
  | requiredFields (names : List Text)
  | scriptFormat (format : Text)
  | default (field : Text) (source : Default)
  | adjustment (field : Text) (adjustment : Adjustment)
  | requirementDefault (field value : Text)
  | requirementTransform (field : Text) (transform : Transform)

/-- How a test's place is written in its script field unless something else is asked for. -/
def defaultScriptFormat : Text := placeholder "path" ++ "#" ++ placeholder "line_number"

namespace Registry

/-- The registry that declares nothing. -/
def empty : Registry := {}

/-- The registry with one more declaration. Names of fields become lower-case, those of markers
stay as they are. -/
def declare (registry : Registry) : Declaration → Registry
  | .testFields names => { registry with testFields := some (names.map lower) }
  | .customFields names => { registry with customFields := some (names.map lower) }
  | .requirementFields names => { registry with requirementFields := some (names.map lower) }
  | .requirementCustomFields names =>
    { registry with requirementCustomFields := some (names.map lower) }
  | .ignoredMarkers names => { registry with ignoredMarkers := some names }
  | .requiredFields names => { registry with requiredFields := some (names.map lower) }
  | .scriptFormat format => { registry with scriptFormat := some format }
  | .default field source =>
    { registry with defaults := registry.defaults.insert (lower field) source }
  | .adjustment field adjustment =>
    { registry with adjustments := registry.adjustments.insert (lower field) adjustment }
  | .requirementDefault field value =>
    { registry with
      requirementDefaults := registry.requirementDefaults.insert (lower field) value }
  | .requirementTransform field transform =>
    { registry with
      requirementTransforms := registry.requirementTransforms.insert (lower field) transform }

/-- The registry with several declarations, one after the other. -/
def declareAll (registry : Registry) (declarations : List Declaration) : Registry :=
  declarations.foldl declare registry

/-- The registry that makes the given declarations. -/
def ofDeclarations (declarations : List Declaration) : Registry := empty.declareAll declarations

/-- A registry laid over another one. -/
def layer (base upper : Registry) : Registry where
  testFields := upper.testFields.or base.testFields
  customFields := upper.customFields.or base.customFields
  requirementFields := upper.requirementFields.or base.requirementFields
  requirementCustomFields := upper.requirementCustomFields.or base.requirementCustomFields
  ignoredMarkers := upper.ignoredMarkers.or base.ignoredMarkers
  requiredFields := upper.requiredFields.or base.requiredFields
  scriptFormat := upper.scriptFormat.or base.scriptFormat
  defaults := base.defaults.overlay upper.defaults
  adjustments := base.adjustments.overlay upper.adjustments
  requirementDefaults := base.requirementDefaults.overlay upper.requirementDefaults
  requirementTransforms := base.requirementTransforms.overlay upper.requirementTransforms

/-- The fields that tests have. -/
def testNames (registry : Registry) : List Text :=
  registry.testFields.getD [] ++ registry.customFields.getD []

/-- The fields that requirements have. -/
def requirementNames (registry : Registry) : List Text :=
  registry.requirementFields.getD [] ++ registry.requirementCustomFields.getD []

/-- The markers that do not count. -/
def ignored (registry : Registry) : List Text := registry.ignoredMarkers.getD []

/-- The fields that a test must have. -/
def required (registry : Registry) : List Text := registry.requiredFields.getD []

/-- How a test's place is written. -/
def script (registry : Registry) : Text := registry.scriptFormat.getD defaultScriptFormat

/-- Where the default of a field comes from. -/
def default? (registry : Registry) (field : Text) : Option Default :=
  registry.defaults.get? (lower field)

/-- Whether the values of a field are adjusted. -/
def isAdjusted (registry : Registry) (field : Text) : Bool :=
  registry.adjustments.contains (lower field)

/-- Whether tests have a field. -/
def isTestField (registry : Registry) (field : Text) : Bool :=
  registry.testNames.contains (lower field)

end Registry

end Testbook
