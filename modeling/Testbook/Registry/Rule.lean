import Testbook.Html.Render
import Testbook.Notice
import Testbook.Failure
import Testbook.Record.Basic

/-!
Rules for single fields: where the default value of a field comes from, and how a value is
adjusted. Some of them have names, by which a configuration chooses them; others are functions.
-/

namespace Testbook

open Testbook.Text Testbook.Html

/-- What a default value can be read off a test. -/
inductive Provider where
  | name | qualifiedId | description | casePosneg | automationScript | modulePath
  deriving DecidableEq, Repr

/-- All providers. -/
def Provider.all : List Provider :=
  [name, qualifiedId, description, casePosneg, automationScript, modulePath]

/-- What a provider is called. -/
def Provider.label : Provider → Text
  | name => "name"
  | qualifiedId => "qualified-id"
  | description => "description"
  | casePosneg => "case-posneg"
  | automationScript => "automation-script"
  | modulePath => "module-path"

/-- The provider of a name. -/
def Provider.ofLabel? (label : Text) : Option Provider := all.find? (·.label = label)

/-- A name as it stands in a script format. -/
def placeholder (name : Text) : Text := '{' :: name ++ ['}']

/-- A script format filled in for a test: one placeholder after the other is replaced, also where
an earlier value has brought it in. -/
def fillScript (format : Text) (record : Record) : Text :=
  let format := replace (placeholder "path") record.location.path format
  let format := replace (placeholder "line_number") (decimal record.location.line) format
  let format := replace (placeholder "qualified_id") record.qualifiedId format
  replace (placeholder "name") record.name format

/-- What a provider reads off a test. -/
def Provider.value (scriptFormat : Text) (record : Record) : Provider → Text
  | name => record.name
  | qualifiedId => record.qualifiedId
  | description => (renderText .definitions (record.doc.getD [])).html
  | casePosneg => if hasPart "negative" (lower record.name) then "negative" else "positive"
  | automationScript => fillScript scriptFormat record
  | modulePath => record.modulePath

/-- What there is to say about a reading. -/
def Provider.notices (record : Record) : Provider → List Notice
  | description =>
    match record.doc with
    | none => []
    | some doc => match Markup.parse doc with
      | .ok _ => []
      | .error bad =>
        [⟨.warning, .html, "rendering unparseable text verbatim: " ++ (Failure.badMarkup bad).message⟩]
  | _ => []

/-- Where the default value of a field comes from. -/
inductive Default where
  | constant (value : Text)
  | provided (provider : Provider)
  | computed (compute : Record → Option Text)

/-- The default value for a test. -/
def Default.value? (scriptFormat : Text) (record : Record) : Default → Option Text
  | constant value => some value
  | provided provider => some (provider.value scriptFormat record)
  | computed compute => compute record

/-- What there is to say about finding a default value. -/
def Default.notices (record : Record) : Default → List Notice
  | provided provider => provider.notices record
  | _ => []

/-- The adjustments that have names. -/
inductive Transform where
  | lower | upper | strip | identity
  deriving DecidableEq, Repr

/-- All transforms. -/
def Transform.all : List Transform := [lower, upper, strip, identity]

/-- What a transform is called. -/
def Transform.label : Transform → Text
  | lower => "lower"
  | upper => "upper"
  | strip => "strip"
  | identity => "identity"

/-- The transform of a name. -/
def Transform.ofLabel? (label : Text) : Option Transform := all.find? (·.label = label)

/-- What a transform makes of a value. -/
def Transform.apply : Transform → Text → Text
  | lower, value => Text.lower value
  | upper, value => Text.upper value
  | strip, value => trim value
  | identity, value => value

/-- A function that adjusts a value of a test. -/
abbrev Adjustment := Text → Record → Text

/-- A transform as an adjustment, which does not look at the test. -/
def Transform.adjustment (t : Transform) : Adjustment := fun value _ => t.apply value

end Testbook
