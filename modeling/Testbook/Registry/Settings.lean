import Testbook.Registry.Builtin
import Testbook.Toml.Document

/-!
Registries from configuration texts. Each key at the top of a configuration is a setting and makes
one declaration (`Setting.declaration`). An unknown key with a lower-case letter in it is left to
others; any other unknown key is a mistake. Settings are read in the order of their keys, and the
first mistake counts.
-/

namespace Testbook

open Testbook.Text Testbook.Toml

/-- What a key sets. -/
inductive Setting where
  | testFields | customFields | requirementFields | requirementCustomFields | ignoredMarkers
  | requiredFields | scriptFormat
  | default (field : Text)
  | transform (field : Text)
  | requirementDefault (field : Text)
  | requirementTransform (field : Text)
  | foreign
  deriving DecidableEq, Repr

/-- The field between a start of keys and the ending that goes with it, unless it is empty. -/
def fieldBehind? (start key : Text) : Option Text :=
  ((dropStart? start key).bind (dropEnd? "_VALUE")).filter (!·.isEmpty)

namespace Setting

/-- The settings with keys of their own. -/
def named : List (Text × Setting) := [
  ("TESTCASE_FIELDS", testFields),
  ("TESTCASE_CUSTOM_FIELDS", customFields),
  ("REQUIREMENT_FIELDS", requirementFields),
  ("REQUIREMENT_CUSTOM_FIELDS", requirementCustomFields),
  ("MARKERS_IGNORE_LIST", ignoredMarkers),
  ("REQUIRED_FIELDS", requiredFields),
  ("AUTOMATION_SCRIPT_FORMAT", scriptFormat)]

/-- The setting that a key with a field in it makes. What begins with the name of a requirement is
no field of a test. -/
def ofConvention? (key : Text) : Option Setting :=
  ((fieldBehind? "DEFAULT_REQUIREMENT_" key).map requirementDefault)
    <|> (fieldBehind? "TRANSFORM_REQUIREMENT_" key).map requirementTransform
    <|> (fieldBehind? "DEFAULT_" key).map default
    <|> (fieldBehind? "TRANSFORM_" key).map transform

/-- What a key sets, if it sets anything. -/
def ofKey? (key : Text) : Option Setting :=
  (named.lookup key) <|> ofConvention? key
    <|> if key.any Char.isLower then some foreign else none

end Setting

/-- The transform that a value names: by a string, or by a table whose only key is the name and
whose value is empty. -/
def transformOf : Value → Except TransformProblem Transform
  | .string name => match Transform.ofLabel? name with
    | some transform => .ok transform
    | none => .error (.unknown name)
  | .table [] => .error .noEntry
  | .table [(name, argument)] => match Transform.ofLabel? name, argument with
    | none, _ => .error (.unknown name)
    | some transform, .array [] => .ok transform
    | some _, .array _ => .error .fullArray
    | some transform, .table [] => .ok transform
    | some _, .table _ => .error .fullTable
    | some _, value => .error (.argument value.kind)
  | .table _ => .error .manyEntries
  | _ => .error .notName

/-- Where a value says that a default comes from: it is the default itself, or a table that names
a provider. -/
def defaultOf? : Value → Option Default
  | .string value => some (.constant value)
  | .table entries =>
    (lookup? "computed" entries).bind Value.text? |>.bind Provider.ofLabel? |>.map .provided
  | _ => none

/-- A value that must be there. -/
def orProblem {α : Type} (problem : SettingProblem) : Option α → Except SettingProblem α
  | some a => .ok a
  | none => .error problem

/-- The declaration that a setting with a value makes; a foreign key makes none. -/
def Setting.declaration (value : Value) : Setting → Except SettingProblem (Option Declaration)
  | testFields => return some (.testFields (← orProblem .notTexts value.texts?))
  | customFields => return some (.customFields (← orProblem .notTexts value.texts?))
  | requirementFields => return some (.requirementFields (← orProblem .notTexts value.texts?))
  | requirementCustomFields =>
    return some (.requirementCustomFields (← orProblem .notTexts value.texts?))
  | ignoredMarkers => return some (.ignoredMarkers (← orProblem .notTexts value.texts?))
  | requiredFields => return some (.requiredFields (← orProblem .notTexts value.texts?))
  | scriptFormat => return some (.scriptFormat (← orProblem .notText value.text?))
  | default field => return some (.default field (← orProblem .defaultSource (defaultOf? value)))
  | transform field =>
    return some (.adjustment field (← (transformOf value).mapError .transform).adjustment)
  | requirementDefault field =>
    return some (.requirementDefault field (← orProblem .requirementDefault value.text?))
  | requirementTransform field =>
    return some (.requirementTransform field (← (transformOf value).mapError .transform))
  | foreign => .ok none

/-- The declaration that an entry of a configuration makes, if it makes one. -/
def declarationOf (entry : Text × Value) : Except ConfigurationProblem (Option Declaration) :=
  ((orProblem .unrecognized (Setting.ofKey? entry.1)).bind (Setting.declaration entry.2)).mapError
    (.setting entry.1)

/-- The registry of the entries of a configuration. -/
def Registry.ofSettings (entries : List (Text × Value)) : Except ConfigurationProblem Registry :=
  return .ofDeclarations ((← entries.mapM declarationOf).filterMap id)

/-- The registry of a configuration text, with nothing in it but what the text says. -/
def Registry.ofToml (text : Text) : Except ConfigurationProblem Registry :=
  match parse text with
  | some entries => Registry.ofSettings entries
  | none => .error .notToml

/-- What there is to say about reading entries: the foreign keys up to the first mistake. -/
def settingNotices : List (Text × Value) → List Notice
  | [] => []
  | entry :: entries => match declarationOf entry with
    | .error _ => []
    | .ok (some _) => settingNotices entries
    | .ok none => ⟨.debug, .registry, "ignoring configuration key " ++ entry.1⟩ :: settingNotices entries

/-- What there is to say about reading a configuration text. -/
def tomlNotices (text : Text) : List Notice := settingNotices ((parse text).getD [])

end Testbook
