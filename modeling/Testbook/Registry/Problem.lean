import Testbook.ReadFault

/-!
What can be wrong with a configuration: the file cannot be read, its text is not TOML, or one of
its settings has a value that means nothing.
-/

namespace Testbook

open Testbook.Text

/-- What is wrong with the name of a transform. -/
inductive TransformProblem where
  | unknown (name : Text)
  /-- neither a string nor a table -/
  | notName
  /-- a table without entries -/
  | noEntry
  /-- a table with several entries -/
  | manyEntries
  /-- a table whose only entry names a transform and has more to it -/
  | fullArray
  | fullTable
  | argument (kind : Text)
  deriving DecidableEq, Repr

/-- A name as it is quoted in messages. -/
def quoted (name : Text) : Text := '\x60' :: name ++ ['\x60']

/-- What is said of a wrong name of a transform. It ends with a line end. -/
def TransformProblem.message : TransformProblem → Text
  | unknown name =>
    "unknown variant " ++ quoted name ++ ", expected one of " ++ quoted "lower" ++ ", "
      ++ quoted "upper" ++ ", " ++ quoted "strip" ++ ", " ++ quoted "identity" ++ "\n"
  | notName => "invalid type: unit variant, expected string only\n"
  | noEntry => "wanted exactly 1 element, found 0 elements\n"
  | manyEntries => "wanted exactly 1 element, more than 1 element\n"
  | fullArray => "expected empty array\n"
  | fullTable => "expected empty table\n"
  | argument kind => "expected table, found " ++ kind ++ "\n"

/-- What is wrong with a setting. -/
inductive SettingProblem where
  | notTexts | notText | requirementDefault | defaultSource
  | transform (problem : TransformProblem)
  | unrecognized
  deriving DecidableEq, Repr

/-- What is said of a wrong setting. -/
def SettingProblem.message : SettingProblem → Text
  | notTexts => "expected an array of strings"
  | notText => "expected a string"
  | requirementDefault => "requirement defaults must be strings"
  | defaultSource =>
    "expected a string or a table like " ++ '{' :: " computed = \"name\" " ++ '}'
      :: " naming one of name, qualified-id, description, case-posneg, automation-script, module-path"
  | transform problem => problem.message
  | unrecognized => "unrecognized setting"

/-- What is wrong with a configuration. -/
inductive ConfigurationProblem where
  | unreadable (fault : ReadFault)
  | notToml
  | setting (key : Text) (problem : SettingProblem)
  deriving DecidableEq, Repr

/-- What is said of a wrong configuration. -/
def ConfigurationProblem.message : ConfigurationProblem → Text
  | unreadable fault => "cannot read file: " ++ fault.message
  | notToml => "invalid TOML"
  | setting key problem => key ++ ": " ++ problem.message

end Testbook
