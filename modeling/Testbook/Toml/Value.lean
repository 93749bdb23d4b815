import Testbook.Text.Basic

/-!
Values of configuration texts in TOML.
-/

namespace Testbook.Toml

/-- A value. The entries of a table have different keys. -/
inductive Value where
  | string (text : Text)
  | integer (value : Int)
  | float (numeral : Text)
  | boolean (value : Bool)
  /-- a date, a time of day, or both, as written -/
  | datetime (source : Text)
  | array (items : List Value)
  | table (entries : List (Text × Value))

/-- What a kind of value is called. -/
def Value.kind : Value → Text
  | .string _ => "string"
  | .integer _ => "integer"
  | .float _ => "float"
  | .boolean _ => "boolean"
  | .datetime _ => "datetime"
  | .array _ => "array"
  | .table _ => "table"

/-- The text of a string. -/
def Value.text? : Value → Option Text
  | .string text => some text
  | _ => none

/-- The texts of an array of strings. -/
def Value.texts? : Value → Option (List Text)
  | .array items => items.mapM Value.text?
  | _ => none

/-- The value of a key in a list of entries. -/
def lookup? (key : Text) : List (Text × Value) → Option Value
  | [] => none
  | (k, value) :: entries => if k = key then some value else lookup? key entries

end Testbook.Toml
