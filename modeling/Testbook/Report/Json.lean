import Testbook.Text.Basic

/-!
JSON documents and how they are written: objects and arrays with entries take a line for each
entry, indented by two spaces for each level; empty ones stay on their line.
-/

namespace Testbook

open Testbook.Text

/-- A JSON document. Its numbers are counts, and its objects keep the order of their entries. -/
inductive JsonValue where
  | text (text : Text)
  | number (value : Nat)
  | boolean (value : Bool)
  | array (items : List JsonValue)
  | object (entries : List (Text × JsonValue))

namespace JsonValue

/-- A character within quotes. Control characters below the space are escaped, and so are quotes
and backslashes. -/
def escapeChar (c : Char) : Text :=
  if c = '"' then "\\\""
  else if c = '\\' then "\\\\"
  else if c = '\n' then "\\n"
  else if c = '\r' then "\\r"
  else if c = '\t' then "\\t"
  else if c = '\x08' then "\\b"
  else if c = '\x0c' then "\\f"
  else if c < ' ' then "\\u" ++ hexLower 4 c.toNat
  else [c]

/-- A text in quotes. -/
def quote (text : Text) : Text := '"' :: text.flatMap escapeChar ++ ['"']

/-- A line end and the indentation of a level. -/
def newLine (level : Nat) : Text := '\n' :: List.replicate (2 * level) ' '

/-- Written entries between brackets. -/
def bracketed (level : Nat) (opening closing : Char) (entries : List Text) : Text :=
  if entries.isEmpty then [opening, closing]
  else opening :: newLine (level + 1) ++ join (',' :: newLine (level + 1)) entries
    ++ newLine level ++ [closing]

mutual

/-- A document as it is written at a level of indentation. -/
def write (level : Nat) : JsonValue → Text
  | text t => quote t
  | number n => decimal n
  | boolean b => if b then "true" else "false"
  | array items => bracketed level '[' ']' (writeItems (level + 1) items)
  | object entries => bracketed level '{' '}' (writeEntries (level + 1) entries)

/-- The items of an array as they are written. -/
def writeItems (level : Nat) : List JsonValue → List Text
  | [] => []
  | item :: items => item.write level :: writeItems level items

/-- The entries of an object as they are written. -/
def writeEntries (level : Nat) : List (Text × JsonValue) → List Text
  | [] => []
  | (key, value) :: entries =>
    (quote key ++ ": " ++ value.write level) :: writeEntries level entries

end

/-- A list of texts as a document. -/
def texts (items : List Text) : JsonValue := array (items.map text)

/-- Texts by name as a document. -/
def textEntries (entries : List (Text × Text)) : JsonValue :=
  object (entries.map fun e => (e.1, text e.2))

/-- An entry that is left out if there is nothing for it. -/
def entry? {α : Type} (key : Text) (toJson : α → JsonValue) (value : Option α) :
    List (Text × JsonValue) :=
  value.toList.map fun a => (key, toJson a)

end JsonValue

end Testbook
