import Testbook.Failure
import Testbook.Html.Render
import Testbook.Notice
import Testbook.Record.Fields
import Testbook.Text.Case

/-!
The fields that a documentation text declares. Every field list counts that does not stand in the
body of a field; names are lower-cased, and of several fields with one name the last counts. The
value of a field is the text of its body if that is a single paragraph, and otherwise its body as
HTML. A text that cannot be read declares nothing.
-/

namespace Testbook

open Testbook.Text Testbook.Markup Testbook.Html

/-- The value of a field with the given body. -/
def fieldValue : List Block → Text
  | [.paragraph text] => textContent text
  | body => renderBlocks .definitions false body

/-- The fields of a field list. -/
def declaredEntries (entries : List (Text × List Block)) : List (Text × Text) :=
  entries.map fun e => (lower e.1, fieldValue e.2)

mutual

/-- The fields that a block declares, in order. -/
def declaredIn : Block → List (Text × Text)
  | .fields entries => declaredEntries entries
  | .quote blocks => declarations blocks
  | .bullets items => itemDeclarations items
  | .numbered _ _ items => itemDeclarations items
  | .paragraph _ => []
  | .literal _ => []

/-- The fields that blocks declare, in order. -/
def declarations : List Block → List (Text × Text)
  | [] => []
  | block :: blocks => declaredIn block ++ declarations blocks

/-- The fields that the items of a list declare, in order. -/
def itemDeclarations : List (List Block) → List (Text × Text)
  | [] => []
  | item :: items => declarations item ++ itemDeclarations items

end

/-- The fields that a documentation text declares. -/
def documented (doc : Text) : Fields :=
  match parse doc with
  | .ok document => .ofList (declarations document.blocks)
  | .error _ => .empty

/-- The fields of a documentation that may be missing. -/
def documented? : Option Text → Fields
  | some doc => documented doc
  | none => .empty

/-- What there is to say about reading a documentation text. -/
def documentedNotices (doc : Text) : List Notice :=
  if doc.isEmpty then []
  else match parse doc with
    | .ok document => document.messages.map fun m =>
        ⟨.debug, .fields, "docstring line " ++ decimal m.line ++ ": " ++ m.problem.level.name ++ ": "
          ++ m.problem.message⟩
    | .error bad =>
      [⟨.warning, .fields, "ignoring fields of malformed docstring: " ++ (Failure.badMarkup bad).message⟩]

/-- What there is to say about reading a documentation that may be missing. -/
def documentedNotices? : Option Text → List Notice
  | some doc => documentedNotices doc
  | none => []

end Testbook
