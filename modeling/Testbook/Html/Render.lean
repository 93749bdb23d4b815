import Testbook.Markup.Parse
import Testbook.Markup.Inline

/-!
Documents as HTML. All constructs are rendered one way except field lists, whose tags come from a
`FieldStyle`: a definition list, or a table with one row per field. Text reaches the output only
through `escape`, so it can never form a tag.
-/

namespace Testbook.Html

open Testbook.Text Testbook.Markup

/-- A character in element content and attribute values. -/
def escapeChar : Char → Text
  | '&' => "&amp;"
  | '<' => "&lt;"
  | '>' => "&gt;"
  | '"' => "&quot;"
  | '@' => "&#64;"
  | c => [c]

/-- Text in element content and attribute values. -/
def escape (text : Text) : Text := text.flatMap escapeChar

/-- The tags of a field list: `opening` carries the class, `bodyOpening` is told whether the body
is empty. -/
structure FieldStyle where
  opening : Text
  closing : Text
  nameOpening : Text
  nameClosing : Text
  bodyOpening : Text
  emptyBody : Text
  bodyClosing : Text
  entryClosing : Text

/-- Field lists as definition lists. -/
def FieldStyle.definitions : FieldStyle where
  opening := "<dl class=\"field-list"
  closing := "</dl>\n"
  nameOpening := "<dt>"
  nameClosing := "<span class=\"colon\">:</span></dt>\n"
  bodyOpening := "<dd>"
  emptyBody := []
  bodyClosing := "</dd>\n"
  entryClosing := []

/-- Field lists as tables. An empty body holds an empty paragraph, which keeps the row's height. -/
def FieldStyle.table : FieldStyle where
  opening := "<table class=\"field-list"
  closing := "</table>\n"
  nameOpening := "<tr><th>"
  nameClosing := "</th>\n"
  bodyOpening := "<td>"
  emptyBody := "<p></p>"
  bodyClosing := "</td>\n"
  entryClosing := "</tr>\n"

/-- A piece of paragraph text. -/
def renderPiece : Inline → Text
  | .text s => escape s
  | .strong s => "<strong>" ++ escape s ++ "</strong>"
  | .emphasis s => "<em>" ++ escape s ++ "</em>"
  | .literal s => "<span class=\"docutils literal\">" ++ escape s ++ "</span>"
  | .role _ s => "<span class=\"docutils literal\">" ++ escape s ++ "</span>"

/-- Paragraph text with its inline markup. -/
def renderInline (text : Text) : Text := (parseInline text).flatMap renderPiece

/-- Whether a list item is empty or a single paragraph. -/
def isSimpleItem : List Block → Bool
  | [] => true
  | [.paragraph _] => true
  | _ => false

/-- The class that a simple list has beside its own, and the quote that ends the attribute. -/
def classEnd (simple : Bool) : Text := if simple then " simple\"" else "\""

/-- The attribute that says where a list starts, when that is not at one. -/
def startAttribute (start : Nat) : Text :=
  if start = 1 then [] else " start=\"" ++ decimal start ++ "\""

/-- The tag that opens an enumerated list. -/
def numberedOpening (numbering : Numbering) (start : Nat) (simple : Bool) : Text :=
  "<ol class=\"" ++ numbering.name ++ classEnd simple ++ startAttribute start ++ ">\n"

mutual

/-- A block; `compact` leaves out the line feed behind a paragraph. -/
def renderBlock (style : FieldStyle) (compact : Bool) : Block → Text
  | .paragraph text => "<p>" ++ renderInline text ++ "</p>" ++ if compact then [] else ['\n']
  | .bullets items =>
    let simple := items.all isSimpleItem
    (if simple then "<ul class=\"simple\">\n" else "<ul>\n") ++ renderItems style simple items
      ++ "</ul>\n"
  | .numbered numbering start items =>
    let simple := items.all isSimpleItem
    numberedOpening numbering start simple ++ renderItems style simple items ++ "</ol>\n"
  | .fields entries =>
    style.opening ++ classEnd (entries.all (·.2.length ≤ 1)) ++ ">\n"
      ++ renderEntries style entries ++ style.closing
  | .quote blocks => "<blockquote>\n" ++ renderBlocks style false blocks ++ "</blockquote>\n"
  | .literal text => "<pre class=\"literal-block\">" ++ escape text ++ "</pre>\n"

/-- A sequence of blocks, with nothing around it. -/
def renderBlocks (style : FieldStyle) (compact : Bool) : List Block → Text
  | [] => []
  | block :: blocks => renderBlock style compact block ++ renderBlocks style compact blocks

/-- The items of a list. -/
def renderItems (style : FieldStyle) (compact : Bool) : List (List Block) → Text
  | [] => []
  | item :: items =>
    "<li>" ++ renderBlocks style compact item ++ "</li>\n" ++ renderItems style compact items

/-- The entries of a field list. -/
def renderEntries (style : FieldStyle) : List (Text × List Block) → Text
  | [] => []
  | (name, body) :: entries =>
    style.nameOpening ++ escape name ++ style.nameClosing
      ++ style.bodyOpening ++ (if body.isEmpty then style.emptyBody else [])
      ++ renderBlocks style false body ++ style.bodyClosing ++ style.entryClosing
      ++ renderEntries style entries

end

/-- Rendered blocks within the element that holds a document. -/
def wrapDocument (inner : Text) : Text :=
  "<div class=\"document\">\n" ++ inner ++ "</div>\n"

/-- A whole document. -/
def renderDocument (style : FieldStyle) (document : Document) : Text :=
  wrapDocument (renderBlocks style false document.blocks)

/-- HTML, and the messages that reading its source gave rise to. -/
structure Rendered where
  html : Text
  messages : List Message

/-- Reads and renders a text. Nothing is made of an empty text; one that cannot be read becomes a
single paragraph, with a severe message. -/
def renderText (style : FieldStyle) (text : Text) : Rendered :=
  if text.isEmpty then ⟨[], []⟩
  else match parse text with
    | .ok document => ⟨renderDocument style document, document.messages⟩
    | .error bad =>
      ⟨wrapDocument ("<p>" ++ escape text ++ "</p>\n"), [⟨bad.line, .unreadable bad.message⟩]⟩

end Testbook.Html
