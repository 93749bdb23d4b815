import Testbook.Html.Render

/-!
Trees of elements, and rendered documents as such trees. A tree is written with one start tag and
one end tag for each element, and with entities in place of the special characters of its texts, so
that nesting and escaping hold by construction. Rendering a block is writing the tree of the block
(`renderBlocks_eq`), whatever the tags of field lists; `Draws` says when a way to lay out fields as
a tree fits the tags that a style has for them.
-/

namespace Testbook.Html

open Testbook.Text Testbook.Markup

/-! ### Trees -/

/-- What a start tag says: the name of its element, and attributes with their values. -/
structure Tag where
  name : Text
  attributes : List (Text × Text)
  deriving DecidableEq, Repr

/-- An attribute as it is written. -/
def writeAttribute (a : Text × Text) : Text := ' ' :: a.1 ++ ['=', '"'] ++ a.2 ++ ['"']

/-- What stands between the brackets of a start tag. -/
def Tag.inside (tag : Tag) : Text := tag.name ++ tag.attributes.flatMap writeAttribute

/-- The start tag of an element. -/
def Tag.opening (tag : Tag) : Text := '<' :: tag.inside ++ ['>']

/-- The end tag of an element. -/
def Tag.closing (tag : Tag) : Text := '<' :: '/' :: tag.name ++ ['>']

/-- The characters that do not stand for themselves in a text, with their entities. -/
def entity? : Char → Option Text
  | '&' => some "&amp;"
  | '<' => some "&lt;"
  | '>' => some "&gt;"
  | '"' => some "&quot;"
  | '@' => some "&#64;"
  | _ => none

/-- A piece of markup: a text, or an element with what is in it. -/
inductive Node where
  | text (content : Text)
  | element (tag : Tag) (children : List Node)

/-- A text as it is written between tags. -/
def writeText (text : Text) : Text := text.flatMap fun c => (entity? c).getD [c]

mutual

/-- A node as it is written. -/
def Node.write : Node → Text
  | .text content => writeText content
  | .element tag children => tag.opening ++ writeAll children ++ tag.closing

/-- Nodes written one after the other. -/
def writeAll : List Node → Text
  | [] => []
  | node :: nodes => node.write ++ writeAll nodes

end

mutual

/-- The texts in a node. -/
def Node.content : Node → Text
  | .text content => content
  | .element _ children => contentAll children

/-- The texts in nodes. -/
def contentAll : List Node → Text
  | [] => []
  | node :: nodes => node.content ++ contentAll nodes

end

mutual

/-- The start tags in a node. -/
def Node.tags : Node → List Tag
  | .text _ => []
  | .element tag children => tag :: tagsAll children

/-- The start tags in nodes. -/
def tagsAll : List Node → List Tag
  | [] => []
  | node :: nodes => node.tags ++ tagsAll nodes

end

theorem writeAll_append (a b : List Node) : writeAll (a ++ b) = writeAll a ++ writeAll b := by
  induction a with
  | nil => rfl
  | cons node nodes ih => rw [List.cons_append, writeAll, writeAll, ih, List.append_assoc]

theorem contentAll_append (a b : List Node) :
    contentAll (a ++ b) = contentAll a ++ contentAll b := by
  induction a with
  | nil => rfl
  | cons node nodes ih => rw [List.cons_append, contentAll, contentAll, ih, List.append_assoc]

theorem tagsAll_append (a b : List Node) : tagsAll (a ++ b) = tagsAll a ++ tagsAll b := by
  induction a with
  | nil => rfl
  | cons node nodes ih => rw [List.cons_append, tagsAll, tagsAll, ih, List.append_assoc]

theorem writeText_eq_escape (text : Text) : writeText text = escape text := by
  refine congrArg (List.flatMap · text) (funext fun c => ?_)
  unfold entity? escapeChar
  split <;> simp_all

/-! ### The trees of documents -/

/-- A line feed between elements. -/
def lineFeed : Node := .text ['\n']

/-- An element without attributes. -/
def plainTag (name : Text) : Tag := ⟨name, []⟩

/-- An element with a class. -/
def classTag (name value : Text) : Tag := ⟨name, [("class", value)]⟩

/-- The value of a class attribute of a list. -/
def listClass (name : Text) (simple : Bool) : Text := if simple then name ++ " simple" else name

/-- The tag of a bullet list. -/
def bulletTag (simple : Bool) : Tag := if simple then classTag "ul" "simple" else plainTag "ul"

/-- The tag of an enumerated list. -/
def numberedTag (numbering : Numbering) (start : Nat) (simple : Bool) : Tag where
  name := "ol"
  attributes := ("class".toList, listClass numbering.name simple)
    :: if start = 1 then [] else [("start".toList, decimal start)]

/-- How field lists are laid out as elements. -/
structure FieldLayout where
  list : Bool → Tag
  entry : Text → List Node → List Node
  emptyBody : List Node

/-- Field lists as definition lists, with a colon behind each name. -/
def FieldLayout.definitions : FieldLayout where
  list simple := classTag "dl" (listClass "field-list" simple)
  entry name body :=
    [.element (plainTag "dt") [.text name, .element (classTag "span" "colon") [.text [':']]],
      lineFeed, .element (plainTag "dd") body, lineFeed]
  emptyBody := []

/-- Field lists as tables, with a row for each field. -/
def FieldLayout.table : FieldLayout where
  list simple := classTag "table" (listClass "field-list" simple)
  entry name body :=
    [.element (plainTag "tr")
      [.element (plainTag "th") [.text name], lineFeed, .element (plainTag "td") body, lineFeed],
      lineFeed]
  emptyBody := [.element (plainTag "p") []]

/-- The node of a piece of paragraph text. -/
def pieceNode : Inline → Node
  | .text s => .text s
  | .strong s => .element (plainTag "strong") [.text s]
  | .emphasis s => .element (plainTag "em") [.text s]
  | .literal s => .element (classTag "span" "docutils literal") [.text s]
  | .role _ s => .element (classTag "span" "docutils literal") [.text s]

/-- The nodes of paragraph text. -/
def inlineNodes (text : Text) : List Node := (parseInline text).map pieceNode

mutual

/-- The nodes of a block. -/
def blockNodes (layout : FieldLayout) (compact : Bool) : Block → List Node
  | .paragraph text =>
    .element (plainTag "p") (inlineNodes text) :: if compact then [] else [lineFeed]
  | .bullets items =>
    let simple := items.all isSimpleItem
    [.element (bulletTag simple) (lineFeed :: itemNodes layout simple items), lineFeed]
  | .numbered numbering start items =>
    let simple := items.all isSimpleItem
    [.element (numberedTag numbering start simple) (lineFeed :: itemNodes layout simple items),
      lineFeed]
  | .fields entries =>
    [.element (layout.list (entries.all (·.2.length ≤ 1))) (lineFeed :: entryNodes layout entries),
      lineFeed]
  | .quote blocks =>
    [.element (plainTag "blockquote") (lineFeed :: blocksNodes layout false blocks), lineFeed]
  | .literal text => [.element (classTag "pre" "literal-block") [.text text], lineFeed]

/-- The nodes of a sequence of blocks. -/
def blocksNodes (layout : FieldLayout) (compact : Bool) : List Block → List Node
  | [] => []
  | block :: blocks => blockNodes layout compact block ++ blocksNodes layout compact blocks

/-- The nodes of the items of a list. -/
def itemNodes (layout : FieldLayout) (compact : Bool) : List (List Block) → List Node
  | [] => []
  | item :: items =>
    .element (plainTag "li") (blocksNodes layout compact item) :: lineFeed
      :: itemNodes layout compact items

/-- The nodes of the entries of a field list. -/
def entryNodes (layout : FieldLayout) : List (Text × List Block) → List Node
  | [] => []
  | (name, body) :: entries =>
    layout.entry name ((if body.isEmpty then layout.emptyBody else [])
      ++ blocksNodes layout false body) ++ entryNodes layout entries

end

/-! ### Rendering writes trees -/

/-- A layout of field lists fits a style when writing it gives the tags of the style. -/
structure Draws (style : FieldStyle) (layout : FieldLayout) : Prop where
  opening (simple : Bool) :
    style.opening ++ classEnd simple ++ ">\n".toList = (layout.list simple).opening ++ ['\n']
  closing (simple : Bool) : style.closing = (layout.list simple).closing ++ ['\n']
  entry (name : Text) (body : List Node) :
    style.nameOpening ++ escape name ++ style.nameClosing ++ style.bodyOpening ++ writeAll body
      ++ style.bodyClosing ++ style.entryClosing = writeAll (layout.entry name body)
  emptyBody : style.emptyBody = writeAll layout.emptyBody

/-- The tags of the layouts in full. -/
@[simp]
theorem opening_plainTag (name : Text) : (plainTag name).opening = '<' :: name ++ ['>'] := by
  simp [Tag.opening, Tag.inside, plainTag]

@[simp]
theorem opening_classTag (name value : Text) :
    (classTag name value).opening = '<' :: name ++ (" class=\"" ++ value ++ "\">") := by
  simp [Tag.opening, Tag.inside, classTag, writeAttribute]

@[simp]
theorem closing_plainTag (name : Text) : (plainTag name).closing = "</" ++ name ++ ">" := by
  simp [Tag.closing, plainTag]

@[simp]
theorem closing_classTag (name value : Text) :
    (classTag name value).closing = "</" ++ name ++ ">" := by
  simp [Tag.closing, classTag]

@[simp]
theorem write_text (content : Text) : (Node.text content).write = writeText content := by
  rw [Node.write]

@[simp]
theorem write_element (tag : Tag) (children : List Node) :
    (Node.element tag children).write = tag.opening ++ writeAll children ++ tag.closing := by
  rw [Node.write]

@[simp]
theorem write_lineFeed : lineFeed.write = ['\n'] := by
  rw [lineFeed, write_text]
  rfl

@[simp]
theorem writeAll_nil : writeAll [] = [] := by rw [writeAll]

@[simp]
theorem writeAll_cons (node : Node) (nodes : List Node) :
    writeAll (node :: nodes) = node.write ++ writeAll nodes := by
  rw [writeAll]

theorem draws_definitions : Draws .definitions .definitions where
  opening simple := by
    change "<dl class=\"field-list".toList ++ _ ++ _ = (classTag "dl" _).opening ++ _
    cases simple <;> simp [classEnd, listClass]
  closing simple := by
    change "</dl>\n".toList = (classTag "dl" _).closing ++ _
    simp
  entry name body := by
    have colon : escape [':'] = [':'] := rfl
    change "<dt>".toList ++ _ ++ "<span class=\"colon\">:</span></dt>\n".toList ++ "<dd>".toList
      ++ _ ++ "</dd>\n".toList ++ []
      = writeAll [.element (plainTag "dt") _, _, .element (plainTag "dd") _, _]
    simp [writeText_eq_escape, colon]
  emptyBody := rfl

theorem draws_table : Draws .table .table where
  opening simple := by
    change "<table class=\"field-list".toList ++ _ ++ _ = (classTag "table" _).opening ++ _
    cases simple <;> simp [classEnd, listClass]
  closing simple := by
    change "</table>\n".toList = (classTag "table" _).closing ++ _
    simp
  entry name body := by
    change "<tr><th>".toList ++ _ ++ "</th>\n".toList ++ "<td>".toList ++ _ ++ "</td>\n".toList
      ++ "</tr>\n".toList = writeAll [.element (plainTag "tr")
        [.element (plainTag "th") _, _, .element (plainTag "td") _, _], _]
    simp [writeText_eq_escape]
  emptyBody := by
    change "<p></p>".toList = writeAll [.element (plainTag "p") []]
    simp

theorem renderPiece_eq (piece : Inline) : renderPiece piece = (pieceNode piece).write := by
  cases piece with
  | text s => exact ((write_text s).trans (writeText_eq_escape s)).symm
  | strong s =>
    change "<strong>".toList ++ escape s ++ "</strong>".toList = _
    simp [pieceNode, writeText_eq_escape]
  | emphasis s =>
    change "<em>".toList ++ escape s ++ "</em>".toList = _
    simp [pieceNode, writeText_eq_escape]
  | literal s =>
    change "<span class=\"docutils literal\">".toList ++ escape s ++ "</span>".toList = _
    simp [pieceNode, writeText_eq_escape]
  | role name s =>
    change "<span class=\"docutils literal\">".toList ++ escape s ++ "</span>".toList = _
    simp [pieceNode, writeText_eq_escape]

theorem renderInline_eq (text : Text) : renderInline text = writeAll (inlineNodes text) := by
  rw [renderInline, inlineNodes]
  induction parseInline text with
  | nil => rfl
  | cons piece pieces ih => rw [List.flatMap_cons, List.map_cons, writeAll, ih, renderPiece_eq]

theorem numberedOpening_eq (numbering : Numbering) (start : Nat) (simple : Bool) :
    numberedOpening numbering start simple
      = (numberedTag numbering start simple).opening ++ ['\n'] := by
  have hend : classEnd simple = (if simple then " simple".toList else []) ++ ['"'] := by
    cases simple <;> rfl
  change "<ol class=\"".toList ++ numbering.name ++ classEnd simple ++ startAttribute start
    ++ ">\n".toList = _
  by_cases h : start = 1
  · cases simple <;> simp [numberedTag, Tag.opening, Tag.inside, writeAttribute, hend, listClass,
      startAttribute, h]
  · have hs : startAttribute start = " start=\"".toList ++ decimal start ++ "\"".toList := if_neg h
    cases simple <;> simp [numberedTag, Tag.opening, Tag.inside, writeAttribute, hend, listClass,
      hs, h]

theorem bulletOpening_eq (simple : Bool) :
    (if simple then "<ul class=\"simple\">\n" else "<ul>\n").toList
      = (bulletTag simple).opening ++ ['\n'] := by
  cases simple <;> simp [bulletTag]

section

variable {style : FieldStyle} {layout : FieldLayout}

mutual

/-- Rendering a block writes the nodes of the block. -/
theorem renderBlock_eq (h : Draws style layout) (compact : Bool) :
    ∀ block, renderBlock style compact block = writeAll (blockNodes layout compact block)
  | .paragraph text => by
    change "<p>".toList ++ renderInline text ++ "</p>".toList
      ++ (if compact then [] else ['\n']) = _
    cases compact <;> simp [blockNodes, renderInline_eq]
  | .bullets items => by
    have hitems := renderItems_eq h (items.all isSimpleItem) items
    change (if items.all isSimpleItem then "<ul class=\"simple\">\n" else "<ul>\n").toList
      ++ renderItems style (items.all isSimpleItem) items ++ "</ul>\n".toList = _
    rw [bulletOpening_eq, hitems]
    cases hs : items.all isSimpleItem <;> simp [blockNodes, bulletTag, hs]
  | .numbered numbering start items => by
    have hitems := renderItems_eq h (items.all isSimpleItem) items
    change numberedOpening numbering start (items.all isSimpleItem)
      ++ renderItems style (items.all isSimpleItem) items ++ "</ol>\n".toList = _
    rw [numberedOpening_eq, hitems]
    simp [blockNodes, Tag.closing, numberedTag]
  | .fields entries => by
    have hentries := renderEntries_eq h entries
    change style.opening ++ classEnd (entries.all (·.2.length ≤ 1)) ++ ">\n".toList
      ++ renderEntries style entries ++ style.closing = _
    rw [h.opening, h.closing (entries.all (·.2.length ≤ 1)), hentries]
    simp [blockNodes]
  | .quote blocks => by
    have hblocks := renderBlocks_eq h false blocks
    change "<blockquote>\n".toList ++ renderBlocks style false blocks
      ++ "</blockquote>\n".toList = _
    rw [hblocks]
    simp [blockNodes]
  | .literal text => by
    change "<pre class=\"literal-block\">".toList ++ escape text ++ "</pre>\n".toList = _
    simp [blockNodes, writeText_eq_escape]

/-- Rendering blocks writes their nodes. -/
theorem renderBlocks_eq (h : Draws style layout) (compact : Bool) :
    ∀ blocks, renderBlocks style compact blocks = writeAll (blocksNodes layout compact blocks)
  | [] => rfl
  | block :: blocks => by
    have hblock := renderBlock_eq h compact block
    have hblocks := renderBlocks_eq h compact blocks
    change renderBlock style compact block ++ renderBlocks style compact blocks = _
    rw [blocksNodes, writeAll_append, hblock, hblocks]

theorem renderItems_eq (h : Draws style layout) (compact : Bool) :
    ∀ items, renderItems style compact items = writeAll (itemNodes layout compact items)
  | [] => rfl
  | item :: items => by
    have hitem := renderBlocks_eq h compact item
    have hitems := renderItems_eq h compact items
    change "<li>".toList ++ renderBlocks style compact item ++ "</li>\n".toList
      ++ renderItems style compact items = _
    rw [hitem, hitems]
    simp [itemNodes]

theorem renderEntries_eq (h : Draws style layout) :
    ∀ entries, renderEntries style entries = writeAll (entryNodes layout entries)
  | [] => rfl
  | (name, body) :: entries => by
    have hbody := renderBlocks_eq h false body
    have hentries := renderEntries_eq h entries
    have hempty : (if body.isEmpty then style.emptyBody else [])
        = writeAll (if body.isEmpty then layout.emptyBody else []) := by
      split
      · exact h.emptyBody
      · rfl
    change style.nameOpening ++ escape name ++ style.nameClosing ++ style.bodyOpening
      ++ (if body.isEmpty then style.emptyBody else []) ++ renderBlocks style false body
      ++ style.bodyClosing ++ style.entryClosing ++ renderEntries style entries = _
    rw [entryNodes, writeAll_append, ← h.entry, writeAll_append, hbody, hentries, hempty]
    simp only [List.append_assoc]

end

end

end Testbook.Html
