import Testbook.Proofs.Html.Reading
import Testbook.Proofs.Markup.Leaves
import Testbook.Proofs.Text.Decimal

/-!
Rendered documents are well formed, and no text can put markup into them. Whatever the text, what
is rendered is the one element of a document, written as a tree whose tags are all known: their
names, classes and starts are fixed. The special characters of the text stand in the texts of the
tree, in their order, and are therefore written as entities; tags have no other source than the
renderer. The proof follows the special characters through the reading of blocks, which loses none
(`Keeps`), and through inline markup, whose marks hold none.
-/

namespace Testbook.Html

open Testbook.Text Testbook.Markup

/-! ### Known tags -/

/-- The tags within a document, except those of enumerated lists and of field lists. -/
def commonTags : List Tag := [
  plainTag "p", plainTag "ul", classTag "ul" "simple", plainTag "li", plainTag "blockquote",
  classTag "pre" "literal-block", classTag "span" "docutils literal", plainTag "strong",
  plainTag "em"]

/-- The tags of field lists that are definition lists. -/
def definitionTags : List Tag := [
  classTag "dl" "field-list", classTag "dl" "field-list simple", plainTag "dt", plainTag "dd",
  classTag "span" "colon"]

/-- The tags of field lists that are tables. -/
def tableTags : List Tag := [
  classTag "table" "field-list", classTag "table" "field-list simple", plainTag "tr",
  plainTag "th", plainTag "td"]

/-- The tags that may stand within a document whose field lists have the given tags. The tag of an
enumerated list has its numbering as class and may have a decimal start. -/
def Tag.IsKnown (fieldTags : List Tag) (tag : Tag) : Prop :=
  tag ∈ commonTags ∨ tag ∈ fieldTags
    ∨ ∃ numbering start simple, tag = numberedTag numbering start simple

/-! ### Special characters -/

/-- The characters of a text that are written as entities. -/
def specials (text : Text) : Text := text.filter fun c => (entity? c).isSome

@[simp]
theorem specials_nil : specials [] = [] := rfl

theorem specials_append (a b : Text) : specials (a ++ b) = specials a ++ specials b :=
  List.filter_append ..

theorem mem_of_isSome_entity? {c : Char} (h : (entity? c).isSome = true) : c ∈ "&<>\"@".toList := by
  unfold entity? at h
  split at h
  · decide
  · decide
  · decide
  · decide
  · decide
  · simp at h

/-- What only consists of other characters has no special ones. -/
theorem specials_eq_nil {p : Char → Bool} (hp : "&<>\"@".toList.all (!p ·) = true) {text : Text}
    (h : ∀ c ∈ text, p c = true) : specials text = [] :=
  List.filter_eq_nil_iff.2 fun c hc hs => by
    have := List.all_eq_true.1 hp c (mem_of_isSome_entity? hs)
    rw [h c hc] at this
    exact absurd this (by decide)

theorem specials_eq_content (text : Text) :
    specials text = (content text).filter fun c => (entity? c).isSome := by
  rw [specials, content, List.filter_filter]
  refine List.filter_congr fun c _ => ?_
  cases hs : (entity? c).isSome with
  | false => rfl
  | true =>
    have hplain : "&<>\"@".toList.all (fun d => !isBlank d && !isMark d) = true := by decide
    rw [List.all_eq_true.1 hplain c (mem_of_isSome_entity? hs)]
    rfl

/-- Reading a text loses no special character. -/
theorem specials_of_keeps {source kept : Text} (h : Keeps source kept) :
    specials kept = specials source := by
  rw [specials_eq_content, specials_eq_content, h.content_eq]

/-! ### Inline markup -/

theorem isRoleChar_roleName? {text name rest : Text} (h : roleName? text = some (name, rest)) :
    ∀ c ∈ name, isRoleChar c = true := by
  fun_induction roleName? text generalizing name with
  | case1 => simp at h
  | case2 c cs hc =>
    cases h
    simp
  | case3 c cs hc hr ih =>
    obtain ⟨⟨n, r⟩, hn, he⟩ := Option.map_eq_some_iff.1 h
    cases he
    exact List.forall_mem_cons.2 ⟨hr, ih hn⟩
  | case4 => simp at h

/-- The name of a role that is read is made of letters, digits and some punctuation. -/
theorem isRoleChar_inlineAt {before : Option Char} {text rest name content : Text}
    (h : inlineAt before text = some (.role (some name) content, rest)) :
    ∀ c ∈ name, isRoleChar c = true := by
  obtain ⟨inner, -, -, -, hname⟩ := exists_inlineAt h
  exact isRoleChar_roleName? hname

theorem specials_marks {piece : Inline}
    (h : ∀ name content, piece = .role (some name) content → ∀ c ∈ name, isRoleChar c = true) :
    specials piece.marks.1 = [] ∧ specials piece.marks.2 = [] := by
  cases piece with
  | text s => exact ⟨rfl, rfl⟩
  | literal s => exact ⟨rfl, rfl⟩
  | strong s => exact ⟨rfl, rfl⟩
  | emphasis s => exact ⟨rfl, rfl⟩
  | role name s =>
    cases name with
    | none => exact ⟨rfl, rfl⟩
    | some name =>
      have hname : specials name = [] := specials_eq_nil (by decide) (h name s rfl)
      refine ⟨?_, rfl⟩
      change specials ([':'] ++ name ++ [':', Inline.backquote]) = []
      rw [specials_append, specials_append, hname]
      rfl

/-- The special characters of a piece as it is written are those of what it says. -/
theorem specials_written {before : Option Char} {text rest : Text} {piece : Inline}
    (h : inlineAt before text = some (piece, rest)) :
    specials piece.written = specials piece.content := by
  have hmarks : specials piece.marks.1 = [] ∧ specials piece.marks.2 = [] := by
    refine specials_marks fun name content hp => ?_
    subst hp
    exact isRoleChar_inlineAt h
  rw [Inline.written, specials_append, specials_append, hmarks.1, hmarks.2, List.nil_append,
    List.append_nil]

theorem flatMap_content_consChar (c : Char) (pieces : List Inline) :
    (consChar c pieces).flatMap Inline.content = c :: pieces.flatMap Inline.content := by
  unfold consChar
  split <;> rfl

/-- Inline markup hides no special character. -/
theorem specials_readInline (before : Option Char) (text : Text) :
    specials ((readInline before text).flatMap Inline.content) = specials text := by
  fun_induction readInline before text with
  | case1 => rfl
  | case2 before c cs piece rest h ih =>
    rw [List.flatMap_cons, specials_append, ih, ← specials_written h, ← specials_append,
      ← (inlineAt_eq_some h).1]
  | case3 before c cs h ih =>
    rw [flatMap_content_consChar, ← List.singleton_append, specials_append, ih, ← specials_append,
      List.singleton_append]

theorem contentAll_map_pieceNode (pieces : List Inline) :
    contentAll (pieces.map pieceNode) = pieces.flatMap Inline.content := by
  induction pieces with
  | nil => rfl
  | cons piece pieces ih =>
    rw [List.map_cons, contentAll, ih, List.flatMap_cons]
    congr 1
    cases piece <;> simp [pieceNode, Node.content, contentAll, Inline.content]

theorem specials_inlineNodes (text : Text) :
    specials (contentAll (inlineNodes text)) = specials text := by
  rw [inlineNodes, contentAll_map_pieceNode]
  exact specials_readInline none text

/-! ### The trees of blocks -/

/-- A layout of field lists that only uses the given tags and shows each name and body once. -/
structure FieldLayout.IsKnown (layout : FieldLayout) (fieldTags : List Tag) : Prop where
  list (simple : Bool) : layout.list simple ∈ fieldTags
  entry_tags (name : Text) (body : List Node) :
    ∀ tag ∈ tagsAll (layout.entry name body), tag ∈ fieldTags ∨ tag ∈ tagsAll body
  entry_specials (name : Text) (body : List Node) :
    specials (contentAll (layout.entry name body)) = specials name ++ specials (contentAll body)
  empty_tags : ∀ tag ∈ tagsAll layout.emptyBody, tag ∈ commonTags
  empty_specials : specials (contentAll layout.emptyBody) = []

theorem isKnown_definitions : FieldLayout.definitions.IsKnown definitionTags where
  list simple := by cases simple <;> decide
  entry_tags name body tag h := by
    have htags : tagsAll (FieldLayout.definitions.entry name body)
        = [plainTag "dt", classTag "span" "colon", plainTag "dd"] ++ tagsAll body := by
      simp [FieldLayout.definitions, tagsAll, Node.tags, lineFeed]
    rw [htags, List.mem_append] at h
    have hknown : ∀ t ∈ [plainTag "dt", classTag "span" "colon", plainTag "dd"],
        t ∈ definitionTags := by decide
    exact h.imp_left (hknown tag)
  entry_specials name body := by
    have hcontent : contentAll (FieldLayout.definitions.entry name body)
        = name ++ [':', '\n'] ++ contentAll body ++ ['\n'] := by
      simp [FieldLayout.definitions, contentAll, Node.content, lineFeed]
    have hcolon : specials [':', '\n'] = [] := rfl
    have hfeed : specials ['\n'] = [] := rfl
    rw [hcontent, specials_append, specials_append, specials_append, hcolon, hfeed,
      List.append_nil, List.append_nil]
  empty_tags tag h := by simp [FieldLayout.definitions, tagsAll] at h
  empty_specials := rfl

theorem isKnown_table : FieldLayout.table.IsKnown tableTags where
  list simple := by cases simple <;> decide
  entry_tags name body tag h := by
    have htags : tagsAll (FieldLayout.table.entry name body)
        = [plainTag "tr", plainTag "th", plainTag "td"] ++ tagsAll body := by
      simp [FieldLayout.table, tagsAll, Node.tags, lineFeed]
    rw [htags, List.mem_append] at h
    have hknown : ∀ t ∈ [plainTag "tr", plainTag "th", plainTag "td"], t ∈ tableTags := by decide
    exact h.imp_left (hknown tag)
  entry_specials name body := by
    have hcontent : contentAll (FieldLayout.table.entry name body)
        = name ++ ['\n'] ++ contentAll body ++ ['\n', '\n'] := by
      simp [FieldLayout.table, contentAll, Node.content, lineFeed]
    have hfeed : specials ['\n'] = [] := rfl
    have hfeeds : specials ['\n', '\n'] = [] := rfl
    rw [hcontent, specials_append, specials_append, specials_append, hfeed, hfeeds,
      List.append_nil, List.append_nil]
  empty_tags tag h := by
    have htags : tagsAll FieldLayout.table.emptyBody = [plainTag "p"] := rfl
    rw [htags] at h
    exact List.mem_singleton.1 h ▸ List.mem_cons_self
  empty_specials := rfl

theorem tags_inlineNodes (text : Text) : ∀ tag ∈ tagsAll (inlineNodes text), tag ∈ commonTags := by
  rw [inlineNodes]
  induction parseInline text with
  | nil => simp [tagsAll]
  | cons piece pieces ih =>
    rw [List.map_cons, tagsAll, List.forall_mem_append]
    refine ⟨?_, ih⟩
    cases piece with
    | text s => simp [pieceNode, Node.tags]
    | literal s => simp [pieceNode, Node.tags, tagsAll, commonTags]
    | strong s => simp [pieceNode, Node.tags, tagsAll, commonTags]
    | emphasis s => simp [pieceNode, Node.tags, tagsAll, commonTags]
    | role name s => simp [pieceNode, Node.tags, tagsAll, commonTags]

section

variable {layout : FieldLayout} {fieldTags : List Tag}

/-- An element and the line feed behind it, when its own tag and the tags within are known. -/
theorem isKnown_tagsAll {tag : Tag} {children : List Node} (ht : tag.IsKnown fieldTags)
    (hc : ∀ t ∈ tagsAll children, t.IsKnown fieldTags) :
    ∀ t ∈ tagsAll [.element tag (lineFeed :: children), lineFeed], t.IsKnown fieldTags := by
  intro t h
  have htags : tagsAll [.element tag (lineFeed :: children), lineFeed]
      = tag :: tagsAll children := by
    simp [tagsAll, Node.tags, lineFeed]
  rw [htags, List.mem_cons] at h
  rcases h with rfl | h
  · exact ht
  · exact hc t h

mutual

/-- Only known tags stand in the nodes of a block. -/
theorem isKnown_blockNodes (h : layout.IsKnown fieldTags) (compact : Bool) :
    ∀ block, ∀ tag ∈ tagsAll (blockNodes layout compact block), tag.IsKnown fieldTags
  | .paragraph text => by
    have htags : tagsAll (blockNodes layout compact (.paragraph text))
        = plainTag "p" :: tagsAll (inlineNodes text) := by
      cases compact <;> simp [blockNodes, tagsAll, Node.tags, lineFeed]
    rw [htags, List.forall_mem_cons]
    exact ⟨.inl (by decide), fun tag ht => .inl (tags_inlineNodes text tag ht)⟩
  | .bullets items => by
    have hitems := isKnown_itemNodes h (items.all isSimpleItem) items
    rw [blockNodes]
    refine isKnown_tagsAll (.inl ?_) hitems
    cases items.all isSimpleItem <;> decide
  | .numbered numbering start items => by
    have hitems := isKnown_itemNodes h (items.all isSimpleItem) items
    rw [blockNodes]
    exact isKnown_tagsAll (.inr (.inr ⟨numbering, start, _, rfl⟩)) hitems
  | .fields entries => by
    have hentries := isKnown_entryNodes h entries
    rw [blockNodes]
    exact isKnown_tagsAll (.inr (.inl (h.list _))) hentries
  | .quote blocks => by
    have hblocks := isKnown_blocksNodes h false blocks
    rw [blockNodes]
    exact isKnown_tagsAll (.inl (by decide)) hblocks
  | .literal text => by
    have htags : tagsAll (blockNodes layout compact (.literal text))
        = [classTag "pre" "literal-block"] := by
      simp [blockNodes, tagsAll, Node.tags, lineFeed]
    rw [htags, List.forall_mem_singleton]
    exact .inl (by decide)

theorem isKnown_blocksNodes (h : layout.IsKnown fieldTags) (compact : Bool) :
    ∀ blocks, ∀ tag ∈ tagsAll (blocksNodes layout compact blocks), tag.IsKnown fieldTags
  | [] => by simp [blocksNodes, tagsAll]
  | block :: blocks => by
    have hblock := isKnown_blockNodes h compact block
    have hblocks := isKnown_blocksNodes h compact blocks
    rw [blocksNodes, tagsAll_append, List.forall_mem_append]
    exact ⟨hblock, hblocks⟩

theorem isKnown_itemNodes (h : layout.IsKnown fieldTags) (compact : Bool) :
    ∀ items, ∀ tag ∈ tagsAll (itemNodes layout compact items), tag.IsKnown fieldTags
  | [] => by simp [itemNodes, tagsAll]
  | item :: items => by
    have hitem := isKnown_blocksNodes h compact item
    have hitems := isKnown_itemNodes h compact items
    have htags : tagsAll (itemNodes layout compact (item :: items))
        = plainTag "li" :: tagsAll (blocksNodes layout compact item)
          ++ tagsAll (itemNodes layout compact items) := by
      simp [itemNodes, tagsAll, Node.tags, lineFeed]
    rw [htags, List.forall_mem_append, List.forall_mem_cons]
    exact ⟨⟨.inl (by decide), hitem⟩, hitems⟩

theorem isKnown_entryNodes (h : layout.IsKnown fieldTags) :
    ∀ entries, ∀ tag ∈ tagsAll (entryNodes layout entries), tag.IsKnown fieldTags
  | [] => by simp [entryNodes, tagsAll]
  | (name, body) :: entries => by
    have hbody := isKnown_blocksNodes h false body
    have hentries := isKnown_entryNodes h entries
    rw [entryNodes, tagsAll_append, List.forall_mem_append]
    refine ⟨fun tag ht => ?_, hentries⟩
    rcases h.entry_tags name _ tag ht with ht | ht
    · exact .inr (.inl ht)
    rw [tagsAll_append, List.mem_append] at ht
    rcases ht with ht | ht
    · split at ht
      · exact .inl (h.empty_tags tag ht)
      · simp [tagsAll] at ht
    · exact hbody tag ht

end

theorem specials_element (tag : Tag) (children : List Node) :
    specials (contentAll [.element tag (lineFeed :: children), lineFeed])
      = specials (contentAll children) := by
  have hcontent : contentAll [.element tag (lineFeed :: children), lineFeed]
      = ['\n'] ++ contentAll children ++ ['\n'] := by
    simp [contentAll, Node.content, lineFeed]
  have hfeed : specials ['\n'] = [] := rfl
  rw [hcontent, specials_append, specials_append, hfeed, List.nil_append, List.append_nil]

mutual

/-- The special characters in the nodes of a block are those in its leaves, in their order. -/
theorem specials_blockNodes (h : layout.IsKnown fieldTags) (compact : Bool) :
    ∀ block, specials (contentAll (blockNodes layout compact block)) = specials (leafText block)
  | .paragraph text => by
    have hcontent : contentAll (blockNodes layout compact (.paragraph text))
        = contentAll (inlineNodes text) ++ if compact then [] else ['\n'] := by
      cases compact <;> simp [blockNodes, contentAll, Node.content, lineFeed]
    have hfeed : specials (if compact then [] else ['\n']) = [] := by cases compact <;> rfl
    rw [hcontent, specials_append, hfeed, List.append_nil, specials_inlineNodes, leafText]
  | .bullets items => by
    have hitems := specials_itemNodes h (items.all isSimpleItem) items
    rw [blockNodes, specials_element, hitems, leafText]
  | .numbered numbering start items => by
    have hitems := specials_itemNodes h (items.all isSimpleItem) items
    rw [blockNodes, specials_element, hitems, leafText]
  | .fields entries => by
    have hentries := specials_entryNodes h entries
    rw [blockNodes, specials_element, hentries, leafText]
  | .quote blocks => by
    have hblocks := specials_blocksNodes h false blocks
    rw [blockNodes, specials_element, hblocks, leafText]
  | .literal text => by
    have hcontent : contentAll (blockNodes layout compact (.literal text)) = text ++ ['\n'] := by
      simp [blockNodes, contentAll, Node.content, lineFeed]
    have hfeed : specials ['\n'] = [] := rfl
    rw [hcontent, specials_append, hfeed, List.append_nil, leafText]

theorem specials_blocksNodes (h : layout.IsKnown fieldTags) (compact : Bool) :
    ∀ blocks, specials (contentAll (blocksNodes layout compact blocks)) = specials (leaves blocks)
  | [] => rfl
  | block :: blocks => by
    have hblock := specials_blockNodes h compact block
    have hblocks := specials_blocksNodes h compact blocks
    rw [blocksNodes, contentAll_append, specials_append, hblock, hblocks, leaves, specials_append]

theorem specials_itemNodes (h : layout.IsKnown fieldTags) (compact : Bool) :
    ∀ items, specials (contentAll (itemNodes layout compact items)) = specials (itemLeaves items)
  | [] => rfl
  | item :: items => by
    have hitem := specials_blocksNodes h compact item
    have hitems := specials_itemNodes h compact items
    have hcontent : contentAll (itemNodes layout compact (item :: items))
        = contentAll (blocksNodes layout compact item) ++ ['\n']
          ++ contentAll (itemNodes layout compact items) := by
      simp [itemNodes, contentAll, Node.content, lineFeed]
    have hfeed : specials ['\n'] = [] := rfl
    rw [hcontent, specials_append, specials_append, hitem, hfeed, List.append_nil, hitems,
      itemLeaves, specials_append]

theorem specials_entryNodes (h : layout.IsKnown fieldTags) :
    ∀ entries, specials (contentAll (entryNodes layout entries)) = specials (entryLeaves entries)
  | [] => rfl
  | (name, body) :: entries => by
    have hbody := specials_blocksNodes h false body
    have hentries := specials_entryNodes h entries
    have hempty : specials (contentAll (if body.isEmpty then layout.emptyBody else [])) = [] := by
      split
      · exact h.empty_specials
      · rfl
    rw [entryNodes, contentAll_append, specials_append, h.entry_specials, contentAll_append,
      specials_append, hempty, List.nil_append, hbody, hentries, entryLeaves, specials_append,
      specials_append]

end

end

/-! ### Whole documents -/

/-- The html of a source is one document element and a line feed. It is written as a tree with known
tags, its texts hold the special characters of the source in their order, and the fragment reader
takes it for one element. -/
def IsDocument (fieldTags : List Tag) (source html : Text) : Prop :=
  ∃ children, html = (Node.element (classTag "div" "document") children).write ++ ['\n']
    ∧ (∀ tag ∈ tagsAll children, tag.IsKnown fieldTags)
    ∧ specials (contentAll children) = specials source
    ∧ ∃ root, parseFragment html = some root ∧ root.name = "div".toList

theorem isReadable_numberedTag (numbering : Numbering) (start : Nat) (simple : Bool) :
    (numberedTag numbering start simple).IsReadable := by
  have hstart : '"' ∉ decimal start := fun h =>
    absurd (isDigit_of_mem_decimal h) (by decide)
  have hclass : '"' ∉ listClass numbering.name simple := by
    cases numbering <;> cases simple <;> decide
  refine ⟨by simp [numberedTag], by simp [numberedTag], ?_, ?_⟩
  · by_cases h : start = 1 <;> simp [numberedTag, h]
  · by_cases h : start = 1 <;> simp [numberedTag, h, hclass, hstart]

theorem Tag.IsKnown.isReadable {fieldTags : List Tag} (hf : ∀ tag ∈ fieldTags, tag.IsReadable)
    {tag : Tag} (h : tag.IsKnown fieldTags) : tag.IsReadable := by
  have hcommon : ∀ tag ∈ commonTags, tag.IsReadable := by decide
  rcases h with h | h | ⟨numbering, start, simple, rfl⟩
  · exact hcommon tag h
  · exact hf tag h
  · exact isReadable_numberedTag numbering start simple

/-- What is written as the tree of a document is one, if its tags are known and its texts hold the
special characters of the source. -/
theorem isDocument_write {fieldTags : List Tag} {source : Text} {children : List Node}
    (hf : ∀ tag ∈ fieldTags, tag.IsReadable) (ht : ∀ tag ∈ tagsAll children, tag.IsKnown fieldTags)
    (hs : specials (contentAll children) = specials source) :
    IsDocument fieldTags source
      ((Node.element (classTag "div" "document") children).write ++ ['\n']) := by
  refine ⟨children, rfl, ht, hs, rootElement _ children, parseFragment_write ?_, rfl⟩
  rw [Node.tags, List.forall_mem_cons]
  exact ⟨by decide, fun tag h => (ht tag h).isReadable hf⟩

theorem wrapDocument_eq (nodes : List Node) : wrapDocument (writeAll nodes)
    = (Node.element (classTag "div" "document") (lineFeed :: nodes)).write ++ ['\n'] := by
  change "<div class=\"document\">\n".toList ++ writeAll nodes ++ "</div>\n".toList = _
  simp

theorem isDocument_renderText {style : FieldStyle} {layout : FieldLayout} {fieldTags : List Tag}
    (hd : Draws style layout) (hl : layout.IsKnown fieldTags)
    (hf : ∀ tag ∈ fieldTags, tag.IsReadable) {text : Text} (hne : text ≠ []) :
    IsDocument fieldTags text (renderText style text).html := by
  unfold renderText
  rw [if_neg (by simpa using hne)]
  split
  · next document hp =>
    have hsource := specials_of_keeps (keeps_parse hp)
    change IsDocument fieldTags text (wrapDocument (renderBlocks style false document.blocks))
    rw [renderBlocks_eq hd, wrapDocument_eq]
    refine isDocument_write hf ?_ ?_
    · exact isKnown_blocksNodes hl false document.blocks
    · exact (specials_blocksNodes hl false document.blocks).trans hsource
  · next bad hp =>
    have hwrite : "<p>".toList ++ escape text ++ "</p>\n".toList
        = writeAll [.element (plainTag "p") [.text text], lineFeed] := by
      simp [writeText_eq_escape]
    change IsDocument fieldTags text (wrapDocument ("<p>".toList ++ escape text ++ "</p>\n".toList))
    rw [hwrite, wrapDocument_eq]
    refine isDocument_write hf ?_ ?_
    · have htags : tagsAll [lineFeed, .element (plainTag "p") [.text text], lineFeed]
          = [plainTag "p"] := rfl
      rw [htags, List.forall_mem_singleton]
      exact .inl (by decide)
    · have hcontent : contentAll [lineFeed, .element (plainTag "p") [.text text], lineFeed]
          = ['\n'] ++ text ++ ['\n'] := by
        simp [contentAll, Node.content, lineFeed]
      have hfeed : specials ['\n'] = [] := rfl
      rw [hcontent, specials_append, specials_append, hfeed, List.nil_append, List.append_nil]

/-- Every text is rendered as nothing, if it is empty, or as one well-formed document element and a
line feed, whichever way its field lists are laid out. -/
theorem renderText_wellFormed (text : Text) :
    (text = [] ∧ (renderText .definitions text).html = []
        ∨ IsDocument definitionTags text (renderText .definitions text).html)
      ∧ (text = [] ∧ (renderText .table text).html = []
        ∨ IsDocument tableTags text (renderText .table text).html) := by
  have hdefinitions : ∀ tag ∈ definitionTags, tag.IsReadable := by decide
  have htable : ∀ tag ∈ tableTags, tag.IsReadable := by decide
  by_cases h : text = []
  · subst h
    exact ⟨.inl ⟨rfl, rfl⟩, .inl ⟨rfl, rfl⟩⟩
  · exact ⟨.inr (isDocument_renderText draws_definitions isKnown_definitions hdefinitions h),
      .inr (isDocument_renderText draws_table isKnown_table htable h)⟩

end Testbook.Html
