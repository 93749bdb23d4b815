import Testbook.Proofs.Html.Reading
import Testbook.Proofs.Markup.Shape
import Testbook.Proofs.Text.Decimal
import Testbook.Proofs.Text.Replace

/-!
Tables from definition lists. The two styles of field lists differ in their tags alone: seven texts
replaced one after the other (`tableRules`) make of a document with definition lists the same document
with tables (`renderDocument_table`). The text of a document has no opening bracket, so nothing but the
tags of the renderer is replaced; the tags are replaced one by one (`Becomes`), except that `<dd>` is
the beginning of two of the texts, and what follows it decides (`becomes_body`).
-/

namespace Testbook.Html

open Testbook.Text Testbook.Markup

/-- What is replaced, in this order, and by what. -/
def tableRules : List (Text × Text) := [
  ("<dl class=\"field-list", "<table class=\"field-list"),
  ("</dl>", "</table>"),
  ("<dt>", "<tr><th>"),
  ("<span class=\"colon\">:</span></dt>", "</th>"),
  ("<dd></dd>\n", "<td><p></p></td>\n</tr>\n"),
  ("<dd>", "<td>"),
  ("</dd>\n", "</td>\n</tr>\n")]

/-- Html with tables in place of definition lists. -/
def tabled (html : Text) : Text := replaceAll tableRules html

/-- A part of html becomes another, whatever follows it. -/
def Becomes (part new : Text) : Prop := ∀ rest, tabled (part ++ rest) = new ++ tabled rest

theorem Becomes.eq {part new : Text} (h : Becomes part new) : tabled part = new := by
  have hnil : tabled [] = [] := rfl
  have heq := h []
  rwa [List.append_nil, hnil, List.append_nil] at heq

theorem Becomes.append {a a' b b' : Text} (ha : Becomes a a') (hb : Becomes b b') :
    Becomes (a ++ b) (a' ++ b') := by
  intro rest
  rw [List.append_assoc, ha, hb, List.append_assoc]

theorem becomes_nil : Becomes [] [] := fun _ => rfl

theorem becomes_of_areApart {part new : Text} (hapart : areApart tableRules part = true)
    (hnew : tabled part = new) : Becomes part new := by
  intro rest
  rw [tabled, replaceAll_append hapart]
  exact congrArg (· ++ tabled rest) hnew

theorem becomes_self {text : Text} (h : '<' ∉ text) : Becomes text text :=
  have hsame := replaceAll_of_head?_not_mem (by decide : ∀ rule ∈ tableRules, rule.1.head? = some '<') h
  becomes_of_areApart hsame.2 hsame.1

/-! ### What stays -/

/-- The fixed texts between which the two styles do not differ. -/
def keptTags : List Text := [
  "<p>", "</p>", "<ul>\n", "<ul class=\"simple\">\n", "</ul>\n", "<ol class=\"", "</ol>\n", "<li>",
  "</li>\n", "<blockquote>\n", "</blockquote>\n", "<pre class=\"literal-block\">", "</pre>\n",
  "<span class=\"docutils literal\">", "</span>", "<strong>", "</strong>", "<em>", "</em>",
  "<div class=\"document\">\n", "</div>\n"]

theorem becomes_tag {tag : Text} (h : tag ∈ keptTags) : Becomes tag tag := by
  have hall : ∀ tag ∈ keptTags, areApart tableRules tag = true ∧ tabled tag = tag := by
    decide +kernel
  exact becomes_of_areApart (hall tag h).1 (hall tag h).2

/-- What stands between tags that stay becomes another on its own. -/
theorem Becomes.enclosed {opening inner new closing : Text} (h : Becomes inner new)
    (hopening : opening ∈ keptTags) (hclosing : closing ∈ keptTags) :
    Becomes (opening ++ inner ++ closing) (opening ++ new ++ closing) :=
  ((becomes_tag hopening).append h).append (becomes_tag hclosing)

theorem becomes_escape (text : Text) : Becomes (escape text) (escape text) := by
  rw [← writeText_eq_escape]
  exact becomes_self (not_mem_writeText text)

theorem becomes_renderPiece (piece : Inline) : Becomes (renderPiece piece) (renderPiece piece) := by
  cases piece with
  | text s => exact becomes_escape s
  | strong s => exact (becomes_escape s).enclosed (by decide) (by decide)
  | emphasis s => exact (becomes_escape s).enclosed (by decide) (by decide)
  | literal s => exact (becomes_escape s).enclosed (by decide) (by decide)
  | role name s => exact (becomes_escape s).enclosed (by decide) (by decide)

theorem becomes_renderInline (text : Text) : Becomes (renderInline text) (renderInline text) := by
  rw [renderInline]
  induction parseInline text with
  | nil => exact becomes_nil
  | cons piece pieces ih =>
    rw [List.flatMap_cons]
    exact (becomes_renderPiece piece).append ih

theorem becomes_bulletOpening (simple : Bool) :
    Becomes (if simple then "<ul class=\"simple\">\n" else "<ul>\n").toList
      (if simple then "<ul class=\"simple\">\n" else "<ul>\n").toList := by
  cases simple
  · exact becomes_tag (by decide)
  · exact becomes_tag (by decide)

theorem becomes_numberedOpening (numbering : Numbering) (start : Nat) (simple : Bool) :
    Becomes (numberedOpening numbering start simple) (numberedOpening numbering start simple) := by
  have hname : Becomes numbering.name numbering.name := becomes_self (by cases numbering <;> decide)
  have hclass : Becomes (classEnd simple) (classEnd simple) :=
    becomes_self (by cases simple <;> decide)
  have hstart : Becomes (startAttribute start) (startAttribute start) := by
    have hdecimal : '<' ∉ decimal start := fun h =>
      absurd (isDigit_of_mem_decimal h) (by decide)
    unfold startAttribute
    split
    · exact becomes_nil
    · exact ((becomes_self (by decide)).append (becomes_self hdecimal)).append
        (becomes_self (by decide))
  exact ((((becomes_tag (by decide)).append hname).append hclass).append hstart).append
    (becomes_self (by decide))

/-! ### Field bodies -/

/-- The texts with which rendered blocks begin. -/
def blockStarts : List Text := [
  "<p>", "<ul", "<ol class=\"", "<dl class=\"field-list", "<blockquote>\n",
  "<pre class=\"literal-block\">"]

theorem exists_blockStart (compact : Bool) (block : Block) :
    ∃ start ∈ blockStarts, start <+: renderBlock .definitions compact block := by
  cases block with
  | paragraph text =>
    refine ⟨"<p>", by decide, ?_⟩
    change "<p>".toList <+: "<p>".toList ++ renderInline text ++ _ ++ _
    simp only [List.append_assoc, List.prefix_append]
  | bullets items =>
    have htag : "<ul".toList
        <+: (if items.all isSimpleItem then "<ul class=\"simple\">\n" else "<ul>\n").toList := by
      split <;> decide
    refine ⟨"<ul", by decide, ?_⟩
    change _ <+: (if items.all isSimpleItem then "<ul class=\"simple\">\n" else "<ul>\n").toList
      ++ _ ++ _
    exact (htag.trans (List.prefix_append _ _)).trans (List.prefix_append _ _)
  | numbered numbering start items =>
    refine ⟨"<ol class=\"", by decide, ?_⟩
    change "<ol class=\"".toList <+: "<ol class=\"".toList ++ numbering.name ++ _ ++ _ ++ _ ++ _ ++ _
    simp only [List.append_assoc, List.prefix_append]
  | fields entries =>
    refine ⟨"<dl class=\"field-list", by decide, ?_⟩
    change "<dl class=\"field-list".toList <+: "<dl class=\"field-list".toList ++ _ ++ _ ++ _ ++ _
    simp only [List.append_assoc, List.prefix_append]
  | quote blocks =>
    refine ⟨"<blockquote>\n", by decide, ?_⟩
    change "<blockquote>\n".toList <+: "<blockquote>\n".toList ++ _ ++ _
    simp only [List.append_assoc, List.prefix_append]
  | literal text =>
    refine ⟨"<pre class=\"literal-block\">", by decide, ?_⟩
    change "<pre class=\"literal-block\">".toList <+: "<pre class=\"literal-block\">".toList ++ _ ++ _
    simp only [List.append_assoc, List.prefix_append]

/-- A body that begins with a block is opened by `<dd>` alone: what opens an empty body does not stand
there. -/
theorem becomes_body {body new start : Text} (h : Becomes body new) (hstart : start ∈ blockStarts)
    (hbody : start <+: body) : Becomes ("<dd>" ++ body) ("<td>" ++ new) := by
  have hall : ∀ start ∈ blockStarts, areApart tableRules start = true
      ∧ areApart tableRules ("<dd>" ++ start) = true
      ∧ tabled ("<dd>" ++ start) = "<td>" ++ tabled start := by
    decide +kernel
  obtain ⟨hstartApart, happart, hopened⟩ := hall start hstart
  obtain ⟨more, rfl⟩ := hbody
  intro rest
  calc tabled ("<dd>" ++ (start ++ more) ++ rest)
      = tabled ("<dd>" ++ start ++ (more ++ rest)) := by simp only [List.append_assoc]
    _ = "<td>" ++ tabled start ++ tabled (more ++ rest) := by
      rw [tabled, replaceAll_append happart]
      exact congrArg (· ++ tabled (more ++ rest)) hopened
    _ = "<td>" ++ tabled (start ++ more ++ rest) := by
      rw [List.append_assoc, List.append_assoc, tabled, tabled, tabled,
        replaceAll_append hstartApart]
    _ = "<td>" ++ new ++ tabled rest := by rw [h rest, List.append_assoc]

/-! ### Blocks -/

mutual

/-- A block with its field lists as definition lists becomes the block with tables. -/
theorem becomes_renderBlock (compact : Bool) :
    ∀ block, Becomes (renderBlock .definitions compact block) (renderBlock .table compact block)
  | .paragraph text => by
    have hend : Becomes (if compact then [] else ['\n']) (if compact then [] else ['\n']) :=
      becomes_self (by cases compact <;> decide)
    exact ((becomes_renderInline text).enclosed (by decide) (by decide)).append hend
  | .bullets items => by
    have hitems := becomes_renderItems (items.all isSimpleItem) items
    exact ((becomes_bulletOpening (items.all isSimpleItem)).append hitems).append
      (becomes_tag (by decide))
  | .numbered numbering start items => by
    have hitems := becomes_renderItems (items.all isSimpleItem) items
    exact ((becomes_numberedOpening numbering start _).append hitems).append
      (becomes_tag (by decide))
  | .fields entries => by
    have hentries := becomes_renderEntries entries
    have hopening : Becomes "<dl class=\"field-list" "<table class=\"field-list" :=
      becomes_of_areApart (by decide +kernel) (by decide +kernel)
    have hclass : Becomes (classEnd (entries.all (·.2.length ≤ 1)))
        (classEnd (entries.all (·.2.length ≤ 1))) :=
      becomes_self (by cases entries.all (·.2.length ≤ 1) <;> decide)
    have hclosing : Becomes "</dl>\n" "</table>\n" :=
      becomes_of_areApart (by decide +kernel) (by decide +kernel)
    exact (((hopening.append hclass).append (becomes_self (by decide))).append hentries).append
      hclosing
  | .quote blocks => by
    have hblocks := becomes_renderBlocks false blocks
    exact hblocks.enclosed (by decide) (by decide)
  | .literal text => (becomes_escape text).enclosed (by decide) (by decide)

theorem becomes_renderBlocks (compact : Bool) :
    ∀ blocks, Becomes (renderBlocks .definitions compact blocks) (renderBlocks .table compact blocks)
  | [] => becomes_nil
  | block :: blocks =>
    (becomes_renderBlock compact block).append (becomes_renderBlocks compact blocks)

theorem becomes_renderItems (compact : Bool) :
    ∀ items, Becomes (renderItems .definitions compact items) (renderItems .table compact items)
  | [] => becomes_nil
  | item :: items => by
    have hitem := becomes_renderBlocks compact item
    have hitems := becomes_renderItems compact items
    exact (hitem.enclosed (by decide) (by decide)).append hitems

theorem becomes_renderEntries :
    ∀ entries, Becomes (renderEntries .definitions entries) (renderEntries .table entries)
  | [] => becomes_nil
  | (name, body) :: entries => by
    have hentries := becomes_renderEntries entries
    have hopening : Becomes "<dt>" "<tr><th>" :=
      becomes_of_areApart (by decide +kernel) (by decide +kernel)
    have hname : Becomes "<span class=\"colon\">:</span></dt>\n" "</th>\n" :=
      becomes_of_areApart (by decide +kernel) (by decide +kernel)
    have hhead := (hopening.append (becomes_escape name)).append hname
    cases body with
    | nil =>
      have hempty : Becomes ("<dd>" ++ "</dd>\n") ("<td>" ++ "<p></p>" ++ "</td>\n" ++ "</tr>\n") :=
        becomes_of_areApart (by decide +kernel) (by decide +kernel)
      have hentry := (hhead.append hempty).append hentries
      change Becomes (_ ++ _ ++ _ ++ "<dd>".toList ++ [] ++ [] ++ "</dd>\n".toList ++ [] ++ _)
        (_ ++ _ ++ _ ++ "<td>".toList ++ "<p></p>".toList ++ [] ++ "</td>\n".toList
          ++ "</tr>\n".toList ++ _)
      simp only [List.append_assoc, List.nil_append] at hentry ⊢
      exact hentry
    | cons block blocks =>
      have hbody := becomes_renderBlocks false (block :: blocks)
      obtain ⟨start, hstart, hfront⟩ := exists_blockStart false block
      have hopened := becomes_body hbody hstart (hfront.trans (List.prefix_append _ _))
      have hclosing : Becomes "</dd>\n" ("</td>\n" ++ "</tr>\n") :=
        becomes_of_areApart (by decide +kernel) (by decide +kernel)
      have hentry := ((hhead.append hopened).append hclosing).append hentries
      change Becomes (_ ++ _ ++ _ ++ "<dd>".toList ++ [] ++ _ ++ "</dd>\n".toList ++ [] ++ _)
        (_ ++ _ ++ _ ++ "<td>".toList ++ [] ++ _ ++ "</td>\n".toList ++ "</tr>\n".toList ++ _)
      simp only [List.append_assoc, List.nil_append] at hentry ⊢
      exact hentry

end

/-! ### Documents -/

mutual

/-- A block without field lists is rendered alike in all styles. -/
theorem renderBlock_congr (style : FieldStyle) (compact : Bool) :
    ∀ block, (∀ entries, ¬ IsWithin (.fields entries) [block]) →
      renderBlock style compact block = renderBlock .definitions compact block
  | .paragraph text, _ => rfl
  | .bullets items, h => by
    have hitems := renderItems_congr style (items.all isSimpleItem) items fun item hitem entries hin =>
      h entries (.deeper (List.mem_singleton_self _) hitem hin)
    exact congrArg (_ ++ · ++ _) hitems
  | .numbered numbering start items, h => by
    have hitems := renderItems_congr style (items.all isSimpleItem) items fun item hitem entries hin =>
      h entries (.deeper (List.mem_singleton_self _) hitem hin)
    exact congrArg (_ ++ · ++ _) hitems
  | .fields entries, h => absurd (.here (List.mem_singleton_self _)) (h entries)
  | .quote blocks, h => by
    have hblocks := renderBlocks_congr style false blocks fun entries hin =>
      h entries (.deeper (List.mem_singleton_self _) (List.mem_singleton_self _) hin)
    exact congrArg (_ ++ · ++ _) hblocks
  | .literal text, _ => rfl

theorem renderBlocks_congr (style : FieldStyle) (compact : Bool) :
    ∀ blocks, (∀ entries, ¬ IsWithin (.fields entries) blocks) →
      renderBlocks style compact blocks = renderBlocks .definitions compact blocks
  | [], _ => rfl
  | block :: blocks, h => by
    have hblock := renderBlock_congr style compact block fun entries hin =>
      h entries (hin.mono fun b hb => List.mem_cons.2 (.inl (List.mem_singleton.1 hb)))
    have hblocks := renderBlocks_congr style compact blocks fun entries hin =>
      h entries (hin.mono fun b => List.mem_cons_of_mem block)
    exact congrArg₂ (· ++ ·) hblock hblocks

theorem renderItems_congr (style : FieldStyle) (compact : Bool) :
    ∀ items, (∀ item ∈ items, ∀ entries, ¬ IsWithin (.fields entries) item) →
      renderItems style compact items = renderItems .definitions compact items
  | [], _ => rfl
  | item :: items, h => by
    have hitem := renderBlocks_congr style compact item (h item List.mem_cons_self)
    have hitems := renderItems_congr style compact items fun i hi =>
      h i (List.mem_cons_of_mem item hi)
    exact congrArg₂ (_ ++ · ++ _ ++ ·) hitem hitems

end

theorem becomes_renderDocument (document : Document) :
    Becomes (renderDocument .definitions document) (renderDocument .table document) :=
  (becomes_renderBlocks false document.blocks).enclosed (by decide) (by decide)

/-- The two styles differ by fixed texts: with these replaced, a document with its field lists as
definition lists is the document with them as tables, and a document without field lists is rendered
alike. -/
theorem renderDocument_table (document : Document) :
    renderDocument .table document = replaceAll tableRules (renderDocument .definitions document)
      ∧ ((∀ entries, ¬ IsWithin (.fields entries) document.blocks) →
        renderDocument .table document = renderDocument .definitions document) :=
  ⟨(becomes_renderDocument document).eq.symm,
    fun h => congrArg wrapDocument (renderBlocks_congr .table false document.blocks h)⟩

/-- A list without fields, whose text looks like a tag that is replaced. -/
theorem renderDocument_table_list :
    (∀ entries, ¬ IsWithin (.fields entries) [.bullets [[.paragraph "a </dl>"]]])
      ∧ renderDocument .table ⟨[.bullets [[.paragraph "a </dl>"]]], []⟩
        = renderDocument .definitions ⟨[.bullets [[.paragraph "a </dl>"]]], []⟩ := by
  have hnone : ∀ entries, ¬ IsWithin (.fields entries) [.bullets [[.paragraph "a </dl>"]]] := by
    intro entries h
    cases h with
    | here h => cases List.mem_singleton.1 h
    | deeper houter hbody h =>
      obtain rfl := List.mem_singleton.1 houter
      obtain rfl := List.mem_singleton.1 hbody
      cases h with
      | here h => cases List.mem_singleton.1 h
      | deeper houter hbody h =>
        obtain rfl := List.mem_singleton.1 houter
        cases hbody
  exact ⟨hnone, (renderDocument_table _).2 hnone⟩

end Testbook.Html
