import Testbook.Proofs.Html.WellFormed
import Testbook.Record.Documented

/-!
The text that html shows: what is left when its tags are taken out and its entities are read as the
characters they stand for. In what is written as a tree, a bracket stands at the ends of tags only and
an ampersand at the front of entities only, so the text shown is the text in the tree, once each
character (`shownText_writeAll`). For a paragraph that is what the paragraph says without its marks
(`shownText_renderInline`).
-/

namespace Testbook.Html

open Testbook.Text Testbook.Markup

/-- The text without its tags, each from its opening bracket to the next closing one; `inTag` tells
whether the text begins within a tag. -/
def withoutTags (inTag : Bool) : Text → Text
  | [] => []
  | c :: cs =>
    if inTag then withoutTags (c != '>') cs
    else if c = '<' then withoutTags true cs
    else c :: withoutTags false cs

/-- The text with each entity read as the character it stands for. What is read is not read again. -/
def decodeEntities : Text → Text
  | '&' :: 'a' :: 'm' :: 'p' :: ';' :: rest => '&' :: decodeEntities rest
  | '&' :: 'l' :: 't' :: ';' :: rest => '<' :: decodeEntities rest
  | '&' :: 'g' :: 't' :: ';' :: rest => '>' :: decodeEntities rest
  | '&' :: 'q' :: 'u' :: 'o' :: 't' :: ';' :: rest => '"' :: decodeEntities rest
  | '&' :: '#' :: '6' :: '4' :: ';' :: rest => '@' :: decodeEntities rest
  | c :: rest => c :: decodeEntities rest
  | [] => []

/-- The text that html shows. -/
def shownText (html : Text) : Text := decodeEntities (withoutTags false html)

variable {text : Text} {c : Char}

/-! ### Tags -/

theorem withoutTags_text (h : '<' ∉ text) (rest : Text) :
    withoutTags false (text ++ rest) = text ++ withoutTags false rest := by
  induction text with
  | nil => rfl
  | cons c cs ih =>
    rw [List.mem_cons, not_or] at h
    rw [List.cons_append, withoutTags, if_neg (by decide), if_neg (Ne.symm h.1), ih h.2,
      List.cons_append]

theorem withoutTags_inTag (h : '>' ∉ text) (rest : Text) :
    withoutTags true (text ++ '>' :: rest) = withoutTags false rest := by
  induction text with
  | nil => rw [List.nil_append, withoutTags, if_pos rfl, bne_self_eq_false]
  | cons c cs ih =>
    rw [List.mem_cons, not_or] at h
    have hc : (c != '>') = true := bne_iff_ne.2 (Ne.symm h.1)
    rw [List.cons_append, withoutTags, if_pos rfl, hc, ih h.2]

theorem withoutTags_tag (h : '>' ∉ text) (rest : Text) :
    withoutTags false ('<' :: text ++ '>' :: rest) = withoutTags false rest := by
  rw [List.cons_append, withoutTags, if_neg (by decide), if_pos rfl, withoutTags_inTag h]

theorem withoutTags_opening {tag : Tag} (h : '>' ∉ tag.inside) (rest : Text) :
    withoutTags false (tag.opening ++ rest) = withoutTags false rest := by
  have htag := withoutTags_tag h rest
  rwa [Tag.opening, List.append_assoc, List.singleton_append]

theorem withoutTags_closing {tag : Tag} (h : '>' ∉ tag.inside) (rest : Text) :
    withoutTags false (tag.closing ++ rest) = withoutTags false rest := by
  have hname : '>' ∉ '/' :: tag.name := by
    rw [List.mem_cons, not_or]
    exact ⟨by decide, fun hmem => h (List.mem_append_left _ hmem)⟩
  have htag := withoutTags_tag hname rest
  rwa [Tag.closing, List.append_assoc, List.singleton_append]

mutual

/-- Of a node nothing but its texts is outside tags. -/
theorem withoutTags_write (rest : Text) : ∀ node : Node, (∀ tag ∈ node.tags, '>' ∉ tag.inside) →
    withoutTags false (node.write ++ rest) = writeText node.content ++ withoutTags false rest
  | .text content, _ => by
    rw [write_text, withoutTags_text (not_mem_writeText content), Node.content]
  | .element tag children, h => by
    rw [Node.tags, List.forall_mem_cons] at h
    have hchildren := withoutTags_writeAll (tag.closing ++ rest) children h.2
    rw [write_element, List.append_assoc, List.append_assoc, withoutTags_opening h.1, hchildren,
      withoutTags_closing h.1, Node.content]

theorem withoutTags_writeAll (rest : Text) :
    ∀ nodes : List Node, (∀ tag ∈ tagsAll nodes, '>' ∉ tag.inside) →
      withoutTags false (writeAll nodes ++ rest)
        = writeText (contentAll nodes) ++ withoutTags false rest
  | [], _ => rfl
  | node :: nodes, h => by
    rw [tagsAll, List.forall_mem_append] at h
    have hnode := withoutTags_write (writeAll nodes ++ rest) node h.1
    have hnodes := withoutTags_writeAll rest nodes h.2
    rw [writeAll, List.append_assoc, hnode, hnodes, contentAll, writeText, writeText, writeText,
      List.flatMap_append, List.append_assoc]

end

/-! ### Entities -/

theorem decodeEntities_cons (h : c ≠ '&') (rest : Text) :
    decodeEntities (c :: rest) = c :: decodeEntities rest := by
  conv_lhs => unfold decodeEntities
  split <;> simp_all

theorem decodeEntities_entity {entity : Text} (h : entity? c = some entity) (rest : Text) :
    decodeEntities (entity ++ rest) = c :: decodeEntities rest := by
  unfold entity? at h
  split at h
  · cases h; rfl
  · cases h; rfl
  · cases h; rfl
  · cases h; rfl
  · cases h; rfl
  · cases h

/-- Reading the entities of a written text gives the text. -/
theorem decodeEntities_writeText (text : Text) : decodeEntities (writeText text) = text := by
  induction text with
  | nil => rfl
  | cons c cs ih =>
    have hcons : writeText (c :: cs) = (entity? c).getD [c] ++ writeText cs := List.flatMap_cons
    rw [hcons]
    cases he : entity? c with
    | some entity => rw [Option.getD_some, decodeEntities_entity he, ih]
    | none =>
      have hc : c ≠ '&' := by
        rintro rfl
        cases he
      rw [Option.getD_none, List.singleton_append, decodeEntities_cons hc, ih]

/-! ### What is shown -/

/-- What is written as a tree shows the texts in the tree. -/
theorem shownText_writeAll {nodes : List Node} (h : ∀ tag ∈ tagsAll nodes, '>' ∉ tag.inside) :
    shownText (writeAll nodes) = contentAll nodes := by
  have hwritten := withoutTags_writeAll [] nodes h
  have hnil : withoutTags false [] = [] := rfl
  rw [List.append_nil, hnil, List.append_nil] at hwritten
  rw [shownText, hwritten, decodeEntities_writeText]

theorem bracket_not_mem_inlineNodes (text : Text) :
    ∀ tag ∈ tagsAll (inlineNodes text), '>' ∉ tag.inside := by
  have hcommon : ∀ tag ∈ commonTags, '>' ∉ tag.inside := by decide
  exact fun tag h => hcommon tag (tags_inlineNodes text tag h)

/-- A paragraph shows what it says without its marks. That is also the value of a field whose body is
the paragraph, and what the body shows. -/
theorem shownText_renderInline (text : Text) :
    shownText (renderInline text) = textContent text
      ∧ fieldValue [.paragraph text] = shownText (renderBlocks .definitions true [.paragraph text]) := by
  have hcontent : contentAll (inlineNodes text) = textContent text :=
    contentAll_map_pieceNode (parseInline text)
  have htags : ∀ tag ∈ tagsAll (blocksNodes .definitions true [.paragraph text]),
      '>' ∉ tag.inside := by
    have hall : tagsAll (blocksNodes .definitions true [.paragraph text])
        = plainTag "p" :: tagsAll (inlineNodes text) := by
      simp [blocksNodes, blockNodes, tagsAll, Node.tags]
    rw [hall, List.forall_mem_cons]
    exact ⟨by decide, bracket_not_mem_inlineNodes text⟩
  have hbody : contentAll (blocksNodes .definitions true [.paragraph text])
      = contentAll (inlineNodes text) := by
    simp [blocksNodes, blockNodes, contentAll, Node.content]
  refine ⟨?_, ?_⟩
  · rw [renderInline_eq, shownText_writeAll (bracket_not_mem_inlineNodes text), hcontent]
  · rw [renderBlocks_eq draws_definitions, shownText_writeAll htags, hbody, hcontent]
    rfl

/-- Entities that are in the text already are shown as they are. -/
example : shownText (renderInline "*a < b* &amp;lt; \x60\x60<i>\x60\x60")
    = "a < b &amp;lt; <i>".toList := by decide +kernel

end Testbook.Html
