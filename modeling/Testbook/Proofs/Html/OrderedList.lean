import Testbook.Proofs.Html.WellFormed
import Testbook.Proofs.Record.StepItems
import Testbook.Proofs.Text.Pieces
import Testbook.Record.Documented

/-!
Ordered lists come back from their HTML. The value of a field that holds one enumerated list is read
as a list of as many items, each the rendering of the item without outer blanks
(`orderedItems?_numbered`). The elements within items do not matter, since only those directly
within the outer list are its items. The value opens with the tag of the list, so the items can all be
cut out of it, and two such values pair up item by item (`cutSteps_numbered`).
-/

namespace Testbook.Html

open Testbook.Text Testbook.Markup

theorem filterMap_item?_itemNodes (layout : FieldLayout) (compact : Bool)
    (items : List (List Block)) : (itemNodes layout compact items).filterMap Node.item?
      = items.map fun item => trim (writeAll (blocksNodes layout compact item)) := by
  induction items with
  | nil => rfl
  | cons item items ih =>
    have hitem : (Node.element (plainTag "li") (blocksNodes layout compact item)).item?
        = some (trim (writeAll (blocksNodes layout compact item))) := by
      rw [Node.item?, if_pos (show (plainTag "li").name = "li".toList from rfl)]
    rw [itemNodes, List.filterMap_cons_some hitem, List.filterMap_cons_none rfl, ih, List.map_cons]

theorem fieldValue_numbered (numbering : Numbering) (start : Nat) (items : List (List Block)) :
    fieldValue [.numbered numbering start items]
      = (Node.element (numberedTag numbering start (items.all isSimpleItem))
          (lineFeed :: itemNodes .definitions (items.all isSimpleItem) items)).write ++ ['\n'] := by
  change renderBlocks .definitions false [.numbered numbering start items] = _
  rw [renderBlocks_eq draws_definitions, blocksNodes, blocksNodes, blockNodes]
  simp

/-- An enumerated list is read from its rendering as the renderings of its items. -/
theorem orderedItems?_numbered (numbering : Numbering) (start : Nat) (items : List (List Block)) :
    orderedItems? (fieldValue [.numbered numbering start items])
      = some (items.map fun item =>
          trim (renderBlocks .definitions (items.all isSimpleItem) item)) := by
  have hfields : ∀ tag ∈ definitionTags, tag.IsReadable := by decide
  have hknown := isKnown_itemNodes isKnown_definitions (items.all isSimpleItem) items
  have hreadable : ∀ tag ∈ (Node.element (numberedTag numbering start (items.all isSimpleItem))
      (lineFeed :: itemNodes .definitions (items.all isSimpleItem) items)).tags,
      tag.IsReadable := by
    rw [Node.tags, List.forall_mem_cons]
    exact ⟨isReadable_numberedTag .., fun tag h => (hknown tag h).isReadable hfields⟩
  rw [fieldValue_numbered, orderedItems?_write rfl hreadable, List.filterMap_cons_none rfl,
    filterMap_item?_itemNodes]
  simp only [renderBlocks_eq draws_definitions]

/-- An item of plain paragraph text is one element, with no blanks around it. -/
theorem trim_renderBlocks_paragraph (style : FieldStyle) (text : Text) :
    trim (renderBlocks style true [.paragraph text])
      = "<p>".toList ++ renderInline text ++ "</p>".toList := by
  have hrender : renderBlocks style true [.paragraph text]
      = "<p>".toList ++ renderInline text ++ "</p>".toList := by
    change "<p>".toList ++ renderInline text ++ "</p>".toList ++ [] ++ [] = _
    rw [List.append_nil, List.append_nil]
  have hstart : trimStart ("<p>".toList ++ renderInline text ++ "</p>".toList)
      = "<p>".toList ++ renderInline text ++ "</p>".toList :=
    List.dropWhile_cons_of_neg (by decide)
  rw [hrender, trim, hstart]
  exact trimEnd_append (by decide) rfl

/-! ### Pairs -/

/-- The items of a list, each rendered alone as it is in the list, without outer blanks. -/
def itemValues (items : List (List Block)) : List Text :=
  items.map fun item => trim (renderBlocks .definitions (items.all isSimpleItem) item)

theorem length_itemValues (items : List (List Block)) :
    (itemValues items).length = items.length := List.length_map ..

theorem pairUp_itemValues (items results : List (List Block)) :
    pairUp (itemValues items) (itemValues results) = true
      ↔ items ≠ [] ∧ items.length = results.length := by
  rw [pairUp, length_itemValues, length_itemValues, Bool.and_eq_true, decide_eq_true_eq]
  refine and_congr_left' ?_
  simp [itemValues]

theorem pairSteps_numbered (numbering numbering' : Numbering) (start start' : Nat)
    (items results : List (List Block)) :
    pairSteps (fieldValue [.numbered numbering start items])
        (fieldValue [.numbered numbering' start' results])
      = if items ≠ [] ∧ items.length = results.length
        then (itemValues items).zip (itemValues results)
        else [(fieldValue [.numbered numbering start items],
          fieldValue [.numbered numbering' start' results])] := by
  have hitems : orderedItems? _ = some (itemValues items) :=
    orderedItems?_numbered numbering start items
  have hresults : orderedItems? _ = some (itemValues results) :=
    orderedItems?_numbered numbering' start' results
  rw [pairSteps_of_lists hitems hresults]
  exact if_congr (pairUp_itemValues items results) rfl rfl

/-- The value opens with the tag of the list. -/
theorem head?_fieldValue_numbered (numbering : Numbering) (start : Nat) (items : List (List Block)) :
    (fieldValue [.numbered numbering start items]).head? ≠ some byteOrderMark := by
  have hbracket : (fieldValue [.numbered numbering start items]).head? = some '<' := by
    rw [fieldValue_numbered]
    rfl
  rw [hbracket]
  decide

/-- Whatever is in the items of two enumerated lists, their field values are read as the items of
the lists. As steps and results they pair up item by item when there are as many of both, and
otherwise are one pair as they are. -/
theorem cutSteps_numbered (numbering numbering' : Numbering) (start start' : Nat)
    (items results : List (List Block)) :
    readItems (fieldValue [.numbered numbering start items]) = .ok (some (itemValues items))
      ∧ (itemValues items).length = items.length
      ∧ cutSteps (fieldValue [.numbered numbering start items])
          (fieldValue [.numbered numbering' start' results])
        = .ok (if items ≠ [] ∧ items.length = results.length
          then (itemValues items).zip (itemValues results)
          else [(fieldValue [.numbered numbering start items],
            fieldValue [.numbered numbering' start' results])]) := by
  have hitems := head?_fieldValue_numbered numbering start items
  have hresults := head?_fieldValue_numbered numbering' start' results
  refine ⟨?_, length_itemValues items, ?_⟩
  · rw [(gives_readItems _).ok_of hitems]
    exact congrArg _ (orderedItems?_numbered numbering start items)
  · rw [(gives_cutSteps _ _).ok_of ⟨hitems, hresults⟩, pairSteps_numbered]

/-- A list within an item is part of the item, as is what looks like its end. -/
example : orderedItems? (fieldValue [.numbered .arabic 1
      [[.paragraph "é </li>", .numbered .lowerAlpha 2 [[.paragraph "x"], []]], [.literal "日"]]])
    = some ["<p>é &lt;/li&gt;</p>\n".toList ++ "<ol class=\"loweralpha simple\" start=\"2\">\n".toList
          ++ "<li><p>x</p></li>\n<li></li>\n</ol>".toList,
        "<pre class=\"literal-block\">日</pre>".toList] := by
  decide +kernel

end Testbook.Html
