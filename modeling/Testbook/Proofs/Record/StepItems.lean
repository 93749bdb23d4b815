import Testbook.Proofs.Html.Cut
import Testbook.Proofs.Record.Pairs

/-!
Steps and results cut out of their values. For values without a byte order mark reading never fails
on a cut, and each item is what stands between the tags of an item directly in the list
(`readItems_layout`). With a mark in front the positions of the reader are three bytes short, so
items are cut out at the wrong place, or nothing can be cut at all.
-/

namespace Testbook

open Testbook.Text Testbook.Html

/-- Values of which one is no list are one pair, and nothing is cut. -/
theorem cutSteps_of_not_list {steps expected : Text}
    (h : orderedItems? steps = none ∨ orderedItems? expected = none) :
    cutSteps steps expected = .ok [(steps, expected)] := by
  have hother {value : Text} {root : Element} (hroot : parseFragment value = some root)
      (hvalue : orderedItems? value = none) : root.name ≠ "ol".toList := by
    rw [orderedItems?, hroot, Option.bind_some] at hvalue
    intro hname
    rw [if_pos hname] at hvalue
    cases hvalue
  rw [cutSteps]
  split
  · next list results hlist hresults =>
    refine if_neg fun hnames => ?_
    rcases h with h | h
    · exact hother hlist h hnames.1
    · exact hother hresults h hnames.2
  · rfl

/-- The pairs of items that are cut out are the pairs of the two values, and without a byte order mark
they are there. -/
theorem gives_cutSteps (steps expected : Text) : Gives (cutSteps steps expected)
    (steps.head? ≠ some byteOrderMark ∧ expected.head? ≠ some byteOrderMark)
    (pairSteps steps expected) := by
  by_cases h : orderedItems? steps = none ∨ orderedItems? expected = none
  · rw [cutSteps_of_not_list h, pairSteps_of_not_list h]
    exact .ok _
  · obtain ⟨hs, hr⟩ := not_or.1 h
    obtain ⟨items, hitems⟩ := Option.ne_none_iff_exists'.1 hs
    obtain ⟨outcomes, houtcomes⟩ := Option.ne_none_iff_exists'.1 hr
    obtain ⟨list, hlist, hname, rfl⟩ := orderedItems?_eq_some hitems
    obtain ⟨results, hresults, hname', rfl⟩ := orderedItems?_eq_some houtcomes
    rw [pairSteps_of_lists hitems houtcomes, cutSteps, hlist, hresults]
    simp only
    rw [if_pos ⟨hname, hname'⟩]
    exact ((gives_cutItems hlist).of_stronger And.left).bind
      (((gives_cutItems hresults).of_stronger And.right).bind (.ok _))

/-- Without a byte order mark in front, reading the items of a value never fails on a cut. When it
gives a list of them, the value is cut into its tokens, those of one list among them with blanks and
comments around it, and the items are what stands between the tags of the items directly in this
list, trimmed. So they are parts of the value in order, none in another. Two such values are always
paired, in one pair at least. -/
theorem readItems_layout (value : Text) (hv : value.head? ≠ some byteOrderMark) :
    readItems value = .ok (orderedItems? value)
    ∧ (∀ items, orderedItems? value = some items → ∃ layout : Layout value,
      layout.name = "ol" ∧ items = itemsOf layout.children ∧ AreInOrder items value)
    ∧ ∀ other : Text, pairSteps value other ≠ []
      ∧ (other.head? ≠ some byteOrderMark →
        cutSteps value other = .ok (pairSteps value other)) := by
  refine ⟨(gives_readItems value).ok_of hv, fun items h => ?_, fun other =>
    ⟨pairSteps_ne_nil value other, fun hother => (gives_cutSteps value other).ok_of ⟨hv, hother⟩⟩⟩
  obtain ⟨layout, hname, rfl⟩ := exists_layout_of_orderedItems? hv h
  exact ⟨layout, hname, rfl, layout.areInOrder⟩

/-- Three items among a comment, characters that are not markup and a list further within, with
characters of several bytes. -/
theorem readItems_layout_three :
    let value : Text := "<!-- 日 --> <ol class='é>'><li>日<b>x</b></li> <li/>"
      ++ "<p><li>no</li></p><![CDATA[<li>]]><li >y </li ></ol>\n"
    let other : Text := "<ol><li>1</li><li>2</li><li>3</li></ol>"
    let items : List Text := ["日<b>x</b>", "", "y"]
    let outcomes : List Text := ["1", "2", "3"]
    value.head? ≠ some byteOrderMark ∧ other.head? ≠ some byteOrderMark
      ∧ readItems value = .ok (some items)
      ∧ (∃ layout : Layout value, layout.name = "ol" ∧ items = itemsOf layout.children)
      ∧ AreInOrder items value
      ∧ cutSteps value other = .ok (items.zip outcomes) := by
  intro value other items outcomes
  have hv : value.head? ≠ some byteOrderMark := by decide +kernel
  have hw : other.head? ≠ some byteOrderMark := by decide +kernel
  have hitems : orderedItems? value = some items := by decide +kernel
  have hpairs : pairSteps value other = items.zip outcomes := by decide +kernel
  obtain ⟨hread, hlayout, hcut⟩ := readItems_layout value hv
  obtain ⟨layout, hname, hchildren, horder⟩ := hlayout items hitems
  exact ⟨hv, hw, by rw [hread, hitems], ⟨layout, hname, hchildren⟩, horder,
    by rw [(hcut other).2 hw, hpairs]⟩

/-- Behind a byte order mark the item is not what stands between its tags, and where a character of
several bytes stands at the end of a tag there is nothing to cut out. -/
theorem readItems_marked :
    orderedItems? "<ol><li>abc</li></ol>" = some ["abc".toList]
      ∧ readItems "\ufeff<ol><li>abc</li></ol>" = .ok (some ["li>".toList])
      ∧ readItems "\ufeff<ol><li 日>x</li></ol>" = .error ⟨12, 13⟩
      ∧ cutSteps "\ufeff<ol><li 日>x</li></ol>" "<ol><li>y</li></ol>" = .error ⟨12, 13⟩ := by
  decide +kernel

end Testbook
