import Testbook.Proofs.Html.Layout
import Testbook.Proofs.Results

/-!
Items cut out of a text. A cut goes just when its borders are between characters
(`cut?_eq_some_iff`). The bytes between the tags of an element are such a cut of a text without a
byte order mark, so all items are there (`gives_readItems`), they are what stands between their tags
(`exists_layout_of_orderedItems?`) and they stand in the text in order (`Layout.areInOrder`). The
mark is what can spoil this: the reader does not count it.
-/

namespace Testbook.Html

open Testbook.Text

variable {text content : Text} {start stop : Nat}

/-! ### Borders -/

/-- A text is split where its front has as many bytes as told. -/
theorem splitAtByte?_eq_some_iff {n : Nat} {front rest : Text} :
    splitAtByte? n text = some (front, rest) ↔ text = front ++ rest ∧ utf8Length front = n := by
  fun_induction splitAtByte? n text generalizing front with
  | case1 text =>
    rw [Option.some.injEq, Prod.mk.injEq]
    constructor
    · rintro ⟨rfl, rfl⟩
      exact ⟨rfl, rfl⟩
    · rintro ⟨rfl, hfront⟩
      cases front with
      | nil => exact ⟨rfl, rfl⟩
      | cons c cs =>
        have hpos := c.utf8Size_pos
        rw [utf8Length_cons] at hfront
        omega
  | case2 n =>
    refine iff_of_false (by simp) ?_
    rintro ⟨htext, hfront⟩
    rw [(List.append_eq_nil_iff.1 htext.symm).1] at hfront
    cases hfront
  | case3 n c cs hc ih =>
    rw [Option.map_eq_some_iff]
    constructor
    · rintro ⟨⟨inner, behind⟩, hsplit, he⟩
      obtain ⟨rfl, rfl⟩ := Prod.mk.inj he
      obtain ⟨rfl, hlength⟩ := ih.1 hsplit
      exact ⟨rfl, by rw [utf8Length_cons]; omega⟩
    · rintro ⟨htext, hfront⟩
      cases front with
      | nil => cases hfront
      | cons d inner =>
        obtain ⟨rfl, rfl⟩ := List.cons.inj htext
        rw [utf8Length_cons] at hfront
        exact ⟨(inner, rest), ih.2 ⟨rfl, by omega⟩, rfl⟩
  | case4 n c cs hc =>
    refine iff_of_false (by simp) ?_
    rintro ⟨htext, hfront⟩
    cases front with
    | nil => cases hfront
    | cons d inner =>
      obtain ⟨rfl, rfl⟩ := List.cons.inj htext
      rw [utf8Length_cons] at hfront
      omega

/-- There is something between two borders when it has that many bytes and stands at that byte. -/
theorem cut?_eq_some_iff : cut? start stop text = some content ↔ ∃ front behind,
    text = front ++ content ++ behind ∧ utf8Length front = start
      ∧ start + utf8Length content = stop := by
  rw [cut?]
  split
  · next hle =>
    simp only [Option.bind_eq_bind, Option.bind_eq_some_iff, Option.pure_def, Option.some.injEq]
    constructor
    · rintro ⟨⟨front, rest⟩, hfront, ⟨inner, behind⟩, hinner, hcontent⟩
      obtain ⟨rfl, hstart⟩ := splitAtByte?_eq_some_iff.1 hfront
      obtain ⟨rfl, hlength⟩ := splitAtByte?_eq_some_iff.1 hinner
      obtain rfl : inner = content := hcontent
      exact ⟨front, behind, (List.append_assoc ..).symm, hstart, by omega⟩
    · rintro ⟨front, behind, rfl, hstart, hstop⟩
      exact ⟨(front, content ++ behind), splitAtByte?_eq_some_iff.2 ⟨List.append_assoc .., hstart⟩,
        (content, behind), splitAtByte?_eq_some_iff.2 ⟨rfl, by omega⟩, rfl⟩
  · next hle =>
    refine iff_of_false (by simp) ?_
    rintro ⟨front, behind, -, -, hstop⟩
    omega

theorem cut_eq_ok_iff : cut start stop text = .ok content ↔ cut? start stop text = some content := by
  rw [cut]
  cases cut? start stop text <;> simp

/-- What is cut out are the characters that begin in between. -/
theorem slice_of_cut (h : cut start stop text = .ok content) : slice start stop 0 text = content := by
  obtain ⟨front, behind, rfl, rfl, rfl⟩ := cut?_eq_some_iff.1 (cut_eq_ok_iff.1 h)
  exact slice_middle front content behind

/-! ### Parts in order -/

/-- Texts that stand in a text one behind the other, none in another. -/
def AreInOrder : List Text → Text → Prop
  | [], _ => True
  | part :: parts, text =>
    ∃ front behind, text = front ++ part ++ behind ∧ AreInOrder parts behind

namespace AreInOrder

variable {parts later : List Text} {part front behind : Text}

theorem widen (h : AreInOrder parts text) (front : Text) : AreInOrder parts (front ++ text) := by
  cases parts with
  | nil => trivial
  | cons part parts =>
    obtain ⟨before, behind, rfl, hbehind⟩ := h
    exact ⟨front ++ before, behind, by simp, hbehind⟩

theorem append (h : AreInOrder parts text) (hlater : AreInOrder later behind) :
    AreInOrder (parts ++ later) (text ++ behind) := by
  induction parts generalizing text with
  | nil => exact hlater.widen text
  | cons part parts ih =>
    obtain ⟨front, rest, rfl, hrest⟩ := h
    exact ⟨front, rest ++ behind, by simp, ih hrest⟩

theorem extend (h : AreInOrder parts text) (behind : Text) : AreInOrder parts (text ++ behind) := by
  rw [← List.append_nil parts]
  exact h.append trivial

theorem sublist (h : AreInOrder parts text) (hsub : later.Sublist parts) : AreInOrder later text := by
  induction hsub generalizing text with
  | slnil => trivial
  | cons part _ ih =>
    obtain ⟨front, behind, rfl, hbehind⟩ := h
    exact (ih hbehind).widen (front ++ part)
  | cons_cons part _ ih =>
    obtain ⟨front, behind, rfl, hbehind⟩ := h
    exact ⟨front, behind, rfl, ih hbehind⟩

/-- Blanks around the parts may be left out. -/
theorem trim (h : AreInOrder parts text) : AreInOrder (parts.map Text.trim) text := by
  induction parts generalizing text with
  | nil => trivial
  | cons part parts ih =>
    obtain ⟨front, behind, rfl, hbehind⟩ := h
    obtain ⟨before, hbefore⟩ : trimStart part <:+ part := List.dropWhile_suffix _
    obtain ⟨after, hafter⟩ : Text.trim part <+: trimStart part := prefix_trimEnd _
    refine ⟨front ++ before, after ++ behind, ?_, (ih hbehind).widen after⟩
    conv_lhs => rw [← hbefore, ← hafter]
    simp

end AreInOrder

/-- What stands between the tags of the elements outermost in markup stands there in order. -/
theorem IsMarkup.areInOrder {children : List (Text × Text)} {pieces : List Piece}
    (h : IsMarkup children pieces) : AreInOrder (children.map (·.2)) (textOf pieces) := by
  induction h with
  | nil => trivial
  | @inert children pieces piece h hinert ih =>
    rw [textOf_append]
    exact ih.extend _
  | @empty children pieces name text h ih =>
    rw [textOf_append, List.map_append]
    exact ih.append ⟨[], textOf [⟨.empty name, text⟩], rfl, trivial⟩
  | @element children inner pieces content name a b h hin ih =>
    rw [textOf_append, List.map_append]
    exact ih.append ⟨a, b, by simp, trivial⟩

theorem IsElement.areInOrder {name content : Text} {children : List (Text × Text)}
    {within : List Piece} (h : IsElement name content children within) :
    AreInOrder (children.map (·.2)) (textOf within) := by
  cases h with
  | empty => trivial
  | tags hmarkup =>
    rw [textOf_cons, textOf_append]
    exact (hmarkup.areInOrder.extend _).widen _

/-! ### Items -/

/-- The items among elements with these names, of which this is between the tags. -/
def itemsOf (children : List (Text × Text)) : List Text :=
  (children.filter (·.1 = "li".toList)).map (trim ·.2)

variable {source value : Text} {e : Element} {children : List (Text × Text)} {items : List Text}

theorem StandsIn.cut {child : Text × Text} (h : StandsIn source e child) :
    cut e.inner.1 e.inner.2 source = .ok child.2 := by
  obtain ⟨front, behind, hsource, hinner⟩ := h.inner
  rw [hinner, cut_eq_ok_iff]
  exact cut?_eq_some_iff.2 ⟨front, behind, hsource, rfl, rfl⟩

/-- Items that stand in the text can be cut out of it. -/
theorem cutItems_of_standsIn (h : List.Forall₂ (StandsIn source) e.children children) :
    e.cutItems source = .ok (itemsOf children) := by
  rw [Element.cutItems, itemsOf]
  generalize e.children = elements at h ⊢
  induction h with
  | nil => rfl
  | @cons child found kids rest hchild hkids ih =>
    by_cases hname : found.1 = "li".toList
    · have hname' : child.name = "li".toList := hchild.name.trans hname
      rw [List.filter_cons_of_pos (by simpa using hname'),
        List.filter_cons_of_pos (by simpa using hname), List.mapM_cons, hchild.cut, ih]
      rfl
    · have hname' : child.name ≠ "li".toList := fun heq => hname (hchild.name.symm.trans heq)
      rw [List.filter_cons_of_neg (by simpa using hname'),
        List.filter_cons_of_neg (by simpa using hname)]
      exact ih

/-- Items that are cut out are what is between their tags. -/
theorem items_of_cutItems (h : e.cutItems source = .ok items) : e.items source = items := by
  rw [Element.cutItems, mapM_eq_ok_iff] at h
  have hok : Function.Injective (Except.ok : Text → Except BadCut Text) := fun _ _ => Except.ok.inj
  refine List.map_injective_iff.2 hok ?_
  rw [← h, Element.items, List.map_map]
  refine List.map_congr_left fun item hitem => ?_
  have hmem : trim <$> Html.cut item.inner.1 item.inner.2 source ∈ items.map .ok :=
    h ▸ List.mem_map_of_mem hitem
  obtain ⟨found, -, hfound⟩ := List.mem_map.1 hmem
  cases hcut : Html.cut item.inner.1 item.inner.2 source with
  | error bad =>
    rw [hcut] at hfound
    cases hfound
  | ok content =>
    rw [Function.comp_apply, slice_of_cut hcut]
    rfl

/-- The items of a text without a byte order mark are cut out of it as it is laid out. -/
theorem cutItems_of_parseFragment (hv : value.head? ≠ some byteOrderMark)
    (h : parseFragment value = some e) : ∃ layout : Layout value, layout.name = e.name
      ∧ e.cutItems value = .ok (itemsOf layout.children)
      ∧ e.items value = itemsOf layout.children := by
  obtain ⟨layout, hname, hchildren⟩ := exists_layout hv h
  have hcut := cutItems_of_standsIn hchildren
  exact ⟨layout, hname, hcut, items_of_cutItems hcut⟩

/-- The items that are cut out are those between the tags, and without a byte order mark they are all
there. -/
theorem gives_cutItems (h : parseFragment value = some e) :
    Gives (e.cutItems value) (value.head? ≠ some byteOrderMark) (e.items value) where
  eq_of_ok _ hfound := (items_of_cutItems hfound).symm
  ok_of hv := by
    obtain ⟨layout, -, hcut, hitems⟩ := cutItems_of_parseFragment hv h
    rw [hcut, hitems]

theorem gives_readItems (value : Text) :
    Gives (readItems value) (value.head? ≠ some byteOrderMark) (orderedItems? value) := by
  rw [readItems, orderedItems?]
  cases hroot : parseFragment value with
  | none => exact .ok none
  | some root =>
    rw [Option.bind_some]
    simp only
    split
    · exact (gives_cutItems hroot).map some
    · exact .ok none

/-- The items of a text without a byte order mark are those of a list that it is laid out as. -/
theorem exists_layout_of_orderedItems? (hv : value.head? ≠ some byteOrderMark)
    (h : orderedItems? value = some items) :
    ∃ layout : Layout value, layout.name = "ol" ∧ items = itemsOf layout.children := by
  obtain ⟨root, hroot, hol, rfl⟩ := orderedItems?_eq_some h
  obtain ⟨layout, hname, -, hitems⟩ := cutItems_of_parseFragment hv hroot
  exact ⟨layout, hname.trans hol, hitems⟩

/-- The items of a list stand in it in order. -/
theorem Layout.areInOrder (layout : Layout value) : AreInOrder (itemsOf layout.children) value := by
  obtain ⟨_, _, children, front, within, behind, -, hcut, -, helement⟩ := layout
  obtain ⟨loose, hwhole⟩ := hcut.exists_loose
  have hsub : (itemsOf children).Sublist ((children.map (·.2)).map trim) := by
    rw [itemsOf, List.map_map]
    exact List.filter_sublist.map _
  have hchildren : AreInOrder (children.map (·.2)) value := by
    rw [hwhole, textOf_append, textOf_append]
    exact ((helement.areInOrder.widen _).extend _).extend _
  exact hchildren.trim.sublist hsub

end Testbook.Html
