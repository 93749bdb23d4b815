import Testbook.Proofs.Markup.Written
import Testbook.Proofs.Text.Tabs
import Testbook.Proofs.Text.Words

/-!
Lines of enumerated items: a mark, a space, a text. A mark has no blank in it and starts with what
starts no other item, so such a line stands at the margin and can only be an enumerated item; it is
read with its own mark (`read?_line`). When it alone makes up a list of one item, and that item is
the text as a paragraph, reading leaves the line as it is and the text stays that paragraph in every
list (`IsItem.isLine`, `IsItem.blocks`).
-/

namespace Testbook.Markup

open Testbook.Text

/-- The line of an item. -/
def RawEnumerator.line (raw : RawEnumerator) : Text := raw.mark ++ ' ' :: raw.text

/-- An item whose line, read alone, is a list of one item: its text, a paragraph. -/
structure RawEnumerator.IsItem (raw : RawEnumerator) : Prop extends raw.IsMark where
  oneLine : '\n' ∉ raw.text
  alone : ∃ document numbering start, parse raw.line = .ok document
    ∧ document.blocks = [.numbered numbering start [[.paragraph raw.text]]]

/-! ### Marks in front of lines -/

theorem isBlank_of_isMark {c : Char} (h : isMark c = true) : isBlank c = false := by
  rw [isMark, Bool.or_eq_true, decide_eq_true_eq] at h
  rcases h with h | h
  · exact isBlank_of_isAlphanum h
  · have hsigns : ":*-+#().".toList.all (!isBlank ·) = true := by decide
    simpa using List.all_eq_true.1 hsigns c h

namespace RawEnumerator

variable {raw : RawEnumerator}

theorem IsMark.solid (h : raw.IsMark) : ∀ c ∈ raw.mark, isBlank c = false := fun c hc =>
  isBlank_of_isMark (List.all_eq_true.1 (all_isMark_mark h) c hc)

/-- A mark starts with its parenthesis or with its numeral. -/
theorem IsMark.exists_eq_cons (h : raw.IsMark) : ∃ c cs, raw.mark = c :: cs
    ∧ (c.isAlphanum = true ∨ c = '#' ∨ c = '(') := by
  cases hopened : raw.opened with
  | true => exact ⟨'(', raw.numeral ++ [raw.closer], by simp [mark, hopened], .inr (.inr rfl)⟩
  | false =>
    cases hnumeral : raw.numeral with
    | nil =>
      have hempty := h.numeral
      simp [hnumeral, isNumeral] at hempty
    | cons c cs =>
      refine ⟨c, cs ++ [raw.closer], by simp [mark, hopened, hnumeral], ?_⟩
      exact (isAlphanum_of_isNumeral h.numeral (hnumeral ▸ List.mem_cons_self)).imp id .inl

/-- No field and no bullet starts like a mark. -/
theorem IsMark.field?_append (h : raw.IsMark) (behind : Text) :
    field? (raw.mark ++ behind) = none ∧ bullet? (raw.mark ++ behind) = none := by
  obtain ⟨c, cs, hmark, hc⟩ := h.exists_eq_cons
  have hne (d : Char) (hd : d.isAlphanum = false ∧ d ≠ '#' ∧ d ≠ '(') : c ≠ d := by
    rintro rfl
    rcases hc with hc | hc | hc
    · rw [hd.1] at hc
      cases hc
    · exact hd.2.1 hc
    · exact hd.2.2 hc
  rw [hmark, List.cons_append]
  constructor
  · rw [field?]
    rintro cs' heq
    exact hne ':' (by decide) (List.cons.inj heq).1
  · rw [bullet?, if_neg]
    simp [hne '-' (by decide), hne '*' (by decide), hne '+' (by decide)]

/-- A line that starts with a mark stands at the margin. -/
theorem IsMark.isFlush (h : raw.IsMark) (number : Nat) (behind : Text) :
    Line.isBlank ⟨number, raw.mark ++ behind⟩ = false
      ∧ Line.indent ⟨number, raw.mark ++ behind⟩ = 0 := by
  obtain ⟨c, cs, hmark, -⟩ := h.exists_eq_cons
  have hc : isBlank c = false := h.solid c (hmark ▸ List.mem_cons_self)
  have hspace : c ≠ ' ' := fun heq => absurd (heq ▸ hc) (by decide)
  constructor
  · rw [Line.isBlank, isAllBlank, hmark, List.cons_append, List.all_cons, hc, Bool.false_and]
  · simp [Line.indent, hmark, hspace]

theorem trimStart_of_solid {text : Text} (h : text.head?.any isBlank = false) :
    trimStart text = text := by
  cases text with
  | nil => rfl
  | cons c cs => exact List.dropWhile_cons_of_neg (by simpa using h)

/-- A line is read with its own mark. -/
theorem IsMark.read?_line (h : raw.IsMark) (htext : raw.text.head?.any isBlank = false) :
    read? raw.line = some raw := by
  refine read?_eq_some.2 ⟨h, ' ' :: raw.text, rfl, ?_⟩
  rw [behindMark?, if_pos (show isBlank ' ' = true from rfl), trimStart_of_solid htext]

/-- The enumerator of an item in a numbering. -/
def counted (raw : RawEnumerator) (numbering : Numbering) (ordinal : Option Nat) : Enumerator :=
  ⟨numbering, ordinal, raw.opened, raw.closer, raw.text⟩

theorem readIn?_line (hread : read? raw.line = some raw) (numbering : Text → Numbering) :
    Enumerator.readIn? numbering raw.line
      = ((numbering raw.numeral).ordinal? raw.numeral).map
        (raw.counted (numbering raw.numeral)) := by
  cases hordinal : (numbering raw.numeral).ordinal? raw.numeral <;>
    simp [Enumerator.readIn?, hread, hordinal, counted]

/-! ### Lines that are lists of one item -/

namespace IsItem

theorem line_ne_nil (raw : RawEnumerator) : raw.line ≠ [] :=
  List.append_ne_nil_of_right_ne_nil _ (List.cons_ne_nil _ _)

theorem feed_not_mem (h : raw.IsItem) : '\n' ∉ raw.line := by
  have hmark : '\n' ∉ raw.mark := fun hc => absurd (h.toIsMark.solid '\n' hc) (by decide)
  refine List.not_mem_append hmark fun hc => ?_
  rcases List.mem_cons.1 hc with hc | hc
  · exact absurd hc (by decide)
  · exact h.oneLine hc

/-- What reading leaves behind the mark. -/
def behind (raw : RawEnumerator) : Text := tidyFrom raw.mark.length (' ' :: raw.text)

theorem tidied (h : raw.IsMark) : trimEnd (expandTabs 0 raw.line) = raw.mark ++ behind raw := by
  have hread := tidyFrom_solid h.solid 0 (' ' :: raw.text)
  rwa [Nat.zero_add] at hread

theorem prefix_behind (raw : RawEnumerator) :
    behind raw <+: ' ' :: expandTabs (raw.mark.length + 1) raw.text := by
  rw [behind, tidyFrom, expandTabs_cons (by decide)]
  exact prefix_trimEnd _

theorem exists_behindMark? (raw : RawEnumerator) :
    ∃ text, behindMark? (behind raw) = some text := by
  rw [← Option.isSome_iff_exists, isSome_behindMark?]
  cases hbehind : behind raw with
  | nil => rfl
  | cons c cs =>
    obtain ⟨rest, hrest⟩ := prefix_behind raw
    rw [hbehind, List.cons_append] at hrest
    rw [(List.cons.inj hrest).1]
    rfl

/-- Read alone, the line has an ordinal, and what is behind the mark is read as the text. -/
theorem exists_behind (h : raw.IsItem) : ∃ text ordinal, behindMark? (behind raw) = some text
    ∧ (Numbering.suggested raw.numeral).ordinal? raw.numeral = some ordinal
    ∧ (readDocument (unnumbered [text])).blocks = [.paragraph raw.text] := by
  obtain ⟨document, numbering, start, hparse, hblocks⟩ := h.alone
  have hread := (parse_oneLine h.feed_not_mem (line_ne_nil raw) hparse).2
  rw [hblocks, tidied h.toIsMark, blocks_readDocument] at hread
  obtain ⟨hb, hi⟩ := h.isFlush 0 (behind raw)
  obtain ⟨hfield, hbullet⟩ := h.field?_append (behind raw)
  have hmarker : Marker.first? (raw.mark ++ behind raw) []
      = (Enumerator.first? (raw.mark ++ behind raw)).map .enumerator := by
    rw [Marker.first?, hfield, hbullet]
    cases Enumerator.first? (raw.mark ++ behind raw) <;> rfl
  cases hfirst : Enumerator.first? (raw.mark ++ behind raw) with
  | none =>
    -- without an ordinal the line would be a paragraph
    rw [unnumbered, List.map_singleton, segments_of_paragraph hb hi (by rw [hmarker, hfirst]; rfl)]
      at hread
    cases htext : (paragraphText [⟨0, raw.mark ++ behind raw⟩]).1 with
    | nil => simp [htext, Construct.blocks] at hread
    | cons c cs => simp [htext, Construct.blocks] at hread
  | some e =>
    rw [unnumbered, List.map_singleton, segments_of_marker hb hi (by rw [hmarker, hfirst]; rfl),
      readList_of_nil List.dropWhile_nil] at hread
    obtain ⟨-, -, hbody⟩ : e.numbering = numbering ∧ e.ordinal.getD 1 = start
        ∧ (readDocument (itemBody (.enumerator e) ⟨0, raw.mark ++ behind raw⟩ [])).blocks
          = [.paragraph raw.text] := by
      simpa [ListRun.segment, Construct.ofMarkers, Construct.blocks] using hread
    obtain ⟨text, htext⟩ := exists_behindMark? raw
    obtain ⟨raw', ordinal, hraw', hordinal, rfl⟩ := Enumerator.readIn?_eq_some.1 hfirst
    have hraw : read? (raw.mark ++ behind raw) = some { raw with text } :=
      read?_eq_some.2 ⟨⟨h.numeral, h.closer, h.opened⟩, behind raw, rfl, htext⟩
    obtain rfl := Option.some.inj (hraw'.symm.trans hraw)
    exact ⟨text, ordinal, htext, hordinal, hbody⟩

/-- Reading leaves what is behind the mark as it is. -/
theorem behind_eq (h : raw.IsItem) : '\t' ∉ raw.text ∧ behind raw = ' ' :: raw.text
    ∧ trimStart raw.text = raw.text := by
  obtain ⟨text, ordinal, htext, -, hblocks⟩ := h.exists_behind
  obtain ⟨hne, hfront⟩ : raw.text ≠ [] ∧ raw.text <+: text := prefix_of_blocks_singleton hblocks
  have hsuffix : text <:+ behind raw := suffix_behindMark? htext
  have htab : '\t' ∉ raw.text := fun hc =>
    tab_not_mem_expandTabs _ _ ((prefix_trimEnd _).subset (hsuffix.subset (hfront.subset hc)))
  have hbehind := prefix_behind raw
  rw [expandTabs_of_not_mem htab] at hbehind
  refine ⟨htab, ?_⟩
  cases hcs : behind raw with
  | nil =>
    rw [hcs, List.suffix_nil] at hsuffix
    rw [hsuffix, List.prefix_nil] at hfront
    exact absurd hfront hne
  | cons c cs =>
    rw [hcs] at hbehind htext
    obtain ⟨rfl, hcut⟩ := List.cons_prefix_cons.1 hbehind
    rw [behindMark?, if_pos (show isBlank ' ' = true from rfl), Option.some.injEq] at htext
    subst htext
    -- the text is a front of what is left of it, so nothing is gone
    have hcs' : (trimStart cs) <:+ cs := List.dropWhile_suffix _
    have h1 := hfront.length_le
    have h2 := hcs'.length_le
    have h3 := hcut.length_le
    have heq : cs = raw.text := hcut.eq_of_length (by omega)
    have htrim : trimStart cs = cs := hcs'.eq_of_length (by omega)
    exact ⟨by rw [heq], heq ▸ htrim⟩

/-- Reading leaves the line as it is. -/
theorem isLine (h : raw.IsItem) : IsLine raw.line := by
  obtain ⟨document, numbering, start, hparse, -⟩ := h.alone
  obtain ⟨htab, hbehind, -⟩ := h.behind_eq
  have hnone : '\t' ∉ raw.line := by
    have hmark : '\t' ∉ raw.mark := fun hc => absurd (h.toIsMark.solid '\t' hc) (by decide)
    refine List.not_mem_append hmark fun hc => ?_
    rcases List.mem_cons.1 hc with hc | hc
    · exact absurd hc (by decide)
    · exact htab hc
  refine ⟨(parse_oneLine h.feed_not_mem (line_ne_nil raw) hparse).1, hnone, ?_⟩
  have hread := tidied h.toIsMark
  rwa [expandTabs_of_not_mem hnone, hbehind] at hread

theorem read?_line (h : raw.IsItem) : read? raw.line = some raw := by
  refine h.toIsMark.read?_line ?_
  obtain ⟨-, -, htrim⟩ := h.behind_eq
  cases hhead : raw.text.head? with
  | none => rfl
  | some c => simp [head?_trimStart (htrim.symm ▸ hhead)]

theorem exists_ordinal (h : raw.IsItem) :
    ∃ ordinal, (Numbering.suggested raw.numeral).ordinal? raw.numeral = some ordinal := by
  obtain ⟨-, ordinal, -, hordinal, -⟩ := h.exists_behind
  exact ⟨ordinal, hordinal⟩

/-- In every list the text is the paragraph that it is when the line stands alone. -/
theorem blocks (h : raw.IsItem) :
    (readDocument (unnumbered [raw.text])).blocks = [.paragraph raw.text] := by
  obtain ⟨text, ordinal, htext, -, hblocks⟩ := h.exists_behind
  obtain ⟨-, hbehind, htrim⟩ := h.behind_eq
  rw [hbehind, behindMark?, if_pos (show isBlank ' ' = true from rfl), htrim,
    Option.some.injEq] at htext
  rwa [← htext] at hblocks

end IsItem

end RawEnumerator

end Testbook.Markup
