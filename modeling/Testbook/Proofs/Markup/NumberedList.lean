import Testbook.Proofs.Markup.ItemLine
import Testbook.Proofs.Text.Decimal

/-!
Numbered lists written line by line. A decimal numeral counts as itself, so a line `12. text` is
the item twelve; the line below, numbered one higher, continues the list, and no item is taken for
the beginning of a paragraph. Lines numbered in turn are therefore read as one list with one item
for each line (`blocks_numberedLines`).
-/

namespace Testbook.Markup

open Testbook.Text

/-- The line of an item with the given ordinal. -/
def numberedLine (n : Nat) (text : Text) : Text := decimal n ++ '.' :: ' ' :: text

/-- The lines of items counted from `start`. -/
def numberedLines (start : Nat) : List Text → List Text
  | [] => []
  | text :: texts => numberedLine start text :: numberedLines (start + 1) texts

theorem exists_of_mem_numberedLines {start : Nat} {texts : List Text} {line : Text}
    (h : line ∈ numberedLines start texts) : ∃ n, ∃ text ∈ texts, line = numberedLine n text := by
  induction texts generalizing start with
  | nil => exact absurd h List.not_mem_nil
  | cons text texts ih =>
    rcases List.mem_cons.1 h with rfl | h
    · exact ⟨start, text, List.mem_cons_self, rfl⟩
    · obtain ⟨n, t, ht, hline⟩ := ih h
      exact ⟨n, t, List.mem_cons_of_mem _ ht, hline⟩

theorem numberedLine_ne_nil (n : Nat) (text : Text) : numberedLine n text ≠ [] := by
  rw [numberedLine]
  exact List.append_ne_nil_of_right_ne_nil _ (List.cons_ne_nil _ _)

theorem numberedLines_ne_nil {texts : List Text} (start : Nat) (h : texts ≠ []) :
    numberedLines start texts ≠ [] := by
  obtain ⟨text, texts, rfl⟩ := List.exists_cons_of_ne_nil h
  exact List.cons_ne_nil _ _

/-! ### Numerals -/

/-- A decimal numeral counts as the number it is written for. -/
theorem arabicValue?_decimal {n : Nat} (h : n ≤ maxOrdinal) :
    arabicValue? (decimal n) = some n := by
  rw [arabicValue?, isEmpty_decimal, all_isDigit_decimal]
  simp only [foldl_decimal]
  exact if_pos h

theorem isNumeral_decimal (n : Nat) : isNumeral (decimal n) = true := by
  rw [isNumeral, isEmpty_decimal, all_isDigit_decimal]
  simp

theorem isForbidden_of_isDigit {c : Char} (h : c.isDigit = true) : isForbidden c = false := by
  rw [isForbidden, isControl_of_isDigit h]
  rfl

/-! ### Reading one line -/

/-- The mark on the line of an item. -/
def numberedMark (n : Nat) (text : Text) : Enumerator := ⟨.arabic, some n, false, '.', text⟩

/-- What can stand in the line of an item: something that does not start with a blank. -/
def IsItemText (text : Text) : Prop := text ≠ [] ∧ text.head?.any isBlank = false

variable {n : Nat} {text : Text}

theorem IsPlain.isItemText (h : IsPlain text) : IsItemText text := ⟨h.ne_nil, h.flush⟩

/-- The item that a line is written for. -/
def numberedItem (n : Nat) (text : Text) : RawEnumerator := ⟨false, decimal n, '.', text⟩

theorem line_numberedItem (n : Nat) (text : Text) :
    (numberedItem n text).line = numberedLine n text := by
  simp [RawEnumerator.line, RawEnumerator.mark, numberedItem, numberedLine]

theorem isMark_numberedItem (n : Nat) (text : Text) : (numberedItem n text).IsMark :=
  ⟨isNumeral_decimal n, rfl, fun h => absurd h Bool.false_ne_true⟩

theorem field?_numberedLine (n : Nat) (text : Text) :
    field? (numberedLine n text) = none ∧ bullet? (numberedLine n text) = none := by
  rw [← line_numberedItem]
  exact (isMark_numberedItem n text).field?_append _

theorem read?_numberedLine (h : IsItemText text) :
    RawEnumerator.read? (numberedLine n text) = some (numberedItem n text) := by
  rw [← line_numberedItem]
  exact (isMark_numberedItem n text).read?_line h.2

theorem ordinal?_decimal (h : n ≤ maxOrdinal) :
    Numbering.arabic.ordinal? (decimal n) = some (some n) := by
  have hne : decimal n ≠ ['#'] := fun heq =>
    absurd (isDigit_of_mem_decimal (heq ▸ List.mem_singleton_self '#')) (by decide)
  rw [Numbering.ordinal?, if_neg hne, Numbering.value?, arabicValue?_decimal h]
  rfl

/-- The line of an item is read as this item, whenever the numbering is arabic. -/
theorem readIn?_numberedLine {numbering : Text → Numbering} (h : IsItemText text)
    (hn : n ≤ maxOrdinal) (harabic : numbering (decimal n) = .arabic) :
    Enumerator.readIn? numbering (numberedLine n text) = some (numberedMark n text) := by
  have hread := read?_numberedLine (n := n) h
  rw [← line_numberedItem] at hread ⊢
  rw [RawEnumerator.readIn?_line hread, numberedItem, harabic, ordinal?_decimal hn]
  rfl

theorem first?_numberedLine (h : IsItemText text) (hn : n ≤ maxOrdinal) :
    Enumerator.first? (numberedLine n text) = some (numberedMark n text) := by
  refine readIn?_numberedLine h hn ?_
  rw [Numbering.suggested, arabicValue?_decimal hn]
  simp

/-- The line of the item numbered one higher continues the list. -/
theorem next?_numberedLine {before : Text} (h : IsItemText text) (hn : n + 1 ≤ maxOrdinal) :
    (numberedMark n before).next? (numberedLine (n + 1) text)
      = some (numberedMark (n + 1) text) := by
  have hprecedes : (numberedMark n before).precedes (numberedMark (n + 1) text) = true := by
    simp [numberedMark, Enumerator.precedes, Nat.lt_of_succ_le hn]
  rw [Enumerator.next?, readIn?_numberedLine h hn rfl, Option.filter_some, if_pos hprecedes]

/-! ### Reading the list -/

theorem isFlush_numberedLine (number n : Nat) (text : Text) :
    Line.isBlank ⟨number, numberedLine n text⟩ = false
      ∧ Line.indent ⟨number, numberedLine n text⟩ = 0 := by
  rw [← line_numberedItem]
  exact (isMark_numberedItem n text).isFlush number _

/-- The items that the lines are read as. -/
def numberedItems (start : Nat) : List Text → List (Marker × List Line)
  | [] => []
  | text :: texts =>
    (.enumerator (numberedMark start text), unnumbered [text]) :: numberedItems (start + 1) texts

theorem map_snd_numberedItems (start : Nat) (texts : List Text) :
    (numberedItems start texts).map (·.2) = texts.map fun text => unnumbered [text] := by
  induction texts generalizing start with
  | nil => rfl
  | cons text texts ih => rw [numberedItems, List.map_cons, ih, List.map_cons]

theorem isInner_numberedLine (number n : Nat) (text : Text) :
    ¬ Line.isInner ⟨number, numberedLine n text⟩ = true := by
  obtain ⟨hb, hi⟩ := isFlush_numberedLine number n text
  simp [Line.isInner, hb, hi]

theorem itemBody_numberedMark (n : Nat) (text : Text) :
    itemBody (.enumerator (numberedMark n text)) ⟨0, numberedLine n text⟩ [] = unnumbered [text] :=
  rfl

/-- Each line is the next item, and nothing but the lines below ends the list. -/
theorem readList_numberedLines {texts : List Text} (hn : n + texts.length ≤ maxOrdinal)
    (h : ∀ t ∈ texts, IsItemText t) :
    readList (.enumerator (numberedMark n text)) ⟨0, numberedLine n text⟩
        (unnumbered (numberedLines (n + 1) texts))
      = ⟨numberedItems n (text :: texts), none, []⟩ := by
  -- each line below is read with the mark of the line before it
  induction texts generalizing n text with
  | nil => exact readList_of_nil rfl
  | cons next texts ih =>
    obtain ⟨hnext, htexts⟩ := List.forall_mem_cons.1 h
    rw [List.length_cons] at hn
    have hinner := isInner_numberedLine 0 (n + 1) next
    have hdrop : (unnumbered (numberedLines (n + 1) (next :: texts))).dropWhile Line.isInner
        = ⟨0, numberedLine (n + 1) next⟩ :: unnumbered (numberedLines (n + 2) texts) :=
      List.dropWhile_cons_of_neg hinner
    have htake : (unnumbered (numberedLines (n + 1) (next :: texts))).takeWhile Line.isInner = [] :=
      List.takeWhile_cons_of_neg hinner
    have hmark : Marker.next? (.enumerator (numberedMark n text)) (numberedLine (n + 1) next)
        = some (.enumerator (numberedMark (n + 1) next)) := by
      rw [Marker.next?, next?_numberedLine hnext (by omega), Option.map_some]
    rw [readList_of_next hdrop hmark, ih (by omega) htexts, htake, itemBody_numberedMark]
    rfl

/-- No line is taken for the beginning of a paragraph, since the next item follows. -/
theorem mayFollow_numberedLines {texts : List Text} (hn : n + texts.length ≤ maxOrdinal)
    (h : ∀ t ∈ texts, IsItemText t) :
    mayFollow (numberedMark n text) (unnumbered (numberedLines (n + 1) texts)) = true := by
  cases texts with
  | nil => rfl
  | cons next texts =>
    rw [List.length_cons] at hn
    rw [numberedLines, unnumbered_cons, mayFollow,
      next?_numberedLine (h next List.mem_cons_self) (by omega)]
    exact Bool.or_true _

theorem markerFirst?_numberedLines {texts : List Text} (hn : n + texts.length ≤ maxOrdinal)
    (htext : IsItemText text) (h : ∀ t ∈ texts, IsItemText t) :
    Marker.first? (numberedLine n text) (unnumbered (numberedLines (n + 1) texts))
      = some (.enumerator (numberedMark n text)) := by
  rw [Marker.first?, (field?_numberedLine n text).1, (field?_numberedLine n text).2,
    first?_numberedLine htext (Nat.le_of_add_right_le hn), Option.filter_some,
    if_pos (mayFollow_numberedLines hn h), Option.map_some]

/-- Lines numbered in turn are a list with one item for each line. -/
theorem blocks_numberedLines {start : Nat} {texts : List Text} (hne : texts ≠ [])
    (hn : start + texts.length ≤ maxOrdinal + 1) (h : ∀ t ∈ texts, IsItemText t) :
    (readDocument (unnumbered (numberedLines start texts))).blocks
      = [.numbered .arabic start (texts.map fun t => (readDocument (unnumbered [t])).blocks)] := by
  cases texts with
  | nil => exact absurd rfl hne
  | cons text texts =>
    obtain ⟨htext, htexts⟩ := List.forall_mem_cons.1 h
    have hlength : start + texts.length ≤ maxOrdinal := Nat.le_of_succ_le_succ hn
    obtain ⟨hb, hi⟩ := isFlush_numberedLine 0 start text
    have hmarker := markerFirst?_numberedLines hlength htext htexts
    rw [blocks_readDocument, numberedLines, unnumbered_cons, segments_of_marker hb hi hmarker,
      readList_numberedLines hlength htexts, ListRun.segment, map_snd_numberedItems,
      segments_nil]
    simp [Construct.ofMarkers, Construct.blocks, numberedMark]

end Testbook.Markup
