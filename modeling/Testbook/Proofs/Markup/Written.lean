import Testbook.Proofs.Markup.Leaves
import Testbook.Proofs.Markup.Renumber
import Testbook.Proofs.Text.Pieces

/-!
Texts written line by line. A text that consists of lines as reading leaves them is read line by
line (`parse_join`). A text of one line that reads as itself, a paragraph, is such a line
(`IsPlain.isLine`).
-/

namespace Testbook.Markup

open Testbook.Text

/-- A text as reading leaves a line: no character that is refused, no tab, no blank at the end. -/
structure IsLine (text : Text) : Prop where
  allowed : text.all (!isForbidden ·) = true
  noTab : '\t' ∉ text
  trimmed : trimEnd text = text

/-- The lines of the given texts, without numbers. -/
def unnumbered (texts : List Text) : List Line := texts.map (Line.mk 0)

theorem unnumbered_cons (text : Text) (texts : List Text) :
    unnumbered (text :: texts) = ⟨0, text⟩ :: unnumbered texts := rfl

theorem unnumbered_append (a b : List Text) :
    unnumbered (a ++ b) = unnumbered a ++ unnumbered b := List.map_append

theorem map_text_unnumbered (texts : List Text) : (unnumbered texts).map (·.text) = texts := by
  rw [unnumbered, List.map_map]
  exact List.map_id texts

theorem findBadCharacter_eq_none {lines : List Text} {number : Nat} :
    findBadCharacter number lines = none ↔ ∀ line ∈ lines, line.all (!isForbidden ·) = true := by
  induction lines generalizing number with
  | nil => simp [findBadCharacter]
  | cons line lines ih =>
    rw [findBadCharacter, List.forall_mem_cons]
    cases hf : line.find? isForbidden with
    | none =>
      have hline : line.all (!isForbidden ·) = true := by simpa using hf
      exact ih.trans ⟨fun h => ⟨hline, h⟩, fun h => h.2⟩
    | some c =>
      refine ⟨fun h => absurd h (by simp), fun h => ?_⟩
      have hc := List.all_eq_true.1 h.1 c (List.mem_of_find?_eq_some hf)
      simp [List.find?_some hf] at hc

namespace IsLine

theorem noFeed {text : Text} (h : IsLine text) : '\n' ∉ text :=
  fun hmem => absurd (List.all_eq_true.1 h.allowed '\n' hmem) (by decide)

theorem append {front ending : Text} (hallowed : front.all (!isForbidden ·) = true)
    (htab : '\t' ∉ front) (hne : ending ≠ []) (h : IsLine ending) : IsLine (front ++ ending) where
  allowed := by rw [List.all_append, hallowed, h.allowed, Bool.and_self]
  noTab := List.not_mem_append htab h.noTab
  trimmed := trimEnd_append hne h.trimmed

end IsLine

theorem map_text_readLines_join {texts : List Text} (hne : texts ≠ [])
    (hlast : texts.getLast? ≠ some []) (h : ∀ text ∈ texts, IsLine text) :
    (readLines (join ['\n'] texts)).map (·.text) = texts := by
  have hraw : rawLines (join ['\n'] texts) = texts := by
    rw [rawLines, splitOn_join hne fun text ht => (h text ht).noFeed]
    exact if_neg hlast
  rw [map_text_readLines, hraw]
  refine (List.map_congr_left fun text ht => ?_).trans (List.map_id texts)
  rw [expandTabs_of_not_mem (h text ht).noTab, (h text ht).trimmed]
  rfl

/-- Lines as reading leaves them, joined by line feeds, are read as these lines. -/
theorem parse_join {texts : List Text} (hne : texts ≠ []) (hlast : texts.getLast? ≠ some [])
    (h : ∀ text ∈ texts, IsLine text) :
    ∃ document, parse (join ['\n'] texts) = .ok document
      ∧ document.blocks = (readDocument (unnumbered texts)).blocks := by
  have hgood : findBadCharacter 1 (splitOn '\n' (join ['\n'] texts)) = none := by
    rw [splitOn_join hne fun text ht => (h text ht).noFeed]
    exact findBadCharacter_eq_none.2 fun text ht => (h text ht).allowed
  refine ⟨_, parse_of_allowed hgood, blocks_readDocument_eq ?_⟩
  rw [map_text_readLines_join hne hlast h, map_text_unnumbered]

/-- A text of one line has what that line makes up once it is read. -/
theorem parse_oneLine {text : Text} {document : Document} (hline : '\n' ∉ text) (hne : text ≠ [])
    (h : parse text = .ok document) : text.all (!isForbidden ·) = true
      ∧ (readDocument (unnumbered [trimEnd (expandTabs 0 text)])).blocks = document.blocks := by
  obtain ⟨hgood, rfl⟩ := parse_eq_ok h
  rw [splitOn_of_not_mem hline, findBadCharacter_eq_none] at hgood
  refine ⟨hgood text List.mem_cons_self, blocks_readDocument_eq ?_⟩
  have hraw : rawLines text = [text] := by
    rw [rawLines, splitOn_of_not_mem hline]
    exact if_neg (by simp [hne])
  rw [map_text_unnumbered, map_text_readLines, hraw]
  rfl

/-! ### Texts that are plain paragraphs -/

/-- A text of one line that does not start with a blank and is read as nothing but itself, a
paragraph. -/
structure IsPlain (text : Text) : Prop where
  oneLine : '\n' ∉ text
  flush : text.head?.any isBlank = false
  reads : ∃ document, parse text = .ok document ∧ document.blocks = [.paragraph text]

/-- The text of blocks that are one paragraph. -/
def paragraph? : List Block → Option Text
  | [.paragraph text] => some text
  | _ => none

theorem paragraph?_eq_some {blocks : List Block} {text : Text} :
    paragraph? blocks = some text ↔ blocks = [.paragraph text] := by
  refine ⟨fun h => ?_, fun h => h ▸ rfl⟩
  unfold paragraph? at h
  split at h
  · rw [Option.some.inj h]
  · simp at h

instance (text : Text) : Decidable (IsPlain text) :=
  decidable_of_iff ('\n' ∉ text ∧ text.head?.any isBlank = false
      ∧ (parse text).toOption.bind (fun document => paragraph? document.blocks) = some text) <| by
    refine ⟨fun ⟨hline, hflush, hreads⟩ => ⟨hline, hflush, ?_⟩, fun h => ⟨h.oneLine, h.flush, ?_⟩⟩
    · obtain ⟨document, hdocument, hblocks⟩ := Option.bind_eq_some_iff.1 hreads
      cases hparse : parse text with
      | error bad => simp [hparse, Except.toOption] at hdocument
      | ok d =>
        obtain rfl : d = document := by simpa [hparse, Except.toOption] using hdocument
        exact ⟨d, rfl, paragraph?_eq_some.1 hblocks⟩
    · obtain ⟨document, hparse, hblocks⟩ := h.reads
      rw [hparse]
      exact paragraph?_eq_some.2 hblocks

theorem prefix_paragraphText (lines : List Line) :
    (paragraphText lines).1 <+: join ['\n'] (lines.map (·.text)) := by
  simp only [paragraphText]
  split
  · next kept hk =>
    rw [dropEnd?_eq_some hk, announcedText]
    split
    · exact (prefix_trimEnd kept).trans (List.prefix_append kept _)
    · exact ⟨[':'], by simp⟩
  · exact List.prefix_refl _

/-- A line that is read as a paragraph loses at most something at its end, and not everything. -/
theorem prefix_of_blocks_singleton {line : Line} {text : Text}
    (h : (readDocument [line]).blocks = [.paragraph text]) : text ≠ [] ∧ text <+: line.text := by
  rw [blocks_readDocument] at h
  -- of the four things that a line can be, only a paragraph makes a paragraph
  cases hb : line.isBlank with
  | true => simp [segments_of_blank hb] at h
  | false =>
    rcases Nat.eq_zero_or_pos line.indent with hi | hi
    · cases hm : Marker.first? line.text [] with
      | some m =>
        rw [segments_of_marker hb hi hm, readList_of_nil List.dropWhile_nil] at h
        cases m <;> simp [ListRun.segment, Construct.ofMarkers, Construct.blocks] at h
      | none =>
        rw [segments_of_paragraph hb hi hm] at h
        have hfront := prefix_paragraphText [line]
        cases htext : (paragraphText [line]).1 with
        | nil => simp [htext, Construct.blocks] at h
        | cons c cs =>
          have heq : c :: cs = text := by simpa [htext, Construct.blocks] using h
          rw [htext, heq] at hfront
          exact ⟨heq ▸ List.cons_ne_nil c cs, hfront⟩
    · rw [segments_of_indented hb hi] at h
      simp [indentedSegment, Construct.blocks] at h

namespace IsPlain

variable {text : Text}

theorem ne_nil (h : IsPlain text) : text ≠ [] := by
  rintro rfl
  obtain ⟨document, hparse, hblocks⟩ := h.reads
  obtain rfl : readDocument [] = document := Except.ok.inj hparse
  rw [blocks_readDocument, segments_nil] at hblocks
  exact absurd hblocks (by simp)

theorem blocks_trimmed (h : IsPlain text) :
    (readDocument (unnumbered [trimEnd (expandTabs 0 text)])).blocks = [.paragraph text] := by
  obtain ⟨document, hparse, hblocks⟩ := h.reads
  exact (parse_oneLine h.oneLine h.ne_nil hparse).2.trans hblocks

/-- What is read as itself has no tab and no blank at its end: reading takes these away. -/
theorem isLine (h : IsPlain text) : IsLine text := by
  have hfront : text <+: trimEnd (expandTabs 0 text) :=
    (prefix_of_blocks_singleton h.blocks_trimmed).2
  have htab : '\t' ∉ text := fun hmem =>
    tab_not_mem_expandTabs 0 text ((hfront.trans (prefix_trimEnd _)).subset hmem)
  rw [expandTabs_of_not_mem htab] at hfront
  obtain ⟨document, hparse, -⟩ := h.reads
  exact ⟨(parse_oneLine h.oneLine h.ne_nil hparse).1, htab,
    (prefix_trimEnd text).eq_of_length_le hfront.length_le⟩

/-- As a line of a larger text it is the same paragraph. -/
theorem blocks (h : IsPlain text) :
    (readDocument (unnumbered [text])).blocks = [.paragraph text] := by
  have hblocks := h.blocks_trimmed
  rwa [expandTabs_of_not_mem h.isLine.noTab, h.isLine.trimmed] at hblocks

end IsPlain

end Testbook.Markup
