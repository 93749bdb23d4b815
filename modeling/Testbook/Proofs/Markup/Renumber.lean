import Testbook.Proofs.Markup.Step
import Mathlib.Data.List.TakeWhile

/-!
Line numbers are labels. Reading looks at the texts of lines only, so giving the lines other
numbers gives the messages other numbers and changes nothing else. The blocks of lines therefore
depend on their texts alone (`blocks_readDocument_eq`).
-/

namespace Testbook.Markup

open Testbook.Text

variable (f : Nat → Nat)

/-- The line with another number. -/
def Line.renumber (l : Line) : Line := ⟨f l.number, l.text⟩

/-- The lines with other numbers. -/
def renumberAll (lines : List Line) : List Line := lines.map (Line.renumber f)

/-- The message with another number. -/
def Message.renumber (m : Message) : Message := ⟨f m.line, m.problem⟩

/-- The document with other numbers in its messages. -/
def Document.renumber (d : Document) : Document := ⟨d.blocks, d.messages.map (Message.renumber f)⟩

/-- The segment with other numbers. -/
def Segment.renumber (s : Segment) : Segment :=
  ⟨s.construct, s.bodies.map (renumberAll f), s.message.map (Message.renumber f)⟩

/-- The list with other numbers. -/
def ListRun.renumber (run : ListRun) : ListRun :=
  ⟨run.items.map fun item => (item.1, renumberAll f item.2), run.message.map (Message.renumber f),
    renumberAll f run.rest⟩

/-! ### Lines -/

theorem renumberAll_cons (l : Line) (ls : List Line) :
    renumberAll f (l :: ls) = l.renumber f :: renumberAll f ls := rfl

theorem map_text_renumberAll (lines : List Line) :
    (renumberAll f lines).map (·.text) = lines.map (·.text) := by
  rw [renumberAll, List.map_map]
  rfl

theorem takeWhile_renumberAll {p : Line → Bool} (hp : ∀ l, p (l.renumber f) = p l)
    (lines : List Line) :
    (renumberAll f lines).takeWhile p = renumberAll f (lines.takeWhile p) := by
  rw [renumberAll, List.takeWhile_map, show p ∘ Line.renumber f = p from funext hp]
  rfl

theorem dropWhile_renumberAll {p : Line → Bool} (hp : ∀ l, p (l.renumber f) = p l)
    (lines : List Line) :
    (renumberAll f lines).dropWhile p = renumberAll f (lines.dropWhile p) := by
  rw [renumberAll, List.dropWhile_map, show p ∘ Line.renumber f = p from funext hp]
  rfl

theorem trimBlankEnd_renumberAll (lines : List Line) :
    trimBlankEnd (renumberAll f lines) = renumberAll f (trimBlankEnd lines) := by
  have hdrop := dropWhile_renumberAll f (p := Line.isBlank) (fun _ => rfl) lines.reverse
  simp only [renumberAll] at hdrop
  rw [trimBlankEnd, renumberAll, ← List.map_reverse, hdrop, ← List.map_reverse]
  rfl

theorem minIndent_renumberAll (lines : List Line) :
    minIndent (renumberAll f lines) = minIndent lines := by
  rw [minIndent, renumberAll, List.filter_map, List.map_map]
  rfl

theorem flushed_renumberAll (lines : List Line) :
    flushed (renumberAll f lines) = renumberAll f (flushed lines) := by
  simp only [flushed, trimBlankEnd_renumberAll, minIndent_renumberAll]
  rw [renumberAll, renumberAll, List.map_map, List.map_map]
  rfl

/-! ### Lists and segments -/

theorem itemBody_renumber (m : Marker) (line : Line) (inner : List Line) :
    itemBody m (line.renumber f) (renumberAll f inner) = renumberAll f (itemBody m line inner) := by
  rw [itemBody, flushed_renumberAll]
  rfl

theorem getLast?_any_isBlank_renumberAll (lines : List Line) :
    (renumberAll f lines).getLast?.any Line.isBlank = lines.getLast?.any Line.isBlank := by
  rw [renumberAll, List.getLast?_map]
  cases lines.getLast? <;> rfl

theorem unindentMessage_renumber (kind : ListKind) (item : List Line) (next : Line) :
    unindentMessage kind (renumberAll f item) (next.renumber f)
      = (unindentMessage kind item next).map (Message.renumber f) := by
  rw [unindentMessage, unindentMessage, getLast?_any_isBlank_renumberAll]
  split <;> rfl

theorem takeWhile_isInner_renumberAll (lines : List Line) :
    (renumberAll f lines).takeWhile Line.isInner = renumberAll f (lines.takeWhile Line.isInner) :=
  takeWhile_renumberAll f (fun _ => rfl) lines

theorem dropWhile_isInner_renumberAll (lines : List Line) :
    (renumberAll f lines).dropWhile Line.isInner = renumberAll f (lines.dropWhile Line.isInner) :=
  dropWhile_renumberAll f (fun _ => rfl) lines

theorem readList_renumber (m : Marker) (line : Line) (below : List Line) :
    readList m (line.renumber f) (renumberAll f below) = (readList m line below).renumber f := by
  fun_induction readList m line below with
  | case1 m line below inner item hd =>
    have hdrop := dropWhile_isInner_renumberAll f below
    rw [hd] at hdrop
    rw [readList_of_nil hdrop, takeWhile_isInner_renumberAll, itemBody_renumber]
    rfl
  | case2 m line below inner item next rest hd m' hm run ih =>
    have hdrop := dropWhile_isInner_renumberAll f below
    rw [hd, renumberAll_cons] at hdrop
    rw [readList_of_next hdrop hm, ih, takeWhile_isInner_renumberAll, itemBody_renumber]
    rfl
  | case3 m line below inner item next rest hd hm =>
    have hdrop := dropWhile_isInner_renumberAll f below
    rw [hd, renumberAll_cons] at hdrop
    rw [readList_of_other hdrop hm, takeWhile_isInner_renumberAll, itemBody_renumber,
      ← renumberAll_cons, unindentMessage_renumber]
    rfl

theorem segment_renumber (m : Marker) (run : ListRun) :
    (run.renumber f).segment m = (run.segment m).renumber f := by
  simp only [ListRun.segment, ListRun.renumber, Segment.renumber, List.map_map, Function.comp_def]

theorem mayFollow_renumber (mark : Enumerator) (below : List Line) :
    mayFollow mark (renumberAll f below) = mayFollow mark below := by
  cases below <;> rfl

theorem first?_renumber (line : Text) (below : List Line) :
    Marker.first? line (renumberAll f below) = Marker.first? line below := by
  simp only [Marker.first?, mayFollow_renumber]

theorem indentMessage_renumber (below : List Line) :
    indentMessage (renumberAll f below) = (indentMessage below).map (Message.renumber f) := by
  cases below with
  | nil => rfl
  | cons next rest =>
    rw [renumberAll_cons, indentMessage, indentMessage]
    change (if next.isBlank then none else _) = _
    split <;> rfl

theorem paragraphText_renumber (lines : List Line) :
    paragraphText (renumberAll f lines) = paragraphText lines := by
  rw [paragraphText, map_text_renumberAll, paragraphText]

theorem indentedSegment_renumber (announced : Bool) (inner : List Line) :
    indentedSegment announced (renumberAll f inner)
      = (indentedSegment announced inner).renumber f := by
  cases announced with
  | false => rfl
  | true => rw [indentedSegment, if_pos rfl, map_text_renumberAll]; rfl

/-- Lines with other numbers have the segments with other numbers. -/
theorem segments_renumber (announced : Bool) (lines : List Line) :
    segments announced (renumberAll f lines)
      = (segments announced lines).map (Segment.renumber f) := by
  fun_induction segments announced lines with
  | case1 => rw [renumberAll, List.map_nil, segments_nil, List.map_nil]
  | case2 announced line below hb ih =>
    have hline : (line.renumber f).isBlank = true := hb
    rw [renumberAll_cons, segments_of_blank hline, ih]
  | case3 announced line below hb hi inner segment ih =>
    have hline : (line.renumber f).isBlank = false := Bool.eq_false_iff.2 hb
    have hindent : 0 < (line.renumber f).indent := hi
    rw [renumberAll_cons, segments_of_indented hline hindent, takeWhile_isInner_renumberAll,
      dropWhile_isInner_renumberAll, ih, ← renumberAll_cons, flushed_renumberAll,
      indentedSegment_renumber]
    rfl
  | case4 announced line below hb hi m hm run ih =>
    have hline : (line.renumber f).isBlank = false := Bool.eq_false_iff.2 hb
    have hindent : (line.renumber f).indent = 0 := Nat.eq_zero_of_not_pos hi
    have hfirst := (first?_renumber f line.text below).trans hm
    rw [renumberAll_cons, segments_of_marker hline hindent hfirst, readList_renumber,
      segment_renumber]
    exact congrArg _ ih
  | case5 announced line below hb hi hm text announces hp rest ih =>
    have hline : (line.renumber f).isBlank = false := Bool.eq_false_iff.2 hb
    have hindent : (line.renumber f).indent = 0 := Nat.eq_zero_of_not_pos hi
    have hfirst := (first?_renumber f line.text below).trans hm
    rw [renumberAll_cons, segments_of_paragraph hline hindent hfirst,
      takeWhile_renumberAll f (p := Line.isFlush) fun _ => rfl,
      dropWhile_renumberAll f (p := Line.isFlush) fun _ => rfl, ← renumberAll_cons,
      paragraphText_renumber, indentMessage_renumber, hp]
    exact congrArg _ ih

/-! ### Documents -/

theorem append_renumber (d e : Document) :
    (d.renumber f).append (e.renumber f) = (d.append e).renumber f := by
  simp only [Document.renumber, Document.append, List.map_append]

theorem concat_renumber (documents : List Document) :
    Document.concat (documents.map (Document.renumber f))
      = (Document.concat documents).renumber f := by
  induction documents with
  | nil => rfl
  | cons d ds ih =>
    rw [Document.concat] at ih
    rw [List.map_cons, Document.concat, List.foldr_cons, ih, append_renumber]
    rfl

theorem document_renumber (s : Segment) (bodies : List Document) :
    (s.renumber f).document (bodies.map (Document.renumber f))
      = (s.document bodies).renumber f := by
  have hmessage : (s.message.map (Message.renumber f)).toList
      = s.message.toList.map (Message.renumber f) := by
    cases s.message <;> rfl
  simp only [Segment.document, Document.renumber, Segment.renumber, List.map_map,
    List.flatMap_map, List.map_append, List.map_flatMap, hmessage]
  rfl

/-- Lines with other numbers are read as the document with other numbers in its messages. -/
theorem readDocument_renumber (lines : List Line) :
    readDocument (renumberAll f lines) = (readDocument lines).renumber f := by
  induction lines using readDocument_induction with
  | step lines ih =>
    -- the bodies are renumbered with the lines they are cut from, before they are read
    rw [readDocument_eq, segments_renumber, ← concat_renumber, List.map_map, List.map_map]
    refine congrArg _ (List.map_congr_left fun s hs => ?_)
    have hbodies : (s.renumber f).bodies.map readDocument
        = (s.bodies.map readDocument).map (Document.renumber f) := by
      rw [Segment.renumber, List.map_map, List.map_map]
      exact List.map_congr_left fun body hb => ih s hs body hb
    rw [Function.comp_apply, Function.comp_apply, hbodies, document_renumber]

/-- Lines with the same texts have the same blocks. -/
theorem blocks_readDocument_eq {a b : List Line} (h : a.map (·.text) = b.map (·.text)) :
    (readDocument a).blocks = (readDocument b).blocks := by
  have hnumbers (lines : List Line) :
      renumberAll (fun _ => 0) lines = (lines.map (·.text)).map (Line.mk 0) := by
    rw [renumberAll, List.map_map]
    rfl
  have hblocks (lines : List Line) :
      (readDocument (renumberAll (fun _ => 0) lines)).blocks = (readDocument lines).blocks := by
    rw [readDocument_renumber]
    rfl
  rw [← hblocks a, hnumbers, h, ← hnumbers, hblocks b]

end Testbook.Markup
