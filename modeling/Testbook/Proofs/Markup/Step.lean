import Testbook.Markup.Parse

/-!
What one step of reading does. A list goes on with its next item or ends; the segments of lines
start with a blank line, an indented block, a list or a paragraph. Each of these is an equation
under the condition that picks it, and later proofs use these and do not open the definitions.
Documents are read by induction on the bodies of their segments (`readDocument_induction`).
-/

namespace Testbook.Markup

open Testbook.Text

/-! ### Lists -/

section

variable {m : Marker} {line : Line} {below : List Line}

/-- A list ends with the lines. -/
theorem readList_of_nil (h : below.dropWhile Line.isInner = []) :
    readList m line below = ⟨[(m, itemBody m line (below.takeWhile Line.isInner))], none, []⟩ := by
  rw [readList]
  split
  · rfl
  · next hd => rw [h] at hd; simp at hd

/-- A list goes on with the next item. -/
theorem readList_of_next {next : Line} {rest : List Line} {m' : Marker}
    (h : below.dropWhile Line.isInner = next :: rest) (hm : m.next? next.text = some m') :
    readList m line below
      = ⟨(m, itemBody m line (below.takeWhile Line.isInner)) :: (readList m' next rest).items,
          (readList m' next rest).message, (readList m' next rest).rest⟩ := by
  rw [readList]
  split
  · next hd => rw [h] at hd; simp at hd
  · next hd =>
    obtain ⟨rfl, rfl⟩ := List.cons.inj (h.symm.trans hd)
    rw [hm]

/-- A list ends before a line that does not continue it. -/
theorem readList_of_other {next : Line} {rest : List Line}
    (h : below.dropWhile Line.isInner = next :: rest) (hm : m.next? next.text = none) :
    readList m line below
      = ⟨[(m, itemBody m line (below.takeWhile Line.isInner))],
          unindentMessage m.kind (line :: below.takeWhile Line.isInner) next, next :: rest⟩ := by
  rw [readList]
  split
  · next hd => rw [h] at hd; simp at hd
  · next hd =>
    obtain ⟨rfl, rfl⟩ := List.cons.inj (h.symm.trans hd)
    rw [hm]

theorem items_readList_ne_nil (m : Marker) (line : Line) (below : List Line) :
    (readList m line below).items ≠ [] := by
  fun_induction readList m line below <;> exact List.cons_ne_nil _ _

/-- What holds of the first mark of a list, and is kept from each mark to the next, holds of the
marks of all items. -/
theorem forall_marks_readList {p : Marker → Prop}
    (hstep : ∀ {m m' : Marker} {line : Text}, p m → m.next? line = some m' → p m') (hm : p m)
    (line : Line) (below : List Line) : ∀ item ∈ (readList m line below).items, p item.1 := by
  fun_induction readList m line below with
  | case1 m line below inner item hd => exact List.forall_mem_singleton.2 hm
  | case2 m line below inner item next rest hd m' hnext run ih =>
    exact List.forall_mem_cons.2 ⟨hm, ih (hstep hm hnext)⟩
  | case3 m line below inner item next rest hd hnext => exact List.forall_mem_singleton.2 hm

end

/-! ### Segments -/

section

variable {announced : Bool} {line : Line} {below : List Line}

@[simp]
theorem segments_nil : segments announced [] = [] := by rw [segments]

/-- Blank lines are passed over. -/
theorem segments_of_blank (h : line.isBlank = true) :
    segments announced (line :: below) = segments announced below := by
  rw [segments, if_pos h]

/-- The segment of an indented block. -/
def indentedSegment (announced : Bool) (inner : List Line) : Segment :=
  if announced then ⟨.literal (join ['\n'] (inner.map (·.text))), [], none⟩
  else ⟨.quote, [inner], none⟩

/-- An indented block is a segment. -/
theorem segments_of_indented (hb : line.isBlank = false) (hi : 0 < line.indent) :
    segments announced (line :: below)
      = indentedSegment announced (flushed (line :: below.takeWhile Line.isInner))
        :: segments false (below.dropWhile Line.isInner) := by
  rw [segments, if_neg (by simp [hb]), if_pos hi]
  rfl

/-- A list is a segment. -/
theorem segments_of_marker {m : Marker} (hb : line.isBlank = false) (hi : line.indent = 0)
    (hm : Marker.first? line.text below = some m) :
    segments announced (line :: below)
      = (readList m line below).segment m :: segments false (readList m line below).rest := by
  rw [segments, if_neg (by simp [hb]), if_neg (by omega), hm]

/-- A paragraph is a segment, and may announce a literal block. -/
theorem segments_of_paragraph (hb : line.isBlank = false) (hi : line.indent = 0)
    (hm : Marker.first? line.text below = none) :
    segments announced (line :: below)
      = ⟨.paragraph (paragraphText (line :: below.takeWhile Line.isFlush)).1, [],
          indentMessage (below.dropWhile Line.isFlush)⟩
        :: segments (paragraphText (line :: below.takeWhile Line.isFlush)).2
          (below.dropWhile Line.isFlush) := by
  rw [segments, if_neg (by simp [hb]), if_neg (by omega), hm]

end

/-! ### Documents -/

/-- What follows for lines from the bodies of their segments holds for all lines. -/
theorem readDocument_induction {motive : List Line → Document → Prop}
    (step : ∀ lines,
      (∀ s ∈ segments false lines, ∀ body ∈ s.bodies, motive body (readDocument body)) →
      motive lines (Document.concat ((segments false lines).map fun s =>
        s.document (s.bodies.map readDocument))))
    (lines : List Line) : motive lines (readDocument lines) := by
  induction hw : weight lines using Nat.strongRecOn generalizing lines with
  | ind w ih =>
    rw [readDocument_eq]
    -- every body is lighter than the lines it is cut from
    refine step lines fun s hs body hb => ?_
    exact ih (weight body) (hw ▸ weight_body_lt false lines s hs body hb) body rfl

theorem blocks_concat (documents : List Document) :
    (Document.concat documents).blocks = documents.flatMap (·.blocks) := by
  induction documents with
  | nil => rfl
  | cons d ds ih => rw [List.flatMap_cons, ← ih]; rfl

/-- The blocks of lines are those of their segments. -/
theorem blocks_readDocument (lines : List Line) :
    (readDocument lines).blocks = (segments false lines).flatMap fun s =>
      s.construct.blocks (s.bodies.map fun body => (readDocument body).blocks) := by
  rw [readDocument_eq, blocks_concat, List.flatMap_map]
  simp only [Segment.document, List.map_map]
  rfl

theorem messages_concat (documents : List Document) :
    (Document.concat documents).messages = documents.flatMap (·.messages) := by
  induction documents with
  | nil => rfl
  | cons d ds ih => rw [List.flatMap_cons, ← ih]; rfl

/-- The messages of lines are those of their segments, of the bodies first. -/
theorem messages_readDocument (lines : List Line) :
    (readDocument lines).messages = (segments false lines).flatMap fun s =>
      (s.bodies.flatMap fun body => (readDocument body).messages) ++ s.message.toList := by
  rw [readDocument_eq, messages_concat, List.flatMap_map]
  simp only [Segment.document, List.flatMap_map]

/-- A text without characters that are refused can be read. -/
theorem parse_of_allowed {text : Text} (h : findBadCharacter 1 (splitOn '\n' text) = none) :
    parse text = .ok (readDocument (readLines text)) := by
  rw [parse, h]

/-- A text that can be read holds no character that is refused. -/
theorem parse_eq_ok {text : Text} {document : Document} (h : parse text = .ok document) :
    findBadCharacter 1 (splitOn '\n' text) = none ∧ readDocument (readLines text) = document := by
  rw [parse] at h
  cases hbad : findBadCharacter 1 (splitOn '\n' text) with
  | some bad => simp [hbad] at h
  | none =>
    rw [hbad] at h
    exact ⟨rfl, Except.ok.inj h⟩

end Testbook.Markup
