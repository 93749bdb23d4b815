import Testbook.Proofs.Markup.Leaves
import Testbook.Proofs.Text.Tabs
import Mathlib.Data.List.Range

/-!
The lines that messages name. Reading goes down the lines and never back, and a message names the
line at which something else ends. So the numbers of the messages come, in their order, from the
numbers of the lines that are not blank, and never from the first of these. This is kept when a
nested body is cut out (`sublist_readList`, `sublist_segments`), hence it holds at any depth
(`sublist_readDocument`); as lines are numbered in turn, no two messages name the same line.
-/

namespace Testbook.Markup

open Testbook.Text

/-- The numbers of the lines that are not blank. -/
def solidNumbers (lines : List Line) : List Nat := (lines.filter (!·.isBlank)).map (·.number)

variable {l line : Line} {ls lines below : List Line} {later : List Nat}

/-! ### Lines -/

theorem solidNumbers_append (a b : List Line) :
    solidNumbers (a ++ b) = solidNumbers a ++ solidNumbers b := by
  rw [solidNumbers, List.filter_append, List.map_append, solidNumbers, solidNumbers]

theorem solidNumbers_of_blank (h : l.isBlank = true) (ls : List Line) :
    solidNumbers (l :: ls) = solidNumbers ls := by
  rw [solidNumbers, List.filter_cons_of_neg (by simp [h]), solidNumbers]

theorem solidNumbers_of_solid (h : l.isBlank = false) (ls : List Line) :
    solidNumbers (l :: ls) = l.number :: solidNumbers ls := by
  rw [solidNumbers, List.filter_cons_of_pos (by simp [h]), List.map_cons, solidNumbers]

theorem solidNumbers_cut (p : Line → Bool) (lines : List Line) :
    solidNumbers (lines.takeWhile p) ++ solidNumbers (lines.dropWhile p) = solidNumbers lines := by
  rw [← solidNumbers_append, List.takeWhile_append_dropWhile]

/-- A line in front changes at most the first number. -/
theorem tail_solidNumbers_cons (l : Line) (ls : List Line) :
    (solidNumbers (l :: ls)).tail.Sublist (solidNumbers ls) := by
  cases h : l.isBlank with
  | true =>
    rw [solidNumbers_of_blank h]
    exact List.tail_sublist _
  | false =>
    rw [solidNumbers_of_solid h]
    exact List.Sublist.refl _

theorem solidNumbers_map_dedent (n : Nat) (lines : List Line) :
    solidNumbers (lines.map (Line.dedent n)) = solidNumbers lines := by
  have hblank : (!·.isBlank) ∘ Line.dedent n = (!·.isBlank) :=
    funext fun l => congrArg _ (isBlank_dedent n l)
  rw [solidNumbers, List.filter_map, hblank, List.map_map, solidNumbers]
  rfl

/-- A block moved to the margin has lost blank lines only. -/
theorem solidNumbers_flushed (lines : List Line) :
    solidNumbers (flushed lines) = solidNumbers lines := by
  obtain ⟨blanks, hcut, hblanks⟩ := trimBlankEnd_append lines
  have hnone : solidNumbers blanks = [] := by
    have hfilter : blanks.filter (!·.isBlank) = [] :=
      List.filter_eq_nil_iff.2 fun l hl => by simp [hblanks l hl]
    rw [solidNumbers, hfilter, List.map_nil]
  rw [flushed, solidNumbers_map_dedent]
  conv => rhs; rw [hcut]
  rw [solidNumbers_append, hnone, List.append_nil]

/-! ### Messages at the end of a construct -/

/-- A message on the first of the lines that are left comes before those on later ones. -/
theorem sublist_message {message : Option Message}
    (h : ∀ m ∈ message, (solidNumbers lines).head? = some m.line)
    (hlater : later.Sublist (solidNumbers lines).tail) :
    (message.toList.map (·.line) ++ later).Sublist (solidNumbers lines) := by
  cases message with
  | none => exact hlater.trans (List.tail_sublist _)
  | some m =>
    obtain ⟨rest, hrest⟩ := List.head?_eq_some_iff.1 (h m rfl)
    rw [hrest] at hlater ⊢
    exact hlater.cons_cons m.line

theorem line_indentMessage (lines : List Line) :
    ∀ m ∈ indentMessage lines, (solidNumbers lines).head? = some m.line := by
  intro m hm
  cases lines with
  | nil => cases hm
  | cons next rest =>
    cases hb : next.isBlank with
    | true => simp [indentMessage, hb] at hm
    | false =>
      obtain rfl : ⟨next.number, .unexpectedIndentation⟩ = m := by simpa [indentMessage, hb] using hm
      rw [solidNumbers_of_solid hb]
      rfl

theorem line_readList (m : Marker) (line : Line) (below : List Line) :
    ∀ message ∈ (readList m line below).message,
      (solidNumbers (readList m line below).rest).head? = some message.line := by
  fun_induction readList m line below with
  | case1 => rintro message ⟨⟩
  | case2 m line below inner item next rest hd m' hm run ih => exact ih
  | case3 m line below inner item next rest hd hm =>
    intro message hmessage
    -- the list ends at a line that does not belong to an indented block
    have hnext : next.isInner = false := by
      have hhead := List.head?_dropWhile_not Line.isInner below
      rw [hd] at hhead
      simpa using hhead
    have hsolid : next.isBlank = false := (Bool.or_eq_false_iff.1 hnext).1
    rw [solidNumbers_of_solid hsolid, List.head?_cons]
    rw [unindentMessage] at hmessage
    split at hmessage
    · cases hmessage
    · cases hmessage
      rfl

/-! ### Lists and segments -/

section

variable {numbers : List Line → List Nat} {announced : Bool}

/-- If every body names lines of its own below the first, so do all items of a list together, and
what is named later stands below them. -/
theorem sublist_readList {m : Marker}
    (h : ∀ item ∈ (readList m line below).items,
      (numbers item.2).Sublist (solidNumbers item.2).tail)
    (hlater : later.Sublist (solidNumbers (readList m line below).rest)) :
    ((readList m line below).items.flatMap (fun item => numbers item.2) ++ later).Sublist
      (solidNumbers below) := by
  have hbody (m : Marker) (line : Line) (below : List Line)
      (hitem : (numbers (itemBody m line (below.takeWhile Line.isInner))).Sublist
        (solidNumbers (itemBody m line (below.takeWhile Line.isInner))).tail) :
      (numbers (itemBody m line (below.takeWhile Line.isInner))).Sublist
        (solidNumbers (below.takeWhile Line.isInner)) := by
    rw [← solidNumbers_flushed (below.takeWhile Line.isInner)]
    exact hitem.trans (tail_solidNumbers_cons _ _)
  fun_induction readList m line below with
  | case1 m line below inner item hd =>
    obtain rfl : later = [] := List.sublist_nil.1 hlater
    rw [List.append_nil, List.flatMap_singleton]
    refine (hbody m line below (h item List.mem_cons_self)).trans ?_
    rw [← solidNumbers_cut Line.isInner below]
    exact List.sublist_append_left _ _
  | case2 m line below inner item next rest hd m' hm run ih =>
    obtain ⟨hitem, hitems⟩ := List.forall_mem_cons.1 h
    have hrest : (run.items.flatMap (fun item => numbers item.2) ++ later).Sublist
        (solidNumbers (next :: rest)) :=
      (ih hitems hlater).trans (((List.sublist_cons_self next rest).filter _).map _)
    rw [List.flatMap_cons, List.append_assoc, ← solidNumbers_cut Line.isInner below, hd]
    exact (hbody m line below hitem).append hrest
  | case3 m line below inner item next rest hd hm =>
    rw [List.flatMap_singleton, ← solidNumbers_cut Line.isInner below, hd]
    exact (hbody m line below (h item List.mem_cons_self)).append hlater

/-- If every body names lines of its own below the first, so do all segments together. -/
theorem sublist_segments (h : ∀ s ∈ segments announced lines, ∀ body ∈ s.bodies,
      (numbers body).Sublist (solidNumbers body).tail) :
    ((segments announced lines).flatMap fun s =>
        s.bodies.flatMap numbers ++ s.message.toList.map (·.line)).Sublist
      (solidNumbers lines).tail := by
  fun_induction segments announced lines with
  | case1 => exact List.nil_sublist _
  | case2 announced line below hb ih =>
    rw [solidNumbers_of_blank hb]
    exact ih h
  | case3 announced line below hb hi inner segment ih =>
    obtain ⟨hsegment, hrest⟩ := List.forall_mem_cons.1 h
    have hline : line.isBlank = false := Bool.eq_false_iff.2 hb
    -- of an indented block only a quote has a body, and neither has a message
    have hinner : (segment.bodies.flatMap numbers ++ segment.message.toList.map (·.line)).Sublist
        (solidNumbers (below.takeWhile Line.isInner)) := by
      have hsolid : (solidNumbers inner).tail = solidNumbers (below.takeWhile Line.isInner) := by
        rw [solidNumbers_flushed, solidNumbers_of_solid hline, List.tail_cons]
      cases announced with
      | true => exact List.nil_sublist _
      | false =>
        have hquote := hsegment inner List.mem_cons_self
        rw [hsolid] at hquote
        simpa [segment] using hquote
    rw [solidNumbers_of_solid hline, List.tail_cons, List.flatMap_cons,
      ← solidNumbers_cut Line.isInner below]
    exact hinner.append ((ih hrest).trans (List.tail_sublist _))
  | case4 announced line below hb hi m hm run ih =>
    obtain ⟨hsegment, hrest⟩ := List.forall_mem_cons.1 h
    have hline : line.isBlank = false := Bool.eq_false_iff.2 hb
    have hitems : ∀ item ∈ run.items, (numbers item.2).Sublist (solidNumbers item.2).tail :=
      fun item hitem => hsegment item.2 (List.mem_map_of_mem hitem)
    have hlater := sublist_message (line_readList m line below) (ih hrest)
    rw [solidNumbers_of_solid hline, List.tail_cons, List.flatMap_cons, List.append_assoc,
      ListRun.segment, List.flatMap_map]
    exact sublist_readList hitems hlater
  | case5 announced line below hb hi hm text announces hp rest ih =>
    obtain ⟨-, hrest⟩ := List.forall_mem_cons.1 h
    have hline : line.isBlank = false := Bool.eq_false_iff.2 hb
    rw [solidNumbers_of_solid hline, List.tail_cons, List.flatMap_cons, List.flatMap_nil,
      List.nil_append, ← solidNumbers_cut Line.isFlush below]
    exact (sublist_message (line_indentMessage rest) (ih hrest)).trans
      (List.sublist_append_right _ _)

end

/-! ### Documents -/

/-- The messages of lines name lines that are not blank, in their order and each at most once, and
never the first of them. -/
theorem sublist_readDocument (lines : List Line) :
    ((readDocument lines).messages.map (·.line)).Sublist (solidNumbers lines).tail := by
  induction lines using readDocument_induction with
  | step lines ih =>
    rw [← readDocument_eq, messages_readDocument, List.map_flatMap]
    simp only [List.map_append, List.map_flatMap]
    exact sublist_segments ih

theorem numbers_readLines (text : Text) :
    (readLines text).map (·.number) = List.range' 1 (rawLines text).length := by
  refine List.ext_getElem (by simp [readLines]) fun i hi hi' => ?_
  simp [readLines, Nat.add_comm]

theorem pairwise_solidNumbers_readLines (text : Text) :
    (solidNumbers (readLines text)).Pairwise (· < ·) := by
  have hsub := (List.filter_sublist (p := (!·.isBlank)) (l := readLines text)).map (·.number)
  rw [numbers_readLines] at hsub
  exact (List.pairwise_lt_range' (s := 1)).sublist hsub

/-- A number of a line that is not blank belongs to a line of the text that is not blank. -/
theorem exists_of_mem_solidNumbers {text : Text} {n : Nat}
    (h : n ∈ solidNumbers (readLines text)) :
    1 ≤ n ∧ ∃ raw, (rawLines text)[n - 1]? = some raw ∧ isAllBlank raw = false := by
  obtain ⟨l, hl, rfl⟩ := List.mem_map.1 h
  obtain ⟨hmem, hb⟩ := List.mem_filter.1 hl
  obtain ⟨i, hi, rfl⟩ := List.mem_mapIdx.1 hmem
  refine ⟨Nat.le_add_left 1 i, _, List.getElem?_eq_getElem hi, ?_⟩
  simpa [Line.isBlank, isAllBlank_trimEnd, isAllBlank_expandTabs] using hb

/-- The messages on a text name its lines in order, each line at most once, never the first, and
never a blank one. -/
theorem messages_parse {text : Text} {document : Document} (h : parse text = .ok document) :
    (document.messages.map (·.line)).Pairwise (· < ·)
      ∧ ∀ m ∈ document.messages, 2 ≤ m.line ∧ m.line ≤ (rawLines text).length
        ∧ ∃ raw, (rawLines text)[m.line - 1]? = some raw ∧ isAllBlank raw = false := by
  obtain ⟨-, rfl⟩ := parse_eq_ok h
  have hsub := sublist_readDocument (readLines text)
  have hordered := pairwise_solidNumbers_readLines text
  refine ⟨(hordered.sublist (List.tail_sublist _)).sublist hsub, fun m hm => ?_⟩
  have hmem : m.line ∈ (solidNumbers (readLines text)).tail :=
    hsub.subset (List.mem_map_of_mem hm)
  obtain ⟨hpos, raw, hraw, hsolid⟩ := exists_of_mem_solidNumbers (List.mem_of_mem_tail hmem)
  refine ⟨?_, ?_, raw, hraw, hsolid⟩
  · -- a line that is not blank stands above, and its number is at least one
    obtain ⟨first, rest, hcons⟩ := List.exists_cons_of_ne_nil
      (List.ne_nil_of_mem (List.mem_of_mem_tail hmem))
    rw [hcons] at hordered hmem
    have hfirst : first ∈ solidNumbers (readLines text) := hcons ▸ List.mem_cons_self
    have hlow := (exists_of_mem_solidNumbers hfirst).1
    have hlt := List.rel_of_pairwise_cons hordered hmem
    omega
  · have hlt := (List.getElem?_eq_some_iff.1 hraw).1
    omega

/-- In the body of an item, at the end of the list and behind it. -/
theorem messages_parse_nested :
    ∃ document, parse "* a\n  b\n    c\nend\n d" = .ok document
      ∧ document.messages = [⟨3, .unexpectedIndentation⟩, ⟨4, .unexpectedUnindent .bullet⟩,
        ⟨5, .unexpectedIndentation⟩]
      ∧ (document.messages.map (·.line)).Pairwise (· < ·)
      ∧ ∀ m ∈ document.messages, 2 ≤ m.line
        ∧ m.line ≤ (rawLines "* a\n  b\n    c\nend\n d").length
        ∧ ∃ raw, (rawLines "* a\n  b\n    c\nend\n d")[m.line - 1]? = some raw
          ∧ isAllBlank raw = false := by
  have hparse : parse "* a\n  b\n    c\nend\n d"
      = .ok (readDocument (readLines "* a\n  b\n    c\nend\n d")) :=
    parse_of_allowed (by decide +kernel)
  exact ⟨_, hparse, by decide +kernel, messages_parse hparse⟩

end Testbook.Markup
