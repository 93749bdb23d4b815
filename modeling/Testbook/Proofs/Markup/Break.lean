import Testbook.Proofs.Markup.Indent
import Testbook.Proofs.Markup.Step

/-!
Gaps and breaks. Blank lines end what stands before them, except that an indented block or the next
item of a list may follow. Behind a gap stand lines that start at the margin, so what is in front is
read as it is without them, and only a list at the end may go on (`segments_gap`). Lines behind a
break start with no mark either, and are therefore read on their own (`readDocument_break`); with no
lines behind, the blank lines at the end are nothing at all.
-/

namespace Testbook.Markup

open Testbook.Text

/-- A line at the margin that has no mark, so that no list starts or goes on with it. -/
structure Line.IsUnmarked (l : Line) : Prop where
  solid : l.isBlank = false
  flush : l.indent = 0
  noField : field? l.text = none
  noBullet : bullet? l.text = none
  noEnumerator : RawEnumerator.read? l.text = none

/-- Blank lines, and behind them lines that start at the margin, or none. -/
structure IsGap (blanks after : List Line) : Prop where
  blank : ∀ l ∈ blanks, l.isBlank = true
  margin : ∀ l ∈ after.head?, l.isInner = false
  ne_nil : after ≠ [] → blanks ≠ []

/-- Blank lines, and behind them lines that start with an unmarked one, or none. -/
structure IsBreak (blanks after : List Line) : Prop where
  blank : ∀ l ∈ blanks, l.isBlank = true
  unmarked : ∀ l ∈ after.head?, l.IsUnmarked
  ne_nil : after ≠ [] → blanks ≠ []

/-! ### Unmarked lines -/

namespace Line.IsUnmarked

variable {l : Line}

theorem isInner (h : l.IsUnmarked) : l.isInner = false := by
  rw [Line.isInner, h.solid, h.flush]
  rfl

theorem readIn? (h : l.IsUnmarked) (numbering : Text → Numbering) :
    Enumerator.readIn? numbering l.text = none := by
  rw [Enumerator.readIn?, h.noEnumerator]
  rfl

theorem first? (h : l.IsUnmarked) (below : List Line) : Marker.first? l.text below = none := by
  rw [Marker.first?, h.noField, h.noBullet, Enumerator.first?, h.readIn?]
  rfl

theorem next? (h : l.IsUnmarked) (m : Marker) : m.next? l.text = none := by
  cases m with
  | field name text => rw [Marker.next?, h.noField]; rfl
  | bullet sign text => rw [Marker.next?, h.noBullet]; rfl
  | enumerator mark => rw [Marker.next?, Enumerator.next?, h.readIn?]; rfl

end Line.IsUnmarked

theorem Line.isInner_of_blank {l : Line} (h : l.isBlank = true) : l.isInner = true := by
  rw [Line.isInner, h, Bool.true_or]

theorem Line.isFlush_of_blank {l : Line} (h : l.isBlank = true) : l.isFlush = false := by
  rw [Line.isFlush, h]
  rfl

/-- What is taken from the front ends in front of what does not begin with the like. -/
theorem span_append {α : Type} {p : α → Bool} {ys : List α} (h : ∀ y ∈ ys.head?, p y = false)
    (xs : List α) : (xs ++ ys).takeWhile p = xs.takeWhile p
      ∧ (xs ++ ys).dropWhile p = xs.dropWhile p ++ ys := by
  induction xs with
  | nil =>
    cases ys with
    | nil => exact ⟨rfl, rfl⟩
    | cons y ys =>
      have hy : ¬ p y = true := Bool.eq_false_iff.1 (h y rfl)
      exact ⟨List.takeWhile_cons_of_neg hy, List.dropWhile_cons_of_neg hy⟩
  | cons x xs ih =>
    obtain ⟨htake, hdrop⟩ := ih
    by_cases hx : p x = true
    · rw [List.cons_append, List.takeWhile_cons_of_pos hx, List.dropWhile_cons_of_pos hx, htake,
        hdrop, List.takeWhile_cons_of_pos hx, List.dropWhile_cons_of_pos hx]
      exact ⟨rfl, rfl⟩
    · rw [List.cons_append, List.takeWhile_cons_of_neg hx, List.dropWhile_cons_of_neg hx,
        List.takeWhile_cons_of_neg hx, List.dropWhile_cons_of_neg hx]
      exact ⟨rfl, rfl⟩

theorem IsBreak.isGap {blanks after : List Line} (h : IsBreak blanks after) :
    IsGap blanks after where
  blank := h.blank
  margin := fun l hl => (h.unmarked l hl).isInner
  ne_nil := h.ne_nil

/-- Without lines behind. -/
theorem IsBreak.of_blank {blanks : List Line} (h : ∀ l ∈ blanks, l.isBlank = true) :
    IsBreak blanks [] where
  blank := h
  unmarked := by simp
  ne_nil := fun hne => absurd rfl hne

namespace IsGap

variable {blanks after : List Line}

/-! ### Cutting at a gap -/

theorem takeWhile_isInner (h : IsGap blanks after) :
    (blanks ++ after).takeWhile Line.isInner = blanks := by
  rw [List.takeWhile_append_of_pos fun l hl => Line.isInner_of_blank (h.blank l hl)]
  cases after with
  | nil => exact List.append_nil _
  | cons l rest => rw [List.takeWhile_cons_of_neg (by simp [h.margin l rfl]), List.append_nil]

theorem dropWhile_isInner (h : IsGap blanks after) :
    (blanks ++ after).dropWhile Line.isInner = after := by
  rw [List.dropWhile_append_of_pos fun l hl => Line.isInner_of_blank (h.blank l hl)]
  cases after with
  | nil => rfl
  | cons l rest => exact List.dropWhile_cons_of_neg (by simp [h.margin l rfl])

/-- An indented block that reaches up to the gap takes the blank lines with it. -/
theorem takeWhile_append (h : IsGap blanks after) (below : List Line) :
    (below ++ (blanks ++ after)).takeWhile Line.isInner
      = if below.dropWhile Line.isInner = [] then below ++ blanks
        else below.takeWhile Line.isInner := by
  have hcut := List.takeWhile_append_dropWhile (p := Line.isInner) (l := below)
  rw [List.takeWhile_append, h.takeWhile_isInner]
  by_cases hd : below.dropWhile Line.isInner = []
  · rw [hd, List.append_nil] at hcut
    rw [if_pos hd, hcut, if_pos rfl]
  · have hshort : (below.takeWhile Line.isInner).length ≠ below.length := fun hlen =>
      hd (List.append_right_eq_self.1
        (hcut.trans ((List.takeWhile_prefix _).eq_of_length hlen).symm))
    rw [if_neg hd, if_neg hshort]

/-- Moved to the margin it loses them again. -/
theorem flushed_takeWhile (h : IsGap blanks after) (front below : List Line) :
    flushed (front ++ (below ++ (blanks ++ after)).takeWhile Line.isInner)
      = flushed (front ++ below.takeWhile Line.isInner) := by
  rw [h.takeWhile_append]
  by_cases hd : below.dropWhile Line.isInner = []
  · have hcut := List.takeWhile_append_dropWhile (p := Line.isInner) (l := below)
    rw [hd, List.append_nil] at hcut
    rw [if_pos hd, ← List.append_assoc, flushed_append_of_blank h.blank, hcut]
  · rw [if_neg hd]

/-- Behind an indented block come the lines behind the gap, if the block reaches up to there. -/
theorem dropWhile_append (h : IsGap blanks after) (below : List Line) :
    (below ++ (blanks ++ after)).dropWhile Line.isInner
      = if below.dropWhile Line.isInner = [] then after
        else below.dropWhile Line.isInner ++ (blanks ++ after) := by
  rw [List.dropWhile_append, h.dropWhile_isInner]
  simp only [List.isEmpty_iff]

theorem head?_isBlank (h : IsGap blanks after) :
    ∀ l ∈ (blanks ++ after).head?, l.isBlank = true := by
  intro l hl
  cases blanks with
  | nil =>
    by_cases hafter : after = []
    · simp [hafter] at hl
    · exact absurd rfl (h.ne_nil hafter)
  | cons b bs =>
    obtain rfl : b = l := by simpa using hl
    exact h.blank b List.mem_cons_self

theorem takeWhile_isFlush (h : IsGap blanks after) (below : List Line) :
    (below ++ (blanks ++ after)).takeWhile Line.isFlush = below.takeWhile Line.isFlush
      ∧ (below ++ (blanks ++ after)).dropWhile Line.isFlush
        = below.dropWhile Line.isFlush ++ (blanks ++ after) :=
  span_append (fun l hl => Line.isFlush_of_blank (h.head?_isBlank l hl)) below

end IsGap

section

variable {blanks after : List Line}

/-! ### Lists -/

theorem itemBody_gap (h : IsGap blanks after) (m : Marker) (line : Line) (below : List Line) :
    itemBody m line ((below ++ (blanks ++ after)).takeWhile Line.isInner)
      = itemBody m line (below.takeWhile Line.isInner) := by
  have hflushed := h.flushed_takeWhile [] below
  rw [List.nil_append, List.nil_append] at hflushed
  rw [itemBody, hflushed, itemBody]

theorem unindentMessage_gap (h : IsGap blanks after) (hafter : after ≠ []) (kind : ListKind)
    (item : List Line) (next : Line) : unindentMessage kind (item ++ blanks) next = none := by
  obtain ⟨front, last, hlast⟩ := (List.eq_nil_or_concat blanks).resolve_left (h.ne_nil hafter)
  rw [List.concat_eq_append] at hlast
  have hblank : last.isBlank = true := h.blank last (by simp [hlast])
  rw [unindentMessage, hlast, ← List.append_assoc, List.getLast?_concat, Option.any_some, hblank,
    if_pos rfl]

/-- A list that does not reach up to the gap is the same, and the gap is left with the rest. -/
theorem readList_gap (h : IsGap blanks after) {m : Marker} {line : Line} {below : List Line}
    (hrest : (readList m line below).rest ≠ []) :
    readList m line (below ++ (blanks ++ after))
      = ⟨(readList m line below).items, (readList m line below).message,
          (readList m line below).rest ++ (blanks ++ after)⟩ := by
  fun_induction readList m line below with
  | case1 => exact absurd rfl hrest
  | case2 m line below inner item next rest hd m' hm run ih =>
    have hdrop := h.dropWhile_append below
    rw [hd, if_neg (List.cons_ne_nil _ _), List.cons_append] at hdrop
    rw [readList_of_next hdrop hm, ih hrest, itemBody_gap h]
  | case3 m line below inner item next rest hd hm =>
    have hdrop := h.dropWhile_append below
    rw [hd, if_neg (List.cons_ne_nil _ _), List.cons_append] at hdrop
    have htake := h.takeWhile_append below
    rw [hd, if_neg (List.cons_ne_nil _ _)] at htake
    rw [readList_of_other hdrop hm, itemBody_gap h, htake]
    rfl

/-- A list that ends with the mark `m`, and what it becomes when lines stand behind a gap. -/
def ListRun.resume (run : ListRun) (m : Marker) : List Line → ListRun
  | [] => run
  | next :: rest =>
    match m.next? next.text with
    | some m' =>
      ⟨run.items ++ (readList m' next rest).items, (readList m' next rest).message,
        (readList m' next rest).rest⟩
    | none => ⟨run.items, none, next :: rest⟩

/-- A list that reaches up to the gap goes on behind it if the first line there has the next mark. -/
theorem readList_resume (h : IsGap blanks after) (m : Marker) (line : Line) (below : List Line)
    (hrest : (readList m line below).rest = []) :
    (readList m line below).message = none ∧ ∃ item ∈ (readList m line below).items,
      readList m line (below ++ (blanks ++ after))
        = (readList m line below).resume item.1 after := by
  fun_induction readList m line below with
  | case1 m line below inner item hd =>
    have hdrop := h.dropWhile_append below
    have hbody := itemBody_gap h m line below
    rw [hd, if_pos rfl] at hdrop
    refine ⟨rfl, item, List.mem_singleton_self _, ?_⟩
    cases after with
    | nil => rw [readList_of_nil hdrop, hbody]; rfl
    | cons next rest =>
      have htake := h.takeWhile_append below
      rw [if_pos hd] at htake
      rw [ListRun.resume]
      split
      · next m' hm => rw [readList_of_next hdrop hm, hbody]; rfl
      · next hm =>
        have hmessage :=
          unindentMessage_gap h (List.cons_ne_nil _ _) m.kind (line :: below) next
        rw [readList_of_other hdrop hm, hbody, htake, ← List.cons_append, hmessage]
  | case2 m line below inner item next rest hd m' hm run ih =>
    have hdrop := h.dropWhile_append below
    rw [hd, if_neg (List.cons_ne_nil _ _), List.cons_append] at hdrop
    obtain ⟨hmessage, last, hlast, hread⟩ := ih hrest
    refine ⟨hmessage, last, List.mem_cons_of_mem _ hlast, ?_⟩
    rw [readList_of_next hdrop hm, hread, itemBody_gap h]
    cases after with
    | nil => rfl
    | cons next rest =>
      simp only [ListRun.resume]
      split <;> rfl
  | case3 => exact absurd hrest (List.cons_ne_nil _ _)

/-! ### Segments -/

theorem segments_blanks {announced : Bool} (h : ∀ l ∈ blanks, l.isBlank = true)
    (lines : List Line) : segments announced (blanks ++ lines) = segments announced lines := by
  induction blanks with
  | nil => rfl
  | cons b bs ih =>
    obtain ⟨hb, hbs⟩ := List.forall_mem_cons.1 h
    rw [List.cons_append, segments_of_blank hb, ih hbs]

/-- An announced literal block does not lie behind a gap. -/
theorem segments_of_isGap (h : IsGap blanks after) (announced : Bool) :
    segments announced after = segments false after := by
  cases after with
  | nil => rw [segments_nil, segments_nil]
  | cons l rest =>
    have hl := h.margin l rfl
    rw [Line.isInner, Bool.or_eq_false_iff, decide_eq_false_iff_not, Nat.not_lt,
      Nat.le_zero] at hl
    cases hm : Marker.first? l.text rest with
    | some m => rw [segments_of_marker hl.1 hl.2 hm, segments_of_marker hl.1 hl.2 hm]
    | none => rw [segments_of_paragraph hl.1 hl.2 hm, segments_of_paragraph hl.1 hl.2 hm]

theorem first?_gap (h : IsGap blanks after) (line : Text) (below : List Line) :
    Marker.first? line (below ++ (blanks ++ after)) = Marker.first? line below := by
  have hfollow (mark : Enumerator) :
      mayFollow mark (below ++ (blanks ++ after)) = mayFollow mark below := by
    cases below with
    | cons next rest => rfl
    | nil =>
      have hhead := h.head?_isBlank
      rw [List.nil_append]
      cases htail : blanks ++ after with
      | nil => rfl
      | cons l rest =>
        rw [htail] at hhead
        rw [mayFollow, mayFollow, Line.isInner_of_blank (hhead l rfl), Bool.true_or]
  simp only [Marker.first?, hfollow]

theorem indentMessage_gap (h : IsGap blanks after) (rest : List Line) :
    indentMessage (rest ++ (blanks ++ after)) = indentMessage rest := by
  cases rest with
  | cons next rest => rfl
  | nil =>
    have hhead := h.head?_isBlank
    rw [List.nil_append]
    cases htail : blanks ++ after with
    | nil => rfl
    | cons l rest =>
      rw [htail] at hhead
      exact if_pos (hhead l rfl)

/-- How the segments of lines are related to those of the lines with others behind a gap: segments
in front stay, and at the end a list may go on. -/
theorem segments_gap (h : IsGap blanks after) (related : List Segment → List Segment → Prop)
    (nil : related [] (segments false after))
    (cons : ∀ {s upper whole}, related upper whole → related (s :: upper) (s :: whole))
    (list : ∀ {m line below run} {item : Marker × List Line}, run = readList m line below →
      item ∈ run.items → run.rest = [] → run.message = none →
      related [run.segment m]
        ((run.resume item.1 after).segment m :: segments false (run.resume item.1 after).rest))
    (announced : Bool) (lines : List Line) :
    related (segments announced lines) (segments announced (lines ++ (blanks ++ after))) := by
  fun_induction segments announced lines with
  | case1 announced =>
    rw [List.nil_append, segments_blanks h.blank, segments_of_isGap h]
    exact nil
  | case2 announced line below hb ih =>
    rw [List.cons_append, segments_of_blank hb]
    exact ih
  | case3 announced line below hb hi inner segment ih =>
    have hline : line.isBlank = false := Bool.eq_false_iff.2 hb
    have hflushed := h.flushed_takeWhile [line] below
    rw [List.singleton_append, List.singleton_append] at hflushed
    rw [List.cons_append, segments_of_indented hline hi, hflushed, h.dropWhile_append]
    refine cons ?_
    split
    · next hd =>
      rw [hd, segments_nil]
      exact nil
    · exact ih
  | case4 announced line below hb hi m hm run ih =>
    have hline : line.isBlank = false := Bool.eq_false_iff.2 hb
    have hindent : line.indent = 0 := Nat.eq_zero_of_not_pos hi
    have hfirst := (first?_gap h line.text below).trans hm
    rw [List.cons_append, segments_of_marker hline hindent hfirst]
    by_cases hrest : run.rest = []
    · obtain ⟨hmessage, item, hitem, hread⟩ := readList_resume h m line below hrest
      rw [hrest, segments_nil, hread]
      exact list rfl hitem hrest hmessage
    · rw [readList_gap h hrest]
      exact cons ih
  | case5 announced line below hb hi hm text announces hp rest ih =>
    have hline : line.isBlank = false := Bool.eq_false_iff.2 hb
    have hindent : line.indent = 0 := Nat.eq_zero_of_not_pos hi
    have hfirst := (first?_gap h line.text below).trans hm
    obtain ⟨htake, hdrop⟩ := h.takeWhile_isFlush below
    rw [List.cons_append, segments_of_paragraph hline hindent hfirst, htake, hdrop,
      indentMessage_gap h, hp]
    exact cons ih

/-- The lines behind a break are cut into segments of their own. -/
theorem segments_break (h : IsBreak blanks after) (announced : Bool) (lines : List Line) :
    segments announced (lines ++ (blanks ++ after))
      = segments announced lines ++ segments false after := by
  refine segments_gap h.isGap (fun upper whole => whole = upper ++ segments false after)
    rfl (fun hrest => by rw [hrest, List.cons_append]) ?_ announced lines
  intro m line below run item _ _ hrest hmessage
  -- no mark goes on with the first line behind the break
  have hresume : run.resume item.1 after = ⟨run.items, none, after⟩ := by
    cases after with
    | nil => rw [ListRun.resume, ← hmessage, ← hrest]
    | cons next rest => rw [ListRun.resume, (h.unmarked next rfl).next? item.1]
  rw [hresume, ListRun.segment, ListRun.segment, hmessage]
  rfl

theorem concat_append (a b : List Document) :
    Document.concat (a ++ b) = (Document.concat a).append (Document.concat b) := by
  induction a with
  | nil => rfl
  | cons d ds ih =>
    have hcons (documents : List Document) :
        Document.concat (d :: documents) = d.append (Document.concat documents) := rfl
    rw [List.cons_append, hcons, ih, hcons]
    simp only [Document.append, List.append_assoc]

/-- Lines behind a break are read on their own. -/
theorem readDocument_break (h : IsBreak blanks after) (lines : List Line) :
    readDocument (lines ++ (blanks ++ after))
      = (readDocument lines).append (readDocument after) := by
  rw [readDocument_eq, segments_break h, List.map_append, concat_append, ← readDocument_eq,
    ← readDocument_eq]

end

end Testbook.Markup
