import Testbook.Proofs.Markup.Indent
import Testbook.Proofs.Markup.Step
import Testbook.Proofs.Results
import Mathlib.Data.List.Induction
import Mathlib.Data.List.TakeWhile

/-!
Reading lines by their indices. Here the lines stay where they are and loops go over their indices,
so that a loop may look where there is no line, or never come to an end; neither can be seen in a
reader that takes lines from the front of a list. That neither happens is shown loop by loop, each
against the function that takes the lines below: `exists_scan`, `exists_list`,
`cutsInto_segments`, and in the end `Cut.read_eq`. With every nested body goes where it is cut from.
-/

namespace Testbook.Markup

open Testbook.Text

/-- A place without a line that was looked at. -/
structure OutOfRange where
  index : Nat

/-- A computation that may look at a place without a line, or run on for ever. -/
abbrev Indexed := ExceptT OutOfRange Option

/-- A place among lines; it may lie behind the last line. -/
structure Place where
  lines : List Line
  index : Nat

/-- The line at an index. -/
def lineAt (lines : List Line) (i : Nat) : Indexed Line :=
  match lines[i]? with
  | some line => pure line
  | none => throw ⟨i⟩

/-- The line at an index, if the lines reach that far. -/
def lineAt? (lines : List Line) (i : Nat) : Indexed (Option Line) := do
  if i < lines.length then return some (← lineAt lines i) else return none

/-- The lines from one index up to another. -/
def between (lines : List Line) (start stop : Nat) : List Line := (lines.take stop).drop start

/-- The lines from one index up to another, if the lines reach that far. -/
def slice (lines : List Line) (start stop : Nat) : Indexed (List Line) :=
  if start ≤ stop ∧ stop ≤ lines.length then pure (between lines start stop) else throw ⟨stop⟩

/-- The index of the first line from a place on of which `p` does not hold. -/
def Place.scan (p : Line → Bool) : Place → Indexed Nat
  | ⟨lines, i⟩ => do
    if i < lines.length then
      if p (← lineAt lines i) then Place.mk lines (i + 1) |>.scan p else return i
    else return i
partial_fixpoint

/-- The index behind the last line before a place that is not blank. -/
def Place.solidEnd : Place → Indexed Nat
  | ⟨lines, i⟩ => do
    if 0 < i then
      if (← lineAt lines (i - 1)).isBlank then Place.mk lines (i - 1) |>.solidEnd else return i
    else return i
partial_fixpoint

/-- The lines from one index up to another without blank lines at the end, moved to the margin. -/
def flushedAt (lines : List Line) (start stop : Nat) : Indexed (List Line) := do
  let block ← slice lines start stop
  let kept ← slice block 0 (← Place.solidEnd ⟨block, block.length⟩)
  return kept.map (Line.dedent (minIndent kept))

/-- A nested body, and the indices of the lines that it is cut from. -/
structure Cut where
  start : Nat
  stop : Nat
  body : List Line

/-- The body of the item whose mark `m` stands on a line. -/
def itemAt (m : Marker) (lines : List Line) (i : Nat) : Indexed Cut := do
  let stop ← Place.scan Line.isInner ⟨lines, i + 1⟩
  let inner ← flushedAt lines (i + 1) stop
  return ⟨i, stop, ⟨(← lineAt lines i).number, m.text⟩ :: inner⟩

/-- The mark of a list on the line where its next item is read: a field or bullet is looked for
again, an enumerator is known. -/
def Marker.again? (m : Marker) (line : Text) : Option Marker :=
  match m with
  | .enumerator _ => some m
  | _ => m.next? line

/-- The message on a list that ends before an index. -/
def unindentMessageAt (kind : ListKind) (lines : List Line) (next : Nat) :
    Indexed (Option Message) := do
  if next < lines.length ∧ 0 < next then
    if (← lineAt lines (next - 1)).isBlank then return none
    else return some ⟨(← lineAt lines next).number, .unexpectedUnindent kind⟩
  else return none

/-- The items of a list with their bodies, the message on its end, and the index behind it. -/
structure ListAt where
  items : List (Marker × Cut)
  message : Option Message
  next : Nat

/-- The list whose next item has mark `m` on the line at a place. -/
def Place.list (m : Marker) : Place → Indexed ListAt
  | ⟨lines, i⟩ => do
    match m.again? (← lineAt lines i).text with
    | none => return ⟨[], none, i⟩
    | some m =>
      let cut ← itemAt m lines i
      let next ← Place.scan Line.isBlank ⟨lines, cut.stop⟩
      match (← lineAt? lines next).bind fun line => m.next? line.text with
      | some m' =>
        let run ← Place.mk lines next |>.list m'
        return ⟨(m, cut) :: run.items, run.message, run.next⟩
      | none => return ⟨[(m, cut)], ← unindentMessageAt m.kind lines next, next⟩
partial_fixpoint

/-- The mark that opens a list on the line at an index. Of the lines below only the next is looked
at. -/
def firstMarkAt (lines : List Line) (i : Nat) : Indexed (Option Marker) := do
  let line ← lineAt lines i
  let below ← lineAt? lines (i + 1)
  return Marker.first? line.text below.toList

/-- A construct, the indices of its lines, its nested bodies and the message on its end. -/
structure SegmentAt where
  start : Nat
  stop : Nat
  construct : Construct
  cuts : List Cut
  message : Option Message

/-- The segments from a place on. -/
def Place.segments (announced : Bool) : Place → Indexed (List SegmentAt)
  | ⟨lines, i⟩ => do
    if i < lines.length then
      let line ← lineAt lines i
      if line.isBlank then Place.mk lines (i + 1) |>.segments announced
      else if 0 < line.indent then
        let stop ← Place.scan Line.isInner ⟨lines, i⟩
        let inner ← flushedAt lines i stop
        let later ← Place.mk lines stop |>.segments false
        if announced then
          return ⟨i, stop, .literal (join ['\n'] (inner.map (·.text))), [], none⟩ :: later
        else return ⟨i, stop, .quote, [⟨i, stop, inner⟩], none⟩ :: later
      else match ← firstMarkAt lines i with
        | some m =>
          let run ← Place.list m ⟨lines, i⟩
          let later ← Place.mk lines run.next |>.segments false
          return ⟨i, run.next, .ofMarkers m (run.items.map (·.1)), run.items.map (·.2),
            run.message⟩ :: later
        | none =>
          let stop ← Place.scan Line.isFlush ⟨lines, i⟩
          let paragraph := paragraphText (← slice lines i stop)
          let ahead ← lineAt? lines stop
          let later ← Place.mk lines stop |>.segments paragraph.2
          return ⟨i, stop, .paragraph paragraph.1, [], indentMessage ahead.toList⟩ :: later
    else return []
partial_fixpoint

/-- The segment without its indices. -/
def SegmentAt.segment (s : SegmentAt) : Segment := ⟨s.construct, s.cuts.map (·.body), s.message⟩

/-- The document that a body makes up. -/
def Cut.read : Cut → Indexed Document
  | ⟨_, _, body⟩ => do
    let segments ← Place.segments false ⟨body, 0⟩
    let documents ← segments.mapM fun s => do
      let bodies ← s.cuts.mapM fun cut => cut |>.read
      return s.segment.document bodies
    return Document.concat documents
partial_fixpoint

/-- Reads a structured text. -/
def parseAt (text : Text) : Indexed (Except BadCharacter Document) :=
  match findBadCharacter 1 (splitOn '\n' text) with
  | some bad => return .error bad
  | none =>
    let lines := readLines text
    return .ok (← Cut.read ⟨0, lines.length, lines⟩)

/-! ### Lines between indices -/

section

variable {p : Line → Bool} {line : Line} {below lines : List Line} {i start stop : Nat}

theorem lt_length_of_drop (h : lines.drop i = line :: below) : i < lines.length := by
  have := congrArg List.length h
  rw [List.length_drop, List.length_cons] at this
  omega

theorem drop_succ_of_drop (h : lines.drop i = line :: below) : lines.drop (i + 1) = below := by
  rw [← List.drop_drop, h, List.drop_succ_cons, List.drop_zero]

theorem between_self (lines : List Line) (i : Nat) : between lines i i = [] := by
  simp [between]

theorem between_of_drop (h : lines.drop i = line :: below) (hi : i < stop) :
    between lines i stop = line :: between lines (i + 1) stop := by
  have hstop : stop - i = (stop - (i + 1)) + 1 := by omega
  rw [between, between, List.drop_take, List.drop_take, h, drop_succ_of_drop h, hstop,
    List.take_succ_cons]

theorem between_succ (h : lines.drop i = line :: below) : between lines i (i + 1) = [line] := by
  rw [between_of_drop h (Nat.lt_succ_self i), between_self]

theorem between_append {middle : Nat} (h : start ≤ middle) (hs : middle ≤ stop) :
    between lines start stop = between lines start middle ++ between lines middle stop := by
  have hstop : stop - start = (middle - start) + (stop - middle) := by omega
  rw [between, between, between, List.drop_take, List.drop_take, List.drop_take, hstop,
    List.take_add, List.drop_drop, Nat.add_sub_of_le h]

theorem lineAt_of_drop (h : lines.drop i = line :: below) : lineAt lines i = pure line := by
  rw [lineAt, ← List.head?_drop, h]
  rfl

theorem lineAt?_eq (lines : List Line) (i : Nat) :
    lineAt? lines i = pure (lines.drop i).head? := by
  rw [lineAt?]
  cases h : lines.drop i with
  | nil => rw [if_neg (Nat.not_lt.2 (List.drop_eq_nil_iff.1 h))]; rfl
  | cons line below => rw [if_pos (lt_length_of_drop h), lineAt_of_drop h, pure_bind]; rfl

/-- Behind `line` at an index, a loop stops where taking the lines `below` while `p` holds does. -/
structure Scanned (p : Line → Bool) (lines : List Line) (i stop : Nat) (line : Line)
    (below : List Line) : Prop where
  lt : i < stop
  le_length : stop ≤ lines.length
  between_eq : between lines i stop = line :: below.takeWhile p
  drop_eq : lines.drop stop = below.dropWhile p

theorem exists_scan (p : Line → Bool) (h : lines.drop i = line :: below) :
    ∃ stop, Place.scan p ⟨lines, i + 1⟩ = pure stop ∧ Scanned p lines i stop line below := by
  induction below generalizing i line with
  | nil =>
    have hend := drop_succ_of_drop h
    rw [Place.scan, if_neg (Nat.not_lt.2 (List.drop_eq_nil_iff.1 hend))]
    exact ⟨i + 1, rfl, Nat.lt_succ_self i, lt_length_of_drop h, between_succ h, hend⟩
  | cons next below ih =>
    have hnext := drop_succ_of_drop h
    rw [Place.scan, if_pos (lt_length_of_drop hnext), lineAt_of_drop hnext, pure_bind]
    cases hp : p next with
    | false =>
      refine ⟨i + 1, rfl, Nat.lt_succ_self i, lt_length_of_drop h, ?_, ?_⟩
      · rw [between_succ h, List.takeWhile_cons, hp]
        rfl
      · rw [hnext, List.dropWhile_cons, hp]
        rfl
    | true =>
      obtain ⟨stop, hscan, hs⟩ := ih hnext
      refine ⟨stop, hscan, Nat.lt_of_succ_lt hs.lt, hs.le_length, ?_, ?_⟩
      · rw [between_of_drop h (Nat.lt_of_succ_lt hs.lt), hs.between_eq,
          List.takeWhile_cons_of_pos hp]
      · rw [hs.drop_eq, List.dropWhile_cons_of_pos hp]

/-- A loop moves on over a line of which `p` holds. -/
theorem exists_scan_of_pos (h : lines.drop i = line :: below) (hp : p line = true) :
    ∃ stop, Place.scan p ⟨lines, i⟩ = pure stop ∧ Scanned p lines i stop line below := by
  rw [Place.scan, if_pos (lt_length_of_drop h), lineAt_of_drop h, pure_bind, if_pos hp]
  exact exists_scan p h

/-- The loop from the end stops where blank lines at the end would be dropped. -/
theorem solidEnd_append (front rest : List Line) :
    Place.solidEnd ⟨front ++ rest, front.length⟩ = pure (trimBlankEnd front).length := by
  induction front using List.reverseRecOn generalizing rest with
  | nil => rw [Place.solidEnd]; rfl
  | append_singleton front line ih =>
    have hline : (front ++ ([line] ++ rest)).drop front.length = line :: rest := by simp
    rw [Place.solidEnd, if_pos (by simp), List.append_assoc, List.length_append,
      List.length_singleton, Nat.add_sub_cancel, lineAt_of_drop hline, pure_bind]
    cases hb : line.isBlank with
    | false =>
      rw [trimBlankEnd_concat hb, List.length_append]
      rfl
    | true =>
      rw [trimBlankEnd_append_of_blank (by simpa using hb), ← ih ([line] ++ rest)]
      rfl

theorem slice_eq (h : start ≤ stop) (hs : stop ≤ lines.length) :
    slice lines start stop = pure (between lines start stop) :=
  if_pos ⟨h, hs⟩

theorem flushedAt_eq (h : start ≤ stop) (hs : stop ≤ lines.length) :
    flushedAt lines start stop = pure (flushed (between lines start stop)) := by
  generalize hblock : between lines start stop = block
  have hend : Place.solidEnd ⟨block, block.length⟩ = pure (trimBlankEnd block).length := by
    simpa using solidEnd_append block []
  obtain ⟨blanks, hcut, -⟩ := trimBlankEnd_append block
  have hkept : slice block 0 (trimBlankEnd block).length = pure (trimBlankEnd block) := by
    have hle : (trimBlankEnd block).length ≤ block.length := (trimBlankEnd_sublist block).length_le
    rw [slice_eq (Nat.zero_le _) hle, between, List.drop_zero]
    exact congrArg pure (List.prefix_iff_eq_take.1 ⟨blanks, hcut.symm⟩).symm
  rw [flushedAt, slice_eq h hs, hblock, pure_bind, hend, pure_bind, hkept, pure_bind]
  rfl

end

/-! ### Lists -/

section

variable {m : Marker} {line : Line} {below lines : List Line} {i : Nat}

/-- A body that is cut from lines between two indices, and is lighter than the lines cut. -/
structure Cut.IsWithin (cut : Cut) (lines : List Line) (start stop : Nat) : Prop where
  start_le : start ≤ cut.start
  start_lt_stop : cut.start < cut.stop
  stop_le : cut.stop ≤ stop
  lighter : weight cut.body < weight (between lines cut.start cut.stop)

theorem Cut.IsWithin.mono {cut : Cut} {start stop start' stop' : Nat}
    (h : cut.IsWithin lines start stop) (hstart : start' ≤ start) (hstop : stop ≤ stop') :
    cut.IsWithin lines start' stop' where
  start_le := Nat.le_trans hstart h.start_le
  start_lt_stop := h.start_lt_stop
  stop_le := Nat.le_trans h.stop_le hstop
  lighter := h.lighter

theorem Cut.IsWithin.lt {cut : Cut} {start stop : Nat} (h : cut.IsWithin lines start stop) :
    start < stop :=
  Nat.lt_of_le_of_lt h.start_le (Nat.lt_of_lt_of_le h.start_lt_stop h.stop_le)

/-- A mark that stands on a line is found there again. -/
theorem Marker.IsOn.again? {text : Text} (h : m.IsOn text) : m.again? text = some m := by
  cases h with
  | field h => simp [Marker.again?, Marker.next?, h]
  | bullet h => simp [Marker.again?, Marker.next?, h]
  | enumerator h => rfl

/-- To tell whether a line opens a list, the line below it is all that is needed. -/
theorem firstMarkAt_of_drop (h : lines.drop i = line :: below) :
    firstMarkAt lines i = pure (Marker.first? line.text below) := by
  rw [firstMarkAt, lineAt_of_drop h, pure_bind, lineAt?_eq, drop_succ_of_drop h, pure_bind]
  cases below <;> rfl

/-- The item whose mark `m` stands on `line`, with the lines `below` it, read at an index. -/
structure Cut.IsItem (cut : Cut) (m : Marker) (lines : List Line) (i : Nat) (line : Line)
    (below : List Line) : Prop where
  body_eq : cut.body = itemBody m line (below.takeWhile Line.isInner)
  between_eq : between lines i cut.stop = line :: below.takeWhile Line.isInner
  drop_eq : lines.drop cut.stop = below.dropWhile Line.isInner
  le_length : cut.stop ≤ lines.length
  isWithin : cut.IsWithin lines i cut.stop

theorem exists_itemAt (h : lines.drop i = line :: below) (hm : m.IsOn line.text) :
    ∃ cut, itemAt m lines i = pure cut ∧ cut.IsItem m lines i line below := by
  obtain ⟨stop, hscan, hs⟩ := exists_scan Line.isInner h
  have hinner : between lines (i + 1) stop = below.takeWhile Line.isInner :=
    (List.cons.inj ((between_of_drop h hs.lt).symm.trans hs.between_eq)).2
  -- the mark is lost, and no line grows
  have hlighter : weight (itemBody m line (below.takeWhile Line.isInner))
      < weight (line :: below.takeWhile Line.isInner) := by
    have := @weight_itemBody_lt m line (below.takeWhile Line.isInner) hm.suffix.2
    rwa [List.takeWhile_idem] at this
  refine ⟨⟨i, stop, itemBody m line (below.takeWhile Line.isInner)⟩, ?_, rfl, hs.between_eq,
    hs.drop_eq, hs.le_length, Nat.le_refl i, hs.lt, Nat.le_refl stop, hs.between_eq ▸ hlighter⟩
  rw [itemAt, hscan, pure_bind, flushedAt_eq hs.lt hs.le_length, pure_bind, lineAt_of_drop h,
    pure_bind, hinner]
  rfl

theorem unindentMessageAt_of_nil {stop : Nat} (h : lines.drop stop = []) (kind : ListKind) :
    unindentMessageAt kind lines stop = pure none := by
  have hstop := List.drop_eq_nil_iff.1 h
  rw [unindentMessageAt, if_neg (by omega)]

/-- The line above decides whether a list ends unexpectedly. -/
theorem unindentMessageAt_of_drop {next : Line} {start stop : Nat}
    (h : lines.drop stop = next :: below) (hs : start < stop) (kind : ListKind) :
    unindentMessageAt kind lines stop
      = pure (unindentMessage kind (between lines start stop) next) := by
  obtain ⟨last, rfl⟩ : ∃ last, stop = last + 1 := Nat.exists_eq_add_one.2 (by omega)
  have hlength := lt_length_of_drop h
  have hlast : lines.drop last = lines[last] :: lines.drop (last + 1) :=
    List.drop_eq_getElem_cons (by omega)
  have hitem : (between lines start (last + 1)).getLast? = some lines[last] := by
    rw [between_append (Nat.le_of_lt_succ hs) (Nat.le_succ last), between_succ hlast,
      List.getLast?_concat]
  rw [unindentMessageAt, if_pos ⟨hlength, Nat.succ_pos last⟩, Nat.add_sub_cancel,
    lineAt_of_drop hlast, pure_bind, lineAt_of_drop h, unindentMessage, hitem, Option.any_some]
  split <;> rfl

/-- A list read by indices is the list that is read from the lines there. -/
structure ListAt.Reads (run : ListAt) (lines : List Line) (i : Nat) (list : ListRun) : Prop where
  items : run.items.map (fun item => (item.1, item.2.body)) = list.items
  message : run.message = list.message
  rest : lines.drop run.next = list.rest
  next_le : run.next ≤ lines.length
  cuts : ∀ item ∈ run.items, item.2.IsWithin lines i run.next

theorem ListAt.Reads.items_ne_nil {run : ListAt} (h : run.Reads lines i (readList m line below)) :
    run.items ≠ [] := by
  have hne := items_readList_ne_nil m line below
  rwa [← h.items, Ne, List.map_eq_nil_iff] at hne

/-- Reading a list moves on. -/
theorem ListAt.Reads.lt_next {run : ListAt} (h : run.Reads lines i (readList m line below)) :
    i < run.next := by
  obtain ⟨item, hitem⟩ := List.exists_mem_of_ne_nil _ h.items_ne_nil
  exact (h.cuts item hitem).lt

/-- Behind an item no blank line is left to pass over. -/
theorem scan_isBlank_of_drop {stop : Nat} (h : lines.drop stop = below.dropWhile Line.isInner) :
    Place.scan Line.isBlank ⟨lines, stop⟩ = pure stop := by
  rw [Place.scan]
  cases hd : below.dropWhile Line.isInner with
  | nil => rw [if_neg (Nat.not_lt.2 (List.drop_eq_nil_iff.1 (h.trans hd)))]
  | cons next rest =>
    have hinner : next.isInner = false := by
      simpa [hd] using List.head?_dropWhile_not Line.isInner below
    rw [if_pos (lt_length_of_drop (h.trans hd)), lineAt_of_drop (h.trans hd), pure_bind,
      (Bool.or_eq_false_iff.1 hinner).1]
    rfl

/-- The list that a mark opens is read at its line, item by item. -/
theorem exists_list (h : lines.drop i = line :: below) (hm : m.IsOn line.text) :
    ∃ run, Place.list m ⟨lines, i⟩ = pure run ∧ run.Reads lines i (readList m line below) := by
  -- one item at a time; the item found next is on the line where the loop goes on
  induction m, line, below using readList.induct generalizing i with
  | case1 m line below hd =>
    obtain ⟨cut, hcut, hitem⟩ := exists_itemAt h hm
    have hdrop := hitem.drop_eq.trans hd
    refine ⟨⟨[(m, cut)], none, cut.stop⟩, ?_, ?_⟩
    · rw [Place.list, lineAt_of_drop h, pure_bind, hm.again?]
      simp only [hcut, pure_bind, scan_isBlank_of_drop hitem.drop_eq, lineAt?_eq, hdrop,
        List.head?_nil, Option.bind_none, unindentMessageAt_of_nil hdrop]
    · rw [readList_of_nil hd]
      exact ⟨by rw [← hitem.body_eq]; rfl, rfl, hdrop, hitem.le_length,
        List.forall_mem_singleton.2 hitem.isWithin⟩
  | case2 m line below next rest hd m' hnext ih =>
    obtain ⟨cut, hcut, hitem⟩ := exists_itemAt h hm
    have hdrop := hitem.drop_eq.trans hd
    obtain ⟨run, hrun, hreads⟩ := ih hdrop (Marker.isOn_next? hnext)
    refine ⟨⟨(m, cut) :: run.items, run.message, run.next⟩, ?_, ?_⟩
    · rw [Place.list, lineAt_of_drop h, pure_bind, hm.again?]
      simp only [hcut, pure_bind, scan_isBlank_of_drop hitem.drop_eq, lineAt?_eq, hdrop,
        List.head?_cons, Option.bind_some, hnext, hrun]
    · rw [readList_of_next hd hnext]
      have hstop : cut.stop ≤ run.next := Nat.le_of_lt hreads.lt_next
      have hstart : i ≤ cut.stop := Nat.le_of_lt hitem.isWithin.lt
      refine ⟨?_, hreads.message, hreads.rest, hreads.next_le, List.forall_mem_cons.2 ⟨?_, ?_⟩⟩
      · rw [← hreads.items, ← hitem.body_eq]
        rfl
      · exact hitem.isWithin.mono (Nat.le_refl i) hstop
      · exact fun item hmem => (hreads.cuts item hmem).mono hstart (Nat.le_refl _)
  | case3 m line below next rest hd hnext =>
    obtain ⟨cut, hcut, hitem⟩ := exists_itemAt h hm
    have hdrop := hitem.drop_eq.trans hd
    refine ⟨⟨[(m, cut)], unindentMessage m.kind (line :: below.takeWhile Line.isInner) next,
      cut.stop⟩, ?_, ?_⟩
    · rw [Place.list, lineAt_of_drop h, pure_bind, hm.again?]
      simp only [hcut, pure_bind, scan_isBlank_of_drop hitem.drop_eq, lineAt?_eq, hdrop,
        List.head?_cons, Option.bind_some, hnext,
        unindentMessageAt_of_drop hdrop hitem.isWithin.lt, hitem.between_eq]
    · rw [readList_of_other hd hnext]
      exact ⟨by rw [← hitem.body_eq]; rfl, rfl, hdrop, hitem.le_length,
        List.forall_mem_singleton.2 hitem.isWithin⟩

end

/-! ### Segments -/

/-- A segment that is read from lines behind an index, with its bodies cut from its own lines. -/
structure SegmentAt.IsWithin (s : SegmentAt) (lines : List Line) (i : Nat) : Prop where
  le_start : i ≤ s.start
  start_lt_stop : s.start < s.stop
  stop_le : s.stop ≤ lines.length
  cuts : ∀ cut ∈ s.cuts, cut.IsWithin lines s.start s.stop

theorem SegmentAt.IsWithin.mono {s : SegmentAt} {lines : List Line} {i j : Nat}
    (h : s.IsWithin lines j) (hij : i ≤ j) : s.IsWithin lines i :=
  ⟨Nat.le_trans hij h.le_start, h.start_lt_stop, h.stop_le, h.cuts⟩

/-- A piece that is read at an index as a segment, before the lines `rest`; `announces` tells what
it says of them. -/
structure SegmentAt.IsNext (piece : SegmentAt) (lines : List Line) (announced : Bool) (i : Nat)
    (segment : Segment) (announces : Bool) (rest : List Line) : Prop where
  segments_eq : Place.segments announced ⟨lines, i⟩
    = (piece :: ·) <$> Place.segments announces ⟨lines, piece.stop⟩
  segment_eq : piece.segment = segment
  drop_eq : lines.drop piece.stop = rest
  isWithin : piece.IsWithin lines i

section

variable {announced : Bool} {line : Line} {below lines : List Line} {i : Nat}

theorem exists_isNext_of_indented (h : lines.drop i = line :: below) (hb : line.isBlank = false)
    (hi : 0 < line.indent) :
    ∃ piece : SegmentAt, piece.IsNext lines announced i
      (indentedSegment announced (flushed (line :: below.takeWhile Line.isInner))) false
      (below.dropWhile Line.isInner) := by
  have hp : line.isInner = true := by rw [Line.isInner, decide_eq_true hi, Bool.or_true]
  obtain ⟨stop, hscan, hs⟩ := exists_scan_of_pos h hp
  have hlighter : weight (flushed (line :: below.takeWhile Line.isInner))
      < weight (line :: below.takeWhile Line.isInner) :=
    weight_flushed_lt hb (List.forall_mem_cons.2 ⟨hp, all_isInner_takeWhile below⟩)
  have hstep : Place.segments announced ⟨lines, i⟩ = (do
      let later ← Place.segments false ⟨lines, stop⟩
      let inner := flushed (line :: below.takeWhile Line.isInner)
      if announced then
        return ⟨i, stop, .literal (join ['\n'] (inner.map (·.text))), [], none⟩ :: later
      else return ⟨i, stop, .quote, [⟨i, stop, inner⟩], none⟩ :: later) := by
    rw [Place.segments, if_pos (lt_length_of_drop h), lineAt_of_drop h, pure_bind,
      if_neg (Bool.eq_false_iff.1 hb), if_pos hi, hscan, pure_bind,
      flushedAt_eq (Nat.le_of_lt hs.lt) hs.le_length, pure_bind, hs.between_eq]
  cases announced with
  | true =>
    refine ⟨⟨i, stop, _, [], none⟩, hstep, rfl, hs.drop_eq, ?_⟩
    exact ⟨Nat.le_refl i, hs.lt, hs.le_length, List.forall_mem_nil _⟩
  | false =>
    refine ⟨⟨i, stop, .quote, [⟨i, stop, _⟩], none⟩, hstep, rfl, hs.drop_eq, ?_⟩
    refine ⟨Nat.le_refl i, hs.lt, hs.le_length, List.forall_mem_singleton.2 ?_⟩
    exact ⟨Nat.le_refl i, hs.lt, Nat.le_refl stop, hs.between_eq ▸ hlighter⟩

theorem exists_isNext_of_marker {m : Marker} (h : lines.drop i = line :: below)
    (hb : line.isBlank = false) (hi : line.indent = 0)
    (hm : Marker.first? line.text below = some m) :
    ∃ piece : SegmentAt, piece.IsNext lines announced i ((readList m line below).segment m) false
      (readList m line below).rest := by
  obtain ⟨run, hrun, hreads⟩ := exists_list h (Marker.isOn_first? hm)
  have hstep : Place.segments announced ⟨lines, i⟩ = (do
      let later ← Place.segments false ⟨lines, run.next⟩
      return ⟨i, run.next, .ofMarkers m (run.items.map (·.1)), run.items.map (·.2), run.message⟩
        :: later) := by
    rw [Place.segments, if_pos (lt_length_of_drop h), lineAt_of_drop h, pure_bind,
      if_neg (Bool.eq_false_iff.1 hb), if_neg (by omega), firstMarkAt_of_drop h, pure_bind, hm]
    simp only [hrun, pure_bind]
  refine ⟨⟨i, run.next, _, _, _⟩, hstep, ?_, hreads.rest, ?_⟩
  · rw [ListRun.segment, ← hreads.items, ← hreads.message, List.map_map, List.map_map,
      SegmentAt.segment, List.map_map]
    rfl
  · exact ⟨Nat.le_refl i, hreads.lt_next, hreads.next_le, List.forall_mem_map.2 hreads.cuts⟩

theorem exists_isNext_of_paragraph (h : lines.drop i = line :: below) (hb : line.isBlank = false)
    (hi : line.indent = 0) (hm : Marker.first? line.text below = none) :
    ∃ piece : SegmentAt, piece.IsNext lines announced i
      ⟨.paragraph (paragraphText (line :: below.takeWhile Line.isFlush)).1, [],
        indentMessage (below.dropWhile Line.isFlush)⟩
      (paragraphText (line :: below.takeWhile Line.isFlush)).2
      (below.dropWhile Line.isFlush) := by
  have hp : line.isFlush = true := by rw [Line.isFlush, hb, hi]; rfl
  obtain ⟨stop, hscan, hs⟩ := exists_scan_of_pos h hp
  have hstep : Place.segments announced ⟨lines, i⟩ = (do
      let paragraph := paragraphText (line :: below.takeWhile Line.isFlush)
      let later ← Place.segments paragraph.2 ⟨lines, stop⟩
      return ⟨i, stop, .paragraph paragraph.1, [],
        indentMessage (below.dropWhile Line.isFlush).head?.toList⟩ :: later) := by
    rw [Place.segments, if_pos (lt_length_of_drop h), lineAt_of_drop h, pure_bind,
      if_neg (Bool.eq_false_iff.1 hb), if_neg (by omega), firstMarkAt_of_drop h, pure_bind, hm]
    simp only [hscan, pure_bind, slice_eq (Nat.le_of_lt hs.lt) hs.le_length,
      hs.between_eq, lineAt?_eq, hs.drop_eq]
  refine ⟨⟨i, stop, _, [], _⟩, hstep, ?_, hs.drop_eq, Nat.le_refl i, hs.lt, hs.le_length,
    List.forall_mem_nil _⟩
  cases below.dropWhile Line.isFlush <;> rfl

end

/-- From an index on, lines are cut into segments, with every piece in its place. -/
def CutsInto (lines : List Line) (announced : Bool) (i : Nat) (cut : List Segment) : Prop :=
  ∃ pieces, Place.segments announced ⟨lines, i⟩ = pure pieces ∧ pieces.map SegmentAt.segment = cut
    ∧ ∀ piece ∈ pieces, piece.IsWithin lines i

theorem SegmentAt.IsNext.cutsInto {piece : SegmentAt} {lines rest : List Line} {i : Nat}
    {announced announces : Bool} {segment : Segment} {later : List Segment}
    (h : piece.IsNext lines announced i segment announces rest)
    (hlater : CutsInto lines announces piece.stop later) :
    CutsInto lines announced i (segment :: later) := by
  obtain ⟨pieces, hpieces, hmap, hwithin⟩ := hlater
  have hstart : i ≤ piece.stop :=
    Nat.le_trans h.isWithin.le_start (Nat.le_of_lt h.isWithin.start_lt_stop)
  refine ⟨piece :: pieces, ?_, ?_, List.forall_mem_cons.2 ⟨h.isWithin, fun t ht => ?_⟩⟩
  · rw [h.segments_eq, hpieces, map_pure]
  · rw [List.map_cons, h.segment_eq, hmap]
  · exact (hwithin t ht).mono hstart

/-- Cutting lines by their indices gives the segments of the lines. -/
theorem cutsInto_segments (lines : List Line) (announced : Bool) (i : Nat) :
    CutsInto lines announced i (segments announced (lines.drop i)) := by
  generalize h : lines.drop i = below
  fun_induction segments announced below generalizing i with
  | case1 announced =>
    refine ⟨[], ?_, rfl, List.forall_mem_nil _⟩
    rw [Place.segments, if_neg (Nat.not_lt.2 (List.drop_eq_nil_iff.1 h))]
  | case2 announced line below hb ih =>
    obtain ⟨pieces, hpieces, hmap, hwithin⟩ := ih _ (drop_succ_of_drop h)
    refine ⟨pieces, ?_, hmap, fun piece hp => (hwithin piece hp).mono (Nat.le_succ i)⟩
    rw [Place.segments, if_pos (lt_length_of_drop h), lineAt_of_drop h, pure_bind, if_pos hb,
      hpieces]
  | case3 announced line below hb hi inner segment ih =>
    obtain ⟨piece, hnext⟩ := exists_isNext_of_indented h (Bool.eq_false_iff.2 hb) hi
    exact hnext.cutsInto (ih _ hnext.drop_eq)
  | case4 announced line below hb hi m hm run ih =>
    obtain ⟨piece, hnext⟩ :=
      exists_isNext_of_marker h (Bool.eq_false_iff.2 hb) (Nat.eq_zero_of_not_pos hi) hm
    exact hnext.cutsInto (ih _ hnext.drop_eq)
  | case5 announced line below hb hi hm text announces hp rest ih =>
    obtain ⟨piece, hnext⟩ :=
      exists_isNext_of_paragraph h (Bool.eq_false_iff.2 hb) (Nat.eq_zero_of_not_pos hi) hm
    rw [hp] at hnext
    exact hnext.cutsInto (ih _ hnext.drop_eq)

/-! ### Documents -/

/-- Reading a body by the indices of its lines comes to an end and gives its document. -/
theorem Cut.read_eq (cut : Cut) : cut.read = pure (readDocument cut.body) := by
  induction hw : weight cut.body using Nat.strongRecOn generalizing cut with
  | ind w ih =>
    obtain ⟨start, stop, lines⟩ := cut
    obtain ⟨pieces, hpieces, hmap, -⟩ := cutsInto_segments lines false 0
    rw [List.drop_zero] at hmap
    -- nested bodies are lighter
    have hbody : ∀ piece ∈ pieces, ∀ inner ∈ piece.cuts,
        inner.read = pure (readDocument inner.body) := fun piece hp inner hc =>
      have hlighter := weight_body_lt false lines piece.segment
        (hmap ▸ List.mem_map_of_mem hp) inner.body (List.mem_map_of_mem hc)
      ih (weight inner.body) (hw ▸ hlighter) inner rfl
    rw [Cut.read, hpieces, pure_bind, mapM_eq_pure fun piece hp => by
      rw [mapM_eq_pure (hbody piece hp), pure_bind], pure_bind, readDocument_eq, ← hmap,
      List.map_map]
    simp only [Function.comp_def, SegmentAt.segment, List.map_map]

/-- Reading a text by the indices of its lines comes to an end and gives what the text is read
as. -/
theorem parseAt_eq (text : Text) : parseAt text = pure (parse text) := by
  rw [parseAt, parse]
  cases findBadCharacter 1 (splitOn '\n' text) with
  | some bad => rfl
  | none => simp only [Cut.read_eq, pure_bind]

end Testbook.Markup
