import Testbook.Proofs.Markup.Break
import Testbook.Proofs.Markup.ItemLine
import Testbook.Proofs.Markup.Lines
import Testbook.Proofs.Markup.MessageLines
import Testbook.Proofs.Markup.Ordinals

/-!
Enumerated items set apart by blank lines. The item in front of a run decides how the run is
counted; an item joins the run when it is written like the one before and is the next ordinal in
the numbering of the run, though on its own it might be counted otherwise, and when it does not join
it starts a run of its own. Every sequence of items falls into such runs (`exists_areRuns`), and
reading makes one list of each (`parse_runs`).
-/

namespace Testbook.Markup

open Testbook.Text

/-! ### Runs of items -/

/-- Whether an item continues a run after another one in a numbering. -/
def Numbering.Follows (numbering : Numbering) (before after : RawEnumerator) : Prop :=
  before.opened = after.opened ∧ before.closer = after.closer
    ∧ (before.numeral = ['#'] ∧ after.numeral = ['#']
      ∨ ∃ n, numbering.value? before.numeral = some n ∧ numbering.value? after.numeral = some (n + 1))

/-- Items that belong to one list. -/
structure Run where
  first : RawEnumerator
  more : List RawEnumerator

namespace Run

/-- The items of a run. -/
def items (run : Run) : List RawEnumerator := run.first :: run.more

/-- The last item of a run. -/
def last (run : Run) : RawEnumerator := run.items.getLast (List.cons_ne_nil _ _)

/-- How a run is counted: as its first item suggests. -/
def numbering (run : Run) : Numbering := Numbering.suggested run.first.numeral

/-- The ordinal of the first item, or one. -/
def start (run : Run) : Nat := (run.numbering.value? run.first.numeral).getD 1

/-- The list that a run makes up. -/
def block (run : Run) : Block :=
  .numbered run.numbering run.start (run.items.map fun item => [.paragraph item.text])

end Run

/-- The runs of a sequence of items: each goes on as far as it can. -/
structure AreRuns (runs : List Run) (items : List RawEnumerator) : Prop where
  items_eq : runs.flatMap Run.items = items
  chained : ∀ run ∈ runs, run.items.IsChain run.numbering.Follows
  maximal : runs.IsChain fun run next => ¬ run.numbering.Follows run.last next.first

/-- The lines of items with blank lines between them, and perhaps around them; a blank line has no
character that is refused. -/
inductive IsSpaced : List Text → List RawEnumerator → Prop where
  | nil : IsSpaced [] []
  | blank {line : Text} {lines : List Text} {items : List RawEnumerator}
      (hline : isAllBlank line = true) (hallowed : line.all (!isForbidden ·) = true)
      (h : IsSpaced lines items) : IsSpaced (line :: lines) items
  | item {raw : RawEnumerator} {lines : List Text} {items : List RawEnumerator}
      (hgap : ∀ line ∈ lines.head?, isAllBlank line = true) (h : IsSpaced lines items) :
      IsSpaced (raw.line :: lines) (raw :: items)

/-! ### Every sequence of items falls into runs -/

theorem exists_run (numbering : Numbering) (first : RawEnumerator) (items : List RawEnumerator) :
    ∃ more left, items = more ++ left ∧ (first :: more).IsChain numbering.Follows
      ∧ ∀ next ∈ left.head?,
        ¬ numbering.Follows ((first :: more).getLast (List.cons_ne_nil _ _)) next := by
  induction items generalizing first with
  | nil => exact ⟨[], [], rfl, .singleton _, by simp⟩
  | cons item items ih =>
    by_cases hfollows : numbering.Follows first item
    · obtain ⟨more, left, rfl, hchain, hstop⟩ := ih item
      exact ⟨item :: more, left, rfl, .cons_cons hfollows hchain, hstop⟩
    · refine ⟨[], item :: items, rfl, .singleton _, fun next hnext => ?_⟩
      rw [← Option.some.inj hnext]
      exact hfollows

theorem exists_areRuns (items : List RawEnumerator) : ∃ runs, AreRuns runs items := by
  induction hn : items.length using Nat.strongRecOn generalizing items with
  | ind n ih =>
    cases items with
    | nil => exact ⟨[], rfl, by simp, .nil⟩
    | cons first items =>
      obtain ⟨more, left, rfl, hchain, hstop⟩ :=
        exists_run (Numbering.suggested first.numeral) first items
      have hshort : left.length < n := by
        rw [← hn, List.length_cons, List.length_append]
        omega
      obtain ⟨runs, hruns⟩ := ih left.length hshort left rfl
      refine ⟨⟨first, more⟩ :: runs, ?_, List.forall_mem_cons.2 ⟨hchain, hruns.chained⟩, ?_⟩
      · rw [List.flatMap_cons, hruns.items_eq]
        rfl
      · refine List.isChain_cons.2 ⟨fun next hnext => hstop next.first ?_, hruns.maximal⟩
        obtain ⟨others, rfl⟩ := List.head?_eq_some_iff.1 hnext
        rw [← hruns.items_eq]
        rfl

/-! ### Marks that follow each other -/

namespace RawEnumerator

variable {before after : RawEnumerator} {numbering : Numbering} {ordinal : Option Nat}

/-- An enumerator precedes another one when the item follows in the numbering. -/
theorem precedes_iff {next : Option Nat}
    (hbefore : numbering.ordinal? before.numeral = some ordinal)
    (hafter : numbering.ordinal? after.numeral = some next) :
    (before.counted numbering ordinal).precedes (after.counted numbering next) = true
      ↔ numbering.Follows before after := by
  have hsign {raw : RawEnumerator} {n : Nat} (h : numbering.value? raw.numeral = some n) :
      raw.numeral ≠ ['#'] := fun heq => by
    rw [heq, Numbering.value?_sign] at h
    cases h
  refine Enumerator.precedes_iff.trans
    (and_congr_right fun _ => and_congr_right fun _ => ?_)
  rcases Numbering.ordinal?_eq_some.1 hbefore with ⟨hb, rfl⟩ | ⟨p, hp, rfl⟩ <;>
    rcases Numbering.ordinal?_eq_some.1 hafter with ⟨ha, rfl⟩ | ⟨n, hn, rfl⟩
  · simp [counted, hb, ha]
  · simp [counted, hb, hsign hn, Numbering.value?_sign]
  · simp [counted, ha, hsign hp, Numbering.value?_sign]
  · have hmax : n ≤ maxOrdinal := by
      have hgreatest : numbering.greatest ≤ maxOrdinal := by cases numbering <;> decide
      exact (Numbering.has_value? hn).2.trans hgreatest
    simp only [counted, hsign hp, hp, hn, reduceCtorEq, false_and, false_or, Option.some.injEq,
      exists_eq_left']
    omega

/-- The line of an item that follows has the next enumerator. -/
theorem next?_of_follows (hbefore : numbering.ordinal? before.numeral = some ordinal)
    (hread : read? after.line = some after) (h : numbering.Follows before after) :
    ∃ next, numbering.ordinal? after.numeral = some next
      ∧ (before.counted numbering ordinal).next? after.line
        = some (after.counted numbering next) := by
  have hafter : ∃ next, numbering.ordinal? after.numeral = some next := by
    rcases h.2.2 with ⟨-, hsign⟩ | ⟨n, -, hn⟩
    · exact ⟨none, Numbering.ordinal?_eq_some.2 (.inl ⟨hsign, rfl⟩)⟩
    · exact ⟨some (n + 1), Numbering.ordinal?_eq_some.2 (.inr ⟨n + 1, hn, rfl⟩)⟩
  obtain ⟨next, hnext⟩ := hafter
  refine ⟨next, hnext, Option.filter_eq_some_iff.2 ⟨?_, (precedes_iff hbefore hnext).2 h⟩⟩
  rw [readIn?_line hread]
  exact congrArg (Option.map _) hnext

theorem next?_of_not_follows (hbefore : numbering.ordinal? before.numeral = some ordinal)
    (hread : read? after.line = some after) (h : ¬ numbering.Follows before after) :
    (before.counted numbering ordinal).next? after.line = none := by
  refine Option.eq_none_iff_forall_ne_some.2 fun e he => ?_
  obtain ⟨he, hprecedes⟩ := Option.filter_eq_some_iff.1 he
  rw [readIn?_line hread] at he
  obtain ⟨next, hnext, rfl⟩ := Option.map_eq_some_iff.1 he
  exact h ((precedes_iff hbefore hnext).1 hprecedes)

end RawEnumerator

/-! ### Reading runs -/

theorem RawEnumerator.IsMark.margin {raw : RawEnumerator} {line : Line} (h : raw.IsMark)
    (hline : line.text = raw.line) : line.isBlank = false ∧ line.indent = 0 := by
  have hflush := h.isFlush line.number (' ' :: raw.text)
  rwa [← RawEnumerator.line, ← hline] at hflush

/-- The lines down to the next item, if there is one. -/
inductive IsUpTo (after : List Line) : List RawEnumerator → Prop where
  | none (h : after = []) : IsUpTo after []
  | item {line : Line} {below : List Line} {raw : RawEnumerator} {items : List RawEnumerator}
      (h : after = line :: below) (hline : line.text = raw.line)
      (hgap : ∀ l ∈ below.head?, l.isBlank = true) (hspaced : IsSpaced (below.map (·.text)) items) :
      IsUpTo after (raw :: items)

/-- Down to the next item the lines are blank. -/
theorem IsSpaced.cut {items : List RawEnumerator} {lines : List Line}
    (h : IsSpaced (lines.map (·.text)) items) :
    ∃ blanks after, lines = blanks ++ after ∧ (∀ l ∈ blanks, l.isBlank = true)
      ∧ IsUpTo after items := by
  generalize htexts : lines.map (·.text) = texts at h
  induction h generalizing lines with
  | nil => exact ⟨[], [], List.map_eq_nil_iff.1 htexts, by simp, .none rfl⟩
  | blank hline hallowed h ih =>
    obtain ⟨l, ls, rfl, rfl, hls⟩ := List.map_eq_cons_iff.1 htexts
    obtain ⟨blanks, after, rfl, hblanks, hafter⟩ := ih hls
    exact ⟨l :: blanks, after, rfl, List.forall_mem_cons.2 ⟨hline, hblanks⟩, hafter⟩
  | item hgap h ih =>
    obtain ⟨l, ls, rfl, hl, rfl⟩ := List.map_eq_cons_iff.1 htexts
    refine ⟨[], l :: ls, rfl, by simp, .item rfl hl (fun k hk => ?_) h⟩
    exact hgap k.text (by rw [List.head?_map, Option.mem_def.1 hk]; rfl)

theorem IsUpTo.isGap {blanks after : List Line} {items : List RawEnumerator}
    (h : IsUpTo after items) (hitems : ∀ raw ∈ items, raw.IsItem)
    (hblanks : ∀ l ∈ blanks, l.isBlank = true)
    (hgap : ∀ l ∈ (blanks ++ after).head?, l.isBlank = true) : IsGap blanks after := by
  cases h with
  | none h =>
    rw [h]
    exact (IsBreak.of_blank hblanks).isGap
  | item h hline hbelow hspaced =>
    obtain ⟨hb, hi⟩ := (hitems _ List.mem_cons_self).margin hline
    subst h
    refine ⟨hblanks, fun l hl => ?_, fun _ hnil => ?_⟩
    · obtain rfl := Option.some.inj hl
      rw [Line.isInner, hb, hi]
      rfl
    · rw [hnil] at hgap
      exact absurd (hgap _ rfl) (by simp [hb])

/-- In front of a gap an item has nothing below it, and the list may go on behind. -/
theorem readList_alone {blanks after : List Line} (h : IsGap blanks after) (m : Marker)
    (line : Line) : readList m line (blanks ++ after)
      = ListRun.resume ⟨[(m, [⟨line.number, m.text⟩])], none, []⟩ m after := by
  have halone : readList m line [] = ⟨[(m, [⟨line.number, m.text⟩])], none, []⟩ :=
    readList_of_nil List.dropWhile_nil
  obtain ⟨-, item, hitem, hread⟩ := readList_resume h m line [] (by rw [halone])
  rw [halone] at hitem hread
  rw [List.mem_singleton.1 hitem] at hread
  exact hread

/-- A run is read as a list, up to the item in front of which it ends. -/
theorem readList_run {numbering : Numbering} {ordinal : Option Nat} {first : RawEnumerator}
    {more left : List RawEnumerator} (line : Line) {below : List Line}
    (hitems : ∀ raw ∈ more ++ left, raw.IsItem)
    (hordinal : numbering.ordinal? first.numeral = some ordinal)
    (hgap : ∀ l ∈ below.head?, l.isBlank = true)
    (hspaced : IsSpaced (below.map (·.text)) (more ++ left))
    (hchain : (first :: more).IsChain numbering.Follows)
    (hstop : ∀ next ∈ left.head?,
      ¬ numbering.Follows ((first :: more).getLast (List.cons_ne_nil _ _)) next) :
    ∃ items rest, readList (.enumerator (first.counted numbering ordinal)) line below
        = ⟨items, none, rest⟩
      ∧ (items.map (·.2)).map (·.map (·.text)) = (first :: more).map (fun raw => [raw.text])
      ∧ IsSpaced (rest.map (·.text)) left := by
  induction more generalizing first ordinal line below with
  | nil =>
    obtain ⟨blanks, after, rfl, hblanks, hafter⟩ := hspaced.cut
    have hread := readList_alone (hafter.isGap hitems hblanks hgap)
      (.enumerator (first.counted numbering ordinal)) line
    cases hafter with
    | none h =>
      subst h
      exact ⟨_, [], hread, rfl, .nil⟩
    | @item l ls next others h hline hhead hrest =>
      subst h
      have hnext := RawEnumerator.next?_of_not_follows hordinal
        (hitems next List.mem_cons_self).read?_line (hstop next rfl)
      rw [ListRun.resume, Marker.next?, hline, hnext] at hread
      refine ⟨_, l :: ls, hread, rfl, ?_⟩
      rw [List.map_cons, hline]
      refine .item (fun text htext => ?_) hrest
      rw [List.head?_map] at htext
      obtain ⟨k, hk, rfl⟩ := Option.map_eq_some_iff.1 htext
      exact hhead k hk
  | cons next more ih =>
    obtain ⟨hfollows, hchain⟩ := List.isChain_cons_cons.1 hchain
    obtain ⟨blanks, after, rfl, hblanks, hafter⟩ := hspaced.cut
    have hread := readList_alone (hafter.isGap hitems hblanks hgap)
      (.enumerator (first.counted numbering ordinal)) line
    obtain ⟨hnext, hothers⟩ := List.forall_mem_cons.1 hitems
    cases hafter with
    | @item l ls _ _ h hline hhead hrest =>
      obtain ⟨ordinal', hordinal', hmark⟩ :=
        RawEnumerator.next?_of_follows hordinal hnext.read?_line hfollows
      obtain ⟨items, rest, hlist, htexts, hleft⟩ :=
        ih l hothers hordinal' hhead hrest hchain hstop
      subst h
      rw [ListRun.resume, Marker.next?, hline, hmark] at hread
      simp only [Option.map_some, hlist] at hread
      refine ⟨_, rest, hread, ?_, hleft⟩
      rw [List.map_append, List.map_append, htexts]
      rfl

/-- The line of an item opens a list, whatever stands below the gap behind it. -/
theorem RawEnumerator.IsItem.first? {raw : RawEnumerator} (h : raw.IsItem) {below : List Line}
    (hgap : ∀ l ∈ below.head?, l.isBlank = true) :
    ∃ ordinal, (Numbering.suggested raw.numeral).ordinal? raw.numeral = some ordinal
      ∧ Marker.first? raw.line below
        = some (.enumerator (raw.counted (Numbering.suggested raw.numeral) ordinal)) := by
  obtain ⟨ordinal, hordinal⟩ := h.exists_ordinal
  obtain ⟨hfield, hbullet⟩ := h.field?_append (' ' :: raw.text)
  have hfollow (mark : Enumerator) : mayFollow mark below = true := by
    cases below with
    | nil => rfl
    | cons l ls => rw [mayFollow, Line.isInner_of_blank (hgap l rfl), Bool.true_or]
  refine ⟨ordinal, hordinal, ?_⟩
  rw [Marker.first?, RawEnumerator.line, hfield, hbullet, ← RawEnumerator.line, Enumerator.first?,
    RawEnumerator.readIn?_line h.read?_line, hordinal, Option.map_some, Option.filter_some,
    hfollow, if_pos rfl, Option.map_some]

/-- Bodies of one line each, where the line is the text of an item. -/
theorem read_bodies {bodies : List (List Line)} {items : List RawEnumerator}
    (hitems : ∀ raw ∈ items, raw.IsItem)
    (h : bodies.map (·.map (·.text)) = items.map fun raw => [raw.text]) :
    bodies.map (fun body => (readDocument body).blocks)
        = items.map (fun raw => [.paragraph raw.text])
      ∧ bodies.flatMap (fun body => (readDocument body).messages) = [] := by
  constructor
  · have hread : (fun body => (readDocument body).blocks)
        = (fun texts => (readDocument (unnumbered texts)).blocks) ∘ (·.map (·.text)) := by
      funext body
      exact blocks_readDocument_eq (map_text_unnumbered _).symm
    rw [hread, ← List.map_map, h, List.map_map]
    exact List.map_congr_left fun raw hraw => (hitems raw hraw).blocks
  · refine List.flatMap_eq_nil_iff.2 fun body hbody => ?_
    have htexts : body.map (·.text) ∈ items.map fun raw => [raw.text] :=
      h ▸ List.mem_map_of_mem hbody
    obtain ⟨raw, -, htext⟩ := List.mem_map.1 htexts
    obtain ⟨l, rfl, -⟩ := List.map_eq_singleton_iff.1 htext.symm
    -- a message names no first line, and there is no other
    have hsub := sublist_readDocument [l]
    have hnone : (solidNumbers [l]).tail = [] :=
      List.sublist_nil.1 (tail_solidNumbers_cons l [])
    rw [hnone, List.sublist_nil, List.map_eq_nil_iff] at hsub
    exact hsub

theorem Run.start_eq {run : Run} {ordinal : Option Nat}
    (h : run.numbering.ordinal? run.first.numeral = some ordinal) :
    ordinal.getD 1 = run.start := by
  rw [Run.start]
  rcases Numbering.ordinal?_eq_some.1 h with ⟨hsign, rfl⟩ | ⟨n, hn, rfl⟩
  · rw [hsign, Numbering.value?_sign]
  · rw [hn]

/-- The lines of a run are a segment, and the run that is left starts another one. -/
theorem segments_run {run : Run} {left : List RawEnumerator} {lines : List Line}
    (hitems : ∀ raw ∈ run.items ++ left, raw.IsItem)
    (hspaced : IsSpaced (lines.map (·.text)) (run.items ++ left))
    (hchain : run.items.IsChain run.numbering.Follows)
    (hstop : ∀ next ∈ left.head?, ¬ run.numbering.Follows run.last next) :
    ∃ bodies rest, segments false lines
        = ⟨.numbered run.numbering run.start, bodies, none⟩ :: segments false rest
      ∧ bodies.map (·.map (·.text)) = run.items.map (fun raw => [raw.text])
      ∧ IsSpaced (rest.map (·.text)) left := by
  obtain ⟨hfirst, hothers⟩ := List.forall_mem_cons.1 hitems
  obtain ⟨blanks, after, rfl, hblanks, hafter⟩ := hspaced.cut
  cases hafter with
  | @item l ls _ _ h hline hhead hrest =>
    subst h
    obtain ⟨hb, hi⟩ := hfirst.margin hline
    obtain ⟨ordinal, hordinal, hmarker⟩ := hfirst.first? hhead
    rw [← hline] at hmarker
    rw [← Run.numbering] at hordinal hmarker
    obtain ⟨items, rest, hlist, htexts, hleft⟩ :=
      readList_run l hothers hordinal hhead hrest hchain hstop
    refine ⟨items.map (·.2), rest, ?_, htexts, hleft⟩
    rw [segments_blanks hblanks, segments_of_marker hb hi hmarker, hlist, ← Run.start_eq hordinal]
    rfl

/-- Each run of items is read as one list. -/
theorem readDocument_runs {runs : List Run} {items : List RawEnumerator} {lines : List Line}
    (hruns : AreRuns runs items) (hitems : ∀ raw ∈ items, raw.IsItem)
    (h : IsSpaced (lines.map (·.text)) items) :
    (readDocument lines).blocks = runs.map Run.block ∧ (readDocument lines).messages = [] := by
  rw [blocks_readDocument, messages_readDocument]
  induction runs generalizing items lines with
  | nil =>
    obtain rfl := hruns.items_eq
    obtain ⟨blanks, after, rfl, hblanks, ⟨⟨⟩⟩⟩ := h.cut
    rw [segments_blanks hblanks, segments_nil]
    exact ⟨rfl, rfl⟩
  | cons run runs ih =>
    obtain ⟨hflat, hchained, hmaximal⟩ := hruns
    obtain ⟨hchain, hchained⟩ := List.forall_mem_cons.1 hchained
    obtain ⟨hapart, hmaximal⟩ := List.isChain_cons.1 hmaximal
    rw [List.flatMap_cons] at hflat
    obtain rfl := hflat
    have hstop : ∀ next ∈ (runs.flatMap Run.items).head?,
        ¬ run.numbering.Follows run.last next := by
      intro next hnext
      cases runs with
      | nil => cases hnext
      | cons run' runs =>
        cases hnext
        exact hapart run' rfl
    obtain ⟨bodies, rest, hsegments, htexts, hleft⟩ := segments_run hitems h hchain hstop
    obtain ⟨hblocks, hmessages⟩ := ih ⟨rfl, hchained, hmaximal⟩
      (fun raw hraw => hitems raw (List.mem_append_right _ hraw)) hleft
    obtain ⟨hbodies, hnone⟩ := read_bodies
      (fun raw hraw => hitems raw (List.mem_append_left _ hraw)) htexts
    rw [hsegments, List.flatMap_cons, List.flatMap_cons, hblocks, hmessages, hbodies, hnone]
    exact ⟨rfl, rfl⟩

/-! ### Texts -/

/-- Reading keeps the lines of items and makes blank lines empty. -/
theorem IsSpaced.tidied {texts : List Text} {items : List RawEnumerator} (h : IsSpaced texts items)
    (hitems : ∀ raw ∈ items, raw.IsItem) :
    IsSpaced (texts.map fun text => trimEnd (expandTabs 0 text)) items := by
  have hblank {text : Text} (htext : isAllBlank text = true) :
      isAllBlank (trimEnd (expandTabs 0 text)) = true := by
    rw [isAllBlank_trimEnd, isAllBlank_expandTabs, htext]
  induction h with
  | nil => exact .nil
  | @blank text texts items htext hallowed h ih =>
    have hnone : trimEnd (expandTabs 0 text) = [] :=
      trimEnd_of_isAllBlank (by rw [isAllBlank_expandTabs, htext])
    rw [List.map_cons, hnone]
    exact .blank rfl rfl (ih hitems)
  | @item raw texts items hgap h ih =>
    obtain ⟨hraw, hothers⟩ := List.forall_mem_cons.1 hitems
    have hline : trimEnd (expandTabs 0 raw.line) = raw.line := by
      rw [expandTabs_of_not_mem hraw.isLine.noTab, hraw.isLine.trimmed]
    rw [List.map_cons, hline]
    refine .item (fun text htext => ?_) (ih hothers)
    rw [List.head?_map] at htext
    obtain ⟨source, hsource, rfl⟩ := Option.map_eq_some_iff.1 htext
    exact hblank (hgap source hsource)

theorem IsSpaced.allowed {texts : List Text} {items : List RawEnumerator} (h : IsSpaced texts items)
    (hitems : ∀ raw ∈ items, raw.IsItem) : ∀ text ∈ texts, text.all (!isForbidden ·) = true := by
  induction h with
  | nil => exact fun _ h => absurd h List.not_mem_nil
  | blank hline hallowed h ih => exact List.forall_mem_cons.2 ⟨hallowed, ih hitems⟩
  | item hgap h ih =>
    obtain ⟨hraw, hothers⟩ := List.forall_mem_cons.1 hitems
    exact List.forall_mem_cons.2 ⟨hraw.isLine.allowed, ih hothers⟩

theorem parse_spaced {text : Text} {items : List RawEnumerator} {runs : List Run}
    (hspaced : IsSpaced (rawLines text) items) (hitems : ∀ item ∈ items, item.IsItem)
    (hruns : AreRuns runs items) : parse text = .ok ⟨runs.map Run.block, []⟩ := by
  have hallowed : findBadCharacter 1 (splitOn '\n' text) = none := by
    refine findBadCharacter_eq_none.2 fun piece hpiece => ?_
    have hallowed := hspaced.allowed hitems
    rcases splitOn_eq_rawLines text with heq | heq
    · exact hallowed piece (heq ▸ hpiece)
    · rw [heq, List.mem_append, List.mem_singleton] at hpiece
      rcases hpiece with hpiece | rfl
      · exact hallowed piece hpiece
      · rfl
  have hlines := hspaced.tidied hitems
  rw [← map_text_readLines] at hlines
  obtain ⟨hblocks, hmessages⟩ := readDocument_runs hruns hitems hlines
  rw [parse_of_allowed hallowed, ← hblocks, ← hmessages]

/-- Items with blank lines between them are grouped into runs, each as long as it can be, and a run
is one list; it is counted as its first item is counted alone. -/
theorem parse_runs {text : Text} {items : List RawEnumerator}
    (hspaced : IsSpaced (rawLines text) items) (hitems : ∀ item ∈ items, item.IsItem) :
    (∃ runs, AreRuns runs items) ∧ ∀ runs, AreRuns runs items →
      parse text = .ok ⟨runs.map Run.block, []⟩
        ∧ ∀ run ∈ runs, parse run.first.line = .ok ⟨[Run.block ⟨run.first, []⟩], []⟩ := by
  refine ⟨exists_areRuns items, fun runs hruns => ⟨parse_spaced hspaced hitems hruns, ?_⟩⟩
  intro run hrun
  have hmem : run.first ∈ items := by
    rw [← hruns.items_eq]
    exact List.mem_flatMap.2 ⟨run, hrun, List.mem_cons_self⟩
  have hfirst := hitems run.first hmem
  have hline : rawLines run.first.line = [run.first.line] :=
    rawLines_of_not_mem hfirst.feed_not_mem (RawEnumerator.IsItem.line_ne_nil _)
  have halone : AreRuns [⟨run.first, []⟩] [run.first] :=
    ⟨rfl, List.forall_mem_singleton.2 (.singleton _), .singleton _⟩
  refine parse_spaced ?_ (List.forall_mem_singleton.2 hfirst) halone
  rw [hline]
  exact .item (by simp) .nil

/-- A letter that alone is a roman numeral, read as the next letter of the alphabet. -/
theorem parse_runs_letters : parse "h) a\n\ni) b\n\n#. c" = .ok
    ⟨[.numbered .lowerAlpha 8 [[.paragraph "a"], [.paragraph "b"]],
      .numbered .arabic 1 [[.paragraph "c"]]], []⟩ := by
  have hmark (numeral : Text) (closer : Char) (text : Text) (hnumeral : isNumeral numeral = true)
      (hcloser : isCloser closer = true) : RawEnumerator.IsMark ⟨false, numeral, closer, text⟩ :=
    ⟨hnumeral, hcloser, by simp⟩
  have eighth : RawEnumerator.IsItem ⟨false, "h", ')', "a"⟩ :=
    ⟨hmark _ _ _ (by decide) (by decide), by decide, _, .lowerAlpha, 8,
      parse_of_allowed (by decide +kernel), by with_unfolding_all rfl⟩
  have ninth : RawEnumerator.IsItem ⟨false, "i", ')', "b"⟩ :=
    ⟨hmark _ _ _ (by decide) (by decide), by decide, _, .lowerRoman, 1,
      parse_of_allowed (by decide +kernel), by with_unfolding_all rfl⟩
  have sign : RawEnumerator.IsItem ⟨false, "#", '.', "c"⟩ :=
    ⟨hmark _ _ _ (by decide) (by decide), by decide, _, .arabic, 1,
      parse_of_allowed (by decide +kernel), by with_unfolding_all rfl⟩
  have hspaced : IsSpaced (rawLines "h) a\n\ni) b\n\n#. c")
      [⟨false, "h", ')', "a"⟩, ⟨false, "i", ')', "b"⟩, ⟨false, "#", '.', "c"⟩] := by
    have hlines : rawLines "h) a\n\ni) b\n\n#. c"
        = [RawEnumerator.line ⟨false, "h", ')', "a"⟩, [], RawEnumerator.line ⟨false, "i", ')', "b"⟩,
          [], RawEnumerator.line ⟨false, "#", '.', "c"⟩] := by
      decide
    rw [hlines]
    exact .item (by simp [isAllBlank]) (.blank rfl rfl
      (.item (by simp [isAllBlank]) (.blank rfl rfl (.item (by simp) .nil))))
  have hruns : AreRuns
      [⟨⟨false, "h", ')', "a"⟩, [⟨false, "i", ')', "b"⟩]⟩, ⟨⟨false, "#", '.', "c"⟩, []⟩]
      [⟨false, "h", ')', "a"⟩, ⟨false, "i", ')', "b"⟩, ⟨false, "#", '.', "c"⟩] := by
    refine ⟨rfl, List.forall_mem_cons.2 ⟨?_, List.forall_mem_singleton.2 (.singleton _)⟩, ?_⟩
    · exact .cons_cons ⟨rfl, rfl, .inr ⟨8, by decide, by decide⟩⟩ (.singleton _)
    · exact .cons_cons (fun h => absurd h.2.1 (by decide)) (.singleton _)
  have hitems := List.forall_mem_cons.2 ⟨eighth, List.forall_mem_cons.2
    ⟨ninth, List.forall_mem_singleton.2 sign⟩⟩
  exact ((parse_runs hspaced hitems).2 _ hruns).1

end Testbook.Markup
