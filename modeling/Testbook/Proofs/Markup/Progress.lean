import Testbook.Proofs.Markup.Indexed
import Testbook.Proofs.Markup.Leaves
import Mathlib.Algebra.Order.BigOperators.Group.List
import Mathlib.Algebra.Order.Group.Nat

/-!
Reading makes progress. A list that a line opens has an item and ends behind that line, and every
nested body is lighter than the lines it is cut from (`parse_progress`). So reading ends, whatever
the text, and blocks are nested no deeper than the text is long: a block that holds blocks adds one
to their height, and the lines it is read from weigh more than the bodies of these.
-/

namespace Testbook.Markup

open Testbook.Text

/-! ### How deep blocks are nested -/

mutual

/-- The height of a block as a tree; a block that holds no blocks has height one. -/
def Block.height : Block → Nat
  | .paragraph _ => 1
  | .literal _ => 1
  | .bullets items => itemsHeight items + 1
  | .numbered _ _ items => itemsHeight items + 1
  | .quote blocks => height blocks + 1
  | .fields entries => entriesHeight entries + 1

/-- The greatest height of blocks. -/
def height : List Block → Nat
  | [] => 0
  | block :: blocks => max block.height (height blocks)

/-- The greatest height of the blocks in list items. -/
def itemsHeight : List (List Block) → Nat
  | [] => 0
  | item :: items => max (height item) (itemsHeight items)

/-- The greatest height of the blocks in fields. -/
def entriesHeight : List (Text × List Block) → Nat
  | [] => 0
  | (_, body) :: entries => max (height body) (entriesHeight entries)

end

variable {n : Nat}

theorem height_append_le {a b : List Block} (ha : height a ≤ n) (hb : height b ≤ n) :
    height (a ++ b) ≤ n := by
  induction a with
  | nil => exact hb
  | cons block blocks ih =>
    rw [height, Nat.max_le] at ha
    rw [List.cons_append, height, Nat.max_le]
    exact ⟨ha.1, ih ha.2⟩

theorem height_flatten_le {bodies : List (List Block)} (h : ∀ body ∈ bodies, height body ≤ n) :
    height bodies.flatten ≤ n := by
  induction bodies with
  | nil => exact Nat.zero_le n
  | cons body bodies ih =>
    rw [List.forall_mem_cons] at h
    exact height_append_le h.1 (ih h.2)

theorem itemsHeight_le {bodies : List (List Block)} (h : ∀ body ∈ bodies, height body ≤ n) :
    itemsHeight bodies ≤ n := by
  induction bodies with
  | nil => exact Nat.zero_le n
  | cons body bodies ih =>
    rw [List.forall_mem_cons] at h
    rw [itemsHeight, Nat.max_le]
    exact ⟨h.1, ih h.2⟩

theorem entriesHeight_zip_le {bodies : List (List Block)} (h : ∀ body ∈ bodies, height body ≤ n)
    (names : List Text) : entriesHeight (names.zip bodies) ≤ n := by
  induction names generalizing bodies with
  | nil => exact Nat.zero_le n
  | cons name names ih =>
    cases bodies with
    | nil => exact Nat.zero_le n
    | cons body bodies =>
      rw [List.forall_mem_cons] at h
      rw [List.zip_cons_cons, entriesHeight, Nat.max_le]
      exact ⟨h.1, ih h.2⟩

/-- A construct adds at most one to the height of its bodies. -/
theorem height_blocks_le {bodies : List (List Block)} (h : ∀ body ∈ bodies, height body ≤ n)
    (construct : Construct) : height (construct.blocks bodies) ≤ n + 1 := by
  have single (block : Block) (hblock : block.height ≤ n + 1) : height [block] ≤ n + 1 := by
    rw [height, height, Nat.max_eq_left (Nat.zero_le _)]
    exact hblock
  cases construct with
  | paragraph text =>
    cases text with
    | nil => exact Nat.zero_le _
    | cons c text => exact single _ (Nat.le_add_left 1 n)
  | literal text => exact single _ (Nat.le_add_left 1 n)
  | quote => exact single _ (Nat.succ_le_succ (height_flatten_le h))
  | bullets => exact single _ (Nat.succ_le_succ (itemsHeight_le h))
  | numbered numbering start => exact single _ (Nat.succ_le_succ (itemsHeight_le h))
  | fields names => exact single _ (Nat.succ_le_succ (entriesHeight_zip_le h names))

/-! ### Weight bounds height -/

/-- Lines without characters are all blank. -/
theorem segments_of_weight_eq_zero {lines : List Line} (announced : Bool)
    (h : weight lines = 0) : segments announced lines = [] := by
  induction lines with
  | nil => exact segments_nil
  | cons line below ih =>
    rw [weight_cons, Nat.add_eq_zero_iff] at h
    have hblank : line.isBlank = true := by
      rw [Line.isBlank, List.length_eq_zero_iff.1 h.1]
      rfl
    rw [segments_of_blank hblank, ih h.2]

theorem height_readDocument_le (lines : List Line) :
    height (readDocument lines).blocks ≤ weight lines := by
  induction lines using readDocument_induction with
  | step lines ih =>
    rw [blocks_concat, List.flatMap_map, List.flatMap_def]
    refine height_flatten_le (List.forall_mem_map.2 fun s hs => ?_)
    obtain ⟨n, hn⟩ : ∃ n, weight lines = n + 1 := by
      refine Nat.exists_eq_add_one.2 (Nat.pos_of_ne_zero fun h => ?_)
      rw [segments_of_weight_eq_zero false h] at hs
      cases hs
    rw [hn]
    refine height_blocks_le ?_ s.construct
    rw [List.map_map, List.forall_mem_map]
    intro body hbody
    have hlighter := weight_body_lt false lines s hs body hbody
    rw [hn] at hlighter
    exact Nat.le_trans (ih s hs body hbody) (Nat.le_of_lt_succ hlighter)

theorem weight_eq_length_plain (lines : List Line) : weight lines = (plain lines).length := by
  induction lines with
  | nil => rfl
  | cons line below ih => rw [weight_cons, plain_cons, List.length_append, ih]

/-- The lines that are read are not longer than the lines with tabs expanded. -/
theorem weight_readLines_le (text : Text) :
    weight (readLines text) ≤ ((rawLines text).map (expandTabs 0)).flatten.length := by
  rw [weight_eq_length_plain, plain, map_text_readLines, List.length_flatten, List.length_flatten,
    List.map_map, List.map_map]
  exact List.sum_le_sum fun raw _ => (prefix_trimEnd (expandTabs 0 raw)).length_le

/-! ### Progress -/

theorem exists_list_of_firstMarkAt {lines : List Line} {m : Marker} {i : Nat}
    (h : firstMarkAt lines i = pure (some m)) :
    ∃ run, Place.list m ⟨lines, i⟩ = pure run ∧ run.items ≠ [] ∧ i < run.next
      ∧ run.next ≤ lines.length := by
  cases hd : lines.drop i with
  | nil =>
    have hnone : lines[i]? = none := List.getElem?_eq_none (List.drop_eq_nil_iff.1 hd)
    rw [firstMarkAt, lineAt, hnone] at h
    cases h
  | cons line below =>
    rw [firstMarkAt_of_drop hd] at h
    have hm : Marker.first? line.text below = some m := Except.ok.inj (Option.some.inj h)
    obtain ⟨run, hrun, hreads⟩ := exists_list hd (Marker.isOn_first? hm)
    exact ⟨run, hrun, hreads.items_ne_nil, hreads.lt_next, hreads.next_le⟩

/-- Reading always makes progress. A list that opens on a line is read without a look beyond the
lines, has an item and ends behind the line, within the lines. Every body that is read in turn is
lighter than the lines it is cut from. So reading a text comes to an end, and blocks are nested no
deeper than the text with its tabs expanded is long. -/
theorem parse_progress :
    (∀ (lines : List Line) (m : Marker) (i : Nat), firstMarkAt lines i = pure (some m) →
      ∃ run, Place.list m ⟨lines, i⟩ = pure run ∧ run.items ≠ [] ∧ i < run.next
        ∧ run.next ≤ lines.length)
    ∧ (∀ lines : List Line, ∃ pieces, Place.segments false ⟨lines, 0⟩ = pure pieces
      ∧ ∀ piece ∈ pieces, ∀ cut ∈ piece.cuts, piece.start ≤ cut.start ∧ cut.start < cut.stop
        ∧ cut.stop ≤ piece.stop ∧ piece.stop ≤ lines.length
        ∧ weight cut.body < weight (between lines cut.start cut.stop))
    ∧ (∀ text : Text, parseAt text = pure (parse text))
    ∧ ∀ (text : Text) (document : Document), parse text = .ok document →
      height document.blocks ≤ ((rawLines text).map (expandTabs 0)).flatten.length := by
  refine ⟨fun lines m i => exists_list_of_firstMarkAt, fun lines => ?_, parseAt_eq,
    fun text document h => ?_⟩
  · obtain ⟨pieces, hpieces, -, hwithin⟩ := cutsInto_segments lines false 0
    refine ⟨pieces, hpieces, fun piece hp cut hc => ?_⟩
    have hcut := (hwithin piece hp).cuts cut hc
    exact ⟨hcut.start_le, hcut.start_lt_stop, hcut.stop_le, (hwithin piece hp).stop_le,
      hcut.lighter⟩
  · obtain ⟨-, rfl⟩ := parse_eq_ok h
    exact Nat.le_trans (height_readDocument_le _) (weight_readLines_le text)

/-- A list in the first item of a list, set in by a tab. -/
theorem parse_progress_nested :
    (∃ run, Place.list (.enumerator ⟨.arabic, some 1, false, '.', "a"⟩)
        ⟨readLines "1. a\n\n\t- b\n2. c", 0⟩ = pure run
      ∧ run.items ≠ [] ∧ 0 < run.next ∧ run.next ≤ (readLines "1. a\n\n\t- b\n2. c").length)
    ∧ ∃ document, parse "1. a\n\n\t- b\n2. c" = .ok document ∧ height document.blocks = 3
      ∧ height document.blocks
          ≤ ((rawLines "1. a\n\n\t- b\n2. c").map (expandTabs 0)).flatten.length := by
  have hparse : parse "1. a\n\n\t- b\n2. c"
      = .ok (readDocument (readLines "1. a\n\n\t- b\n2. c")) :=
    parse_of_allowed (by decide +kernel)
  obtain ⟨hlist, -, -, hheight⟩ := parse_progress
  exact ⟨hlist _ _ 0 rfl, _, hparse, by decide +kernel, hheight _ _ hparse⟩

end Testbook.Markup
