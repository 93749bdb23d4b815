import Testbook.Proofs.Text.Margin
import Testbook.Proofs.Text.Tabs
import Testbook.Python.Docstring

/-!
Documentation strings moved to the margin. The margin is the least number of blanks in front of a line
that is not blank, so only blanks are taken away, and no line is empty at either end of what is left.
Where all lines behind the first stand deeper by the same width, so does the margin: a documentation
string is the same wherever its definition stands (`cleanDoc_deepened`).
-/

namespace Testbook.Text

theorem feed_not_mem_expandTabs {line : Text} (h : '\n' ∉ line) (column : Nat) :
    '\n' ∉ expandTabs column line := by
  induction line generalizing column with
  | nil => exact h
  | cons c cs ih =>
    rw [List.mem_cons, not_or] at h
    by_cases hc : c = '\t'
    · rw [hc, expandTabs_tab]
      refine List.not_mem_append (fun hmem => ?_) (ih h.2 _)
      exact absurd (List.eq_of_mem_replicate hmem) (by decide)
    · rw [expandTabs_cons hc, List.mem_cons, not_or]
      exact ⟨h.1, ih h.2 _⟩

end Testbook.Text

namespace Testbook.Python

open Testbook.Text

variable {lines : List Text} {doc line : Text}

/-! ### Empty lines at both ends -/

theorem exists_dropEmptyEnds (lines : List Text) :
    ∃ front back, lines = front ++ (dropEmptyEnds lines ++ back)
      ∧ (∀ line ∈ front, line = []) ∧ ∀ line ∈ back, line = [] := by
  have hempty {ls : List Text} {line : Text} (h : line ∈ ls.takeWhile List.isEmpty) : line = [] :=
    List.isEmpty_iff.1 (List.all_eq_true.1 List.all_takeWhile line h)
  refine ⟨lines.takeWhile List.isEmpty,
    ((lines.dropWhile List.isEmpty).reverse.takeWhile List.isEmpty).reverse, ?_,
    fun line => hempty, fun line h => hempty (List.mem_reverse.1 h)⟩
  rw [dropEmptyEnds, ← List.reverse_append, List.takeWhile_append_dropWhile, List.reverse_reverse,
    List.takeWhile_append_dropWhile]

theorem getLast?_dropEmptyEnds (lines : List Text) : (dropEmptyEnds lines).getLast? ≠ some [] := by
  intro hlast
  have hhead := List.head?_dropWhile_not List.isEmpty (lines.dropWhile List.isEmpty).reverse
  rw [dropEmptyEnds, List.getLast?_reverse] at hlast
  rw [hlast] at hhead
  exact absurd hhead (by simp)

theorem head?_dropEmptyEnds (lines : List Text) : (dropEmptyEnds lines).head? ≠ some [] := by
  intro hhead
  have hfront : dropEmptyEnds lines <+: lines.dropWhile List.isEmpty := by
    rw [dropEmptyEnds, ← List.reverse_suffix, List.reverse_reverse]
    exact List.dropWhile_suffix _
  obtain ⟨back, hback⟩ := hfront
  have hdropped := List.head?_dropWhile_not List.isEmpty lines
  rw [← hback, List.head?_append, hhead] at hdropped
  exact absurd hdropped (by simp)

/-- Empty lines hold nothing. -/
theorem flatten_dropEmptyEnds (lines : List Text) : (dropEmptyEnds lines).flatten = lines.flatten := by
  obtain ⟨front, back, hlines, hfront, hback⟩ := exists_dropEmptyEnds lines
  have hnothing {ls : List Text} (h : ∀ line ∈ ls, line = []) : ls.flatten = [] :=
    List.flatten_eq_nil_iff.2 h
  calc (dropEmptyEnds lines).flatten
      = front.flatten ++ ((dropEmptyEnds lines).flatten ++ back.flatten) := by
        rw [hnothing hfront, hnothing hback, List.nil_append, List.append_nil]
    _ = (front ++ (dropEmptyEnds lines ++ back)).flatten := by
        rw [List.flatten_append, List.flatten_append]
    _ = lines.flatten := by rw [← hlines]

/-! ### The margin -/

/-- The margin is not wider than the blanks in front of a line that holds anything else. -/
theorem commonMargin_le (hmem : line ∈ lines) (hsolid : isAllBlank line = false) :
    commonMargin lines ≤ blanksInFront line :=
  getD_min?_le (List.mem_map_of_mem (List.mem_filter.2 ⟨hmem, by simp [hsolid]⟩))

/-- Moving a line to the margin takes nothing but blanks away. -/
theorem solid_drop_commonMargin (hmem : line ∈ lines) :
    solid (line.drop (commonMargin lines)) = solid line := by
  cases hblank : isAllBlank line with
  | true => exact solid_drop_of_isAllBlank hblank _
  | false => exact solid_drop (commonMargin_le hmem hblank)

theorem exists_marginLines (doc : Text) : ∃ first rest,
    (splitOn '\n' doc).map (expandTabs 0) = first :: rest
      ∧ marginLines doc = trimStart first :: rest.map (List.drop (commonMargin rest)) := by
  obtain ⟨piece, pieces, hsplit⟩ := List.exists_cons_of_ne_nil (splitOn_ne_nil '\n' doc)
  refine ⟨expandTabs 0 piece, pieces.map (expandTabs 0), by rw [hsplit, List.map_cons], ?_⟩
  rw [marginLines, hsplit, List.map_cons]

theorem feed_not_mem_marginLines (h : line ∈ marginLines doc) : '\n' ∉ line := by
  obtain ⟨first, rest, hlines, hmargin⟩ := exists_marginLines doc
  have hfeed : ∀ l ∈ first :: rest, '\n' ∉ l := by
    intro l hl
    rw [← hlines] at hl
    obtain ⟨piece, hpiece, rfl⟩ := List.mem_map.1 hl
    exact feed_not_mem_expandTabs (not_mem_of_mem_splitOn hpiece) 0
  obtain ⟨hfirst, hrest⟩ := List.forall_mem_cons.1 hfeed
  rw [hmargin] at h
  rcases List.mem_cons.1 h with rfl | hmem
  · exact fun hin => hfirst ((List.dropWhile_sublist isBlank).subset hin)
  · obtain ⟨l, hl, rfl⟩ := List.mem_map.1 hmem
    exact fun hin => hrest l hl ((List.drop_sublist _ l).subset hin)

/-- The lines of a documentation string hold the same solid characters at the margin. -/
theorem solid_marginLines (doc : Text) : solid (marginLines doc).flatten = solid doc := by
  obtain ⟨first, rest, hlines, hmargin⟩ := exists_marginLines doc
  have hrest : (rest.map (List.drop (commonMargin rest))).map solid = rest.map solid := by
    rw [List.map_map]
    exact List.map_congr_left fun line hline => solid_drop_commonMargin hline
  have htabs : ((splitOn '\n' doc).map (expandTabs 0)).map solid = (splitOn '\n' doc).map solid := by
    rw [List.map_map]
    exact List.map_congr_left fun line _ => solid_expandTabs 0 line
  calc solid (marginLines doc).flatten
      = ((first :: rest).map solid).flatten := by
        rw [hmargin, solid_flatten, List.map_cons, hrest, solid_trimStart, List.map_cons]
    _ = solid (splitOn '\n' doc).flatten := by rw [← hlines, htabs, ← solid_flatten]
    _ = solid doc := solid_flatten_splitOn rfl doc

theorem solid_cleanDoc (doc : Text) : solid (cleanDoc doc) = solid doc := by
  have hfeed : isAllBlank ['\n'] = true := rfl
  rw [cleanDoc, solid_join hfeed, flatten_dropEmptyEnds, solid_marginLines]

/-- The lines of a cleaned documentation string, unless it is empty. -/
theorem splitOn_cleanDoc (h : cleanDoc doc ≠ []) :
    splitOn '\n' (cleanDoc doc) = dropEmptyEnds (marginLines doc) := by
  have hne : dropEmptyEnds (marginLines doc) ≠ [] := by
    intro hnil
    rw [cleanDoc, hnil] at h
    exact h rfl
  obtain ⟨front, back, hlines, -⟩ := exists_dropEmptyEnds (marginLines doc)
  refine splitOn_join hne fun line hline => ?_
  have hmem : line ∈ marginLines doc := by
    rw [hlines]
    exact List.mem_append_right _ (List.mem_append_left _ hline)
  exact feed_not_mem_marginLines hmem

/-! ### Deeper scopes -/

/-- The text with `k` spaces in front of each line behind the first. -/
def deepened (k : Nat) (text : Text) : Text :=
  text.flatMap fun c => if c = '\n' then '\n' :: List.replicate k ' ' else [c]

theorem splitOn_deepened (k : Nat) {first : Text} {rest : List Text}
    (h : splitOn '\n' doc = first :: rest) :
    splitOn '\n' (deepened k doc) = first :: rest.map (List.replicate k ' ' ++ ·) := by
  induction doc generalizing first rest with
  | nil =>
    cases h
    rfl
  | cons c cs ih =>
    obtain ⟨piece, pieces, hcs⟩ := List.exists_cons_of_ne_nil (splitOn_ne_nil '\n' cs)
    have hspaces : '\n' ∉ List.replicate k ' ' := fun hmem =>
      absurd (List.eq_of_mem_replicate hmem) (by decide)
    by_cases hc : c = '\n'
    · rw [splitOn, if_pos hc, hcs] at h
      cases h
      have hcons : deepened k (c :: cs) = '\n' :: (List.replicate k ' ' ++ deepened k cs) := by
        rw [deepened, List.flatMap_cons, if_pos hc]
        rfl
      rw [hcons, splitOn, if_pos rfl, splitOn_front hspaces (ih hcs), List.map_cons]
    · rw [splitOn, if_neg hc, hcs] at h
      cases h
      have hcons : deepened k (c :: cs) = c :: deepened k cs := by
        rw [deepened, List.flatMap_cons, if_neg hc]
        rfl
      rw [hcons, splitOn, if_neg hc, ih hcs]

theorem commonMargin_spaces (k : Nat) (h : ∃ line ∈ lines, isAllBlank line = false) :
    commonMargin (lines.map (List.replicate k ' ' ++ ·)) = k + commonMargin lines := by
  have hfilter : (lines.map (List.replicate k ' ' ++ ·)).filter (!isAllBlank ·)
      = (lines.filter (!isAllBlank ·)).map (List.replicate k ' ' ++ ·) := by
    rw [List.filter_map]
    exact congrArg (List.map _) (List.filter_congr fun line _ =>
      congrArg (!·) (isAllBlank_spaces k line))
  have hfronts : ((lines.filter (!isAllBlank ·)).map (List.replicate k ' ' ++ ·)).map blanksInFront
      = ((lines.filter (!isAllBlank ·)).map blanksInFront).map (k + ·) := by
    rw [List.map_map, List.map_map]
    exact List.map_congr_left fun line _ => length_takeWhile_spaces k line
  rw [commonMargin, hfilter, hfronts, min?_map_add, commonMargin]
  cases hmin : ((lines.filter (!isAllBlank ·)).map blanksInFront).min? with
  | none =>
    obtain ⟨line, hline, hsolid⟩ := h
    rw [List.min?_eq_none_iff, List.map_eq_nil_iff, List.filter_eq_nil_iff] at hmin
    exact absurd (hmin line hline) (by simp [hsolid])
  | some m => rfl

/-- Without tabs the lines are moved to the margin as they are. -/
theorem marginLines_of_not_mem (htab : '\t' ∉ doc) {first : Text} {rest : List Text}
    (h : splitOn '\n' doc = first :: rest) :
    marginLines doc = trimStart first :: rest.map (List.drop (commonMargin rest)) := by
  have hplain : (splitOn '\n' doc).map (expandTabs 0) = splitOn '\n' doc := by
    have hline : ∀ line ∈ splitOn '\n' doc, expandTabs 0 line = id line := fun line hmem =>
      expandTabs_of_not_mem (fun hin => htab (subset_of_mem_splitOn hmem hin)) 0
    rw [List.map_congr_left hline, List.map_id]
  rw [marginLines, hplain, h]

theorem tab_not_mem_deepened (h : '\t' ∉ doc) (k : Nat) : '\t' ∉ deepened k doc := by
  intro hmem
  obtain ⟨c, hc, htab⟩ := List.mem_flatMap.1 hmem
  split at htab
  · rcases List.mem_cons.1 htab with htab | htab
    · exact absurd htab (by decide)
    · exact absurd (List.eq_of_mem_replicate htab) (by decide)
  · exact h (List.mem_singleton.1 htab ▸ hc)

/-- A documentation string that stands deeper has the same lines at the margin. -/
theorem marginLines_deepened (k : Nat) (htab : '\t' ∉ doc)
    (h : ∃ line ∈ (splitOn '\n' doc).tail, isAllBlank line = false) :
    marginLines (deepened k doc) = marginLines doc := by
  obtain ⟨first, rest, hsplit⟩ := List.exists_cons_of_ne_nil (splitOn_ne_nil '\n' doc)
  rw [hsplit, List.tail_cons] at h
  rw [marginLines_of_not_mem (tab_not_mem_deepened htab k) (splitOn_deepened k hsplit),
    marginLines_of_not_mem htab hsplit, commonMargin_spaces k h, List.map_map]
  exact congrArg (trimStart first :: ·) (List.map_congr_left fun line _ => drop_spaces k _ line)

/-! ### Cleaned documentation -/

/-- A documentation string holds the same solid characters when it is cleaned, and begins and ends with
lines that are not empty unless it is empty. Where its lines behind the first stand in the source makes
no difference, if one of them is not blank. -/
theorem cleanDoc_deepened (doc : Text) :
    solid (cleanDoc doc) = solid doc
      ∧ (cleanDoc doc = [] ∨ (splitOn '\n' (cleanDoc doc)).head? ≠ some []
        ∧ (splitOn '\n' (cleanDoc doc)).getLast? ≠ some [])
      ∧ ∀ k, '\t' ∉ doc → (∃ line ∈ (splitOn '\n' doc).tail, isAllBlank line = false) →
        cleanDoc (deepened k doc) = cleanDoc doc := by
  refine ⟨solid_cleanDoc doc, ?_, fun k htab hsolid => ?_⟩
  · by_cases hempty : cleanDoc doc = []
    · exact .inl hempty
    · rw [splitOn_cleanDoc hempty]
      exact .inr ⟨head?_dropEmptyEnds _, getLast?_dropEmptyEnds _⟩
  · rw [cleanDoc, marginLines_deepened k htab hsolid, cleanDoc]

/-- Blank lines, wide blanks and lines that are less deep than the first. -/
theorem cleanDoc_deepened_sample :
    let doc : Text := "  Reads.\n   \n     :id: 1\n    \u3000 deeper \n  "
    '\t' ∉ doc ∧ (∃ line ∈ (splitOn '\n' doc).tail, isAllBlank line = false)
      ∧ cleanDoc (deepened 3 doc) = cleanDoc doc
      ∧ cleanDoc doc = "Reads.\n\n:id: 1\n deeper ".toList := by
  have htab : '\t' ∉ "  Reads.\n   \n     :id: 1\n    \u3000 deeper \n  ".toList := by decide
  have hsolid : ∃ line ∈ (splitOn '\n' "  Reads.\n   \n     :id: 1\n    \u3000 deeper \n  ".toList).tail,
      isAllBlank line = false := by decide
  exact ⟨htab, hsolid, (cleanDoc_deepened _).2.2 3 htab hsolid, by decide +kernel⟩

end Testbook.Python
