import Testbook.Markup.Line
import Testbook.Proofs.Text.Margin

/-!
Indentation carries no content. Lines moved to the right together come back to where they were
when an indented block is moved to the margin (`flushed_map_indented`).
-/

namespace Testbook.Markup

open Testbook.Text

/-- The line moved to the right by `k` columns; a blank line stays as it is. -/
def Line.indented (k : Nat) (l : Line) : Line :=
  if l.isBlank then l else ⟨l.number, List.replicate k ' ' ++ l.text⟩

namespace Line

variable {k n : Nat} {l : Line}

theorem indented_of_blank (h : l.isBlank = true) : l.indented k = l := if_pos h

theorem indented_of_solid (h : l.isBlank = false) :
    l.indented k = ⟨l.number, List.replicate k ' ' ++ l.text⟩ :=
  if_neg (Bool.eq_false_iff.1 h)

theorem isBlank_indented : (l.indented k).isBlank = l.isBlank := by
  cases h : l.isBlank with
  | true => rw [indented_of_blank h, h]
  | false =>
    rw [indented_of_solid h, isBlank, isAllBlank, List.all_append]
    exact Bool.and_eq_false_iff.2 (.inr h)

theorem indent_indented (h : l.isBlank = false) : (l.indented k).indent = k + l.indent := by
  rw [indented_of_solid h, indent, List.takeWhile_append_of_pos (by simp), List.length_append,
    List.length_replicate]
  rfl

theorem isInner_indented (hk : 0 < k) : (l.indented k).isInner = true := by
  cases h : l.isBlank with
  | true => rw [isInner, isBlank_indented, h, Bool.true_or]
  | false =>
    rw [isInner, indent_indented h]
    exact Bool.or_eq_true_iff.2 (.inr (decide_eq_true (Nat.add_pos_left hk _)))

/-- Taking away more columns by as many as were put in front changes nothing. -/
theorem dedent_indented (hb : l.isBlank = true → l.text = []) :
    (l.indented k).dedent (k + n) = l.dedent n := by
  cases h : l.isBlank with
  | true => rw [indented_of_blank h, dedent, dedent, hb h, List.drop_nil, List.drop_nil]
  | false =>
    have hmin : min (k + n) (k + l.indent) = k + min n l.indent := Nat.add_min_add_left ..
    have hspaces : (List.replicate k ' ').drop (k + min n l.indent) = [] :=
      List.drop_eq_nil_of_le (by simp)
    rw [dedent, indent_indented h, hmin, indented_of_solid h]
    simp only [dedent, List.drop_append, hspaces, List.length_replicate, Nat.add_sub_cancel_left,
      List.nil_append]

end Line

/-! ### Blocks of lines -/

variable {k : Nat} {lines : List Line}

theorem trimBlankEnd_map_indented :
    trimBlankEnd (lines.map (Line.indented k)) = (trimBlankEnd lines).map (Line.indented k) := by
  have hblank : Line.isBlank ∘ Line.indented k = Line.isBlank :=
    funext fun _ => Line.isBlank_indented
  rw [trimBlankEnd, ← List.map_reverse, List.dropWhile_map, hblank, ← List.map_reverse]
  rfl

theorem trimBlankEnd_eq_nil_or (lines : List Line) :
    trimBlankEnd lines = [] ∨ ∃ l ∈ trimBlankEnd lines, l.isBlank = false := by
  by_cases hd : lines.reverse.dropWhile Line.isBlank = []
  · exact .inl (congrArg List.reverse hd)
  · exact .inr ⟨_, List.mem_reverse.2 (List.head_mem hd), List.head_dropWhile_not _ hd⟩

theorem trimBlankEnd_append_of_blank {blanks : List Line} (h : ∀ l ∈ blanks, l.isBlank = true) :
    trimBlankEnd (lines ++ blanks) = trimBlankEnd lines := by
  rw [trimBlankEnd, List.reverse_append,
    List.dropWhile_append_of_pos fun l hl => h l (List.mem_reverse.1 hl)]
  rfl

/-- The lines that are lost are the blank ones behind the last that is not. -/
theorem trimBlankEnd_append (lines : List Line) :
    ∃ blanks, lines = trimBlankEnd lines ++ blanks ∧ ∀ l ∈ blanks, l.isBlank = true := by
  refine ⟨(lines.reverse.takeWhile Line.isBlank).reverse, ?_, fun l hl => ?_⟩
  · rw [trimBlankEnd, ← List.reverse_append, List.takeWhile_append_dropWhile, List.reverse_reverse]
  · exact List.all_eq_true.1 List.all_takeWhile l (List.mem_reverse.1 hl)

theorem mem_trimBlankEnd {l : Line} (hl : l ∈ lines) (hb : l.isBlank = false) :
    l ∈ trimBlankEnd lines := by
  obtain ⟨blanks, hcut, hblanks⟩ := trimBlankEnd_append lines
  rw [hcut, List.mem_append] at hl
  rcases hl with hl | hl
  · exact hl
  · rw [hblanks l hl] at hb
    exact absurd hb Bool.noConfusion

/-- A block that ends with a line that is not blank has no blank lines to lose. -/
theorem trimBlankEnd_concat {l : Line} (h : l.isBlank = false) :
    trimBlankEnd (lines ++ [l]) = lines ++ [l] := by
  rw [trimBlankEnd, List.reverse_concat, List.dropWhile_cons_of_neg (Bool.eq_false_iff.1 h),
    List.reverse_cons, List.reverse_reverse]

theorem trimBlankEnd_append_of_solid (front : List Line) (hne : lines ≠ [])
    (h : ∀ l ∈ lines, l.isBlank = false) : trimBlankEnd (front ++ lines) = front ++ lines := by
  obtain rfl | ⟨init, l, rfl⟩ := List.eq_nil_or_concat lines
  · exact absurd rfl hne
  · rw [List.concat_eq_append] at h ⊢
    rw [← List.append_assoc, trimBlankEnd_concat (h l (by simp))]

/-- A block with a line at the margin is not indented. -/
theorem minIndent_eq_zero {l : Line} (hl : l ∈ lines) (hb : l.isBlank = false)
    (hi : l.indent = 0) : minIndent lines = 0 := by
  have hmem : 0 ∈ (lines.filter (!·.isBlank)).map Line.indent :=
    List.mem_map.2 ⟨l, List.mem_filter.2 ⟨hl, by simp [hb]⟩, hi⟩
  rw [minIndent, List.min?_eq_some_iff.2 ⟨hmem, fun _ _ => Nat.zero_le _⟩]
  rfl

theorem minIndent_map_indented (h : ∃ l ∈ lines, l.isBlank = false) :
    minIndent (lines.map (Line.indented k)) = k + minIndent lines := by
  have hblank : (!·.isBlank) ∘ Line.indented k = (!·.isBlank) :=
    funext fun _ => congrArg _ Line.isBlank_indented
  have hindent : ((lines.filter (!·.isBlank)).map (Line.indented k)).map Line.indent
      = ((lines.filter (!·.isBlank)).map Line.indent).map (k + ·) := by
    rw [List.map_map, List.map_map]
    refine List.map_congr_left fun l hl => Line.indent_indented ?_
    simpa using (List.mem_filter.1 hl).2
  rw [minIndent, List.filter_map, hblank, hindent]
  cases hmin : ((lines.filter (!·.isBlank)).map Line.indent).min? with
  | none =>
    obtain ⟨l, hl, hb⟩ := h
    rw [List.min?_eq_none_iff, List.map_eq_nil_iff, List.filter_eq_nil_iff] at hmin
    exact absurd (hmin l hl) (by simp [hb])
  | some m =>
    rw [min?_map_add, hmin, minIndent, hmin]
    rfl

theorem flushed_append_of_blank {blanks : List Line} (h : ∀ l ∈ blanks, l.isBlank = true) :
    flushed (lines ++ blanks) = flushed lines := by
  rw [flushed, trimBlankEnd_append_of_blank h, flushed]

/-- A block with a line at the margin stays where it is. -/
theorem flushed_of_margin {l : Line} (hl : l ∈ lines) (hb : l.isBlank = false)
    (hi : l.indent = 0) : flushed lines = trimBlankEnd lines := by
  have hdedent : Line.dedent 0 = id := funext fun l => by rw [Line.dedent, Nat.zero_min]; rfl
  rw [flushed, minIndent_eq_zero (mem_trimBlankEnd hl hb) hb hi, hdedent, List.map_id]

/-- An indented block moved further to the right is the same block at the margin. -/
theorem flushed_map_indented (h : ∀ l ∈ lines, l.isBlank = true → l.text = []) :
    flushed (lines.map (Line.indented k)) = flushed lines := by
  have hsub := trimBlankEnd_sublist lines
  rw [flushed, trimBlankEnd_map_indented, flushed]
  rcases trimBlankEnd_eq_nil_or lines with hnil | hsolid
  · rw [hnil]
    rfl
  · rw [minIndent_map_indented hsolid, List.map_map]
    exact List.map_congr_left fun l hl => Line.dedent_indented (h l (hsub.subset hl))

end Testbook.Markup
