import Testbook.Proofs.Text.Pieces
import Testbook.Proofs.Text.Solid

/-!
Tabs expanded. A tab becomes at least one space, so expanding the tabs of a text keeps whether it is
empty or all blank, and whether a blank stands at its ends.
-/

namespace Testbook.Text

variable {text : Text} {c : Char}

/-- A stretch of a line that begins in column `column`, without its tabs and the blanks behind. -/
def tidyFrom (column : Nat) (text : Text) : Text := trimEnd (expandTabs column text)

theorem trimEnd_cons_of_solid (h : isBlank c = false) (text : Text) :
    trimEnd (c :: text) = c :: trimEnd text := by
  have hc : [c].dropWhile isBlank = [c] := List.dropWhile_cons_of_neg (Bool.eq_false_iff.1 h)
  rw [trimEnd, List.reverse_cons, List.dropWhile_append, hc, trimEnd]
  split
  · next hempty => rw [List.isEmpty_iff.1 hempty]; rfl
  · rw [List.reverse_append]; rfl

theorem expandTabs_tab (column : Nat) (text : Text) : expandTabs column ('\t' :: text)
    = List.replicate (8 - column % 8) ' ' ++ expandTabs (column + (8 - column % 8)) text := by
  rw [expandTabs, if_pos rfl]

theorem expandTabs_cons (h : c ≠ '\t') (column : Nat) (text : Text) :
    expandTabs column (c :: text) = c :: expandTabs (column + 1) text := by
  rw [expandTabs, if_neg h]

theorem isAllBlank_expandTabs (column : Nat) (text : Text) :
    isAllBlank (expandTabs column text) = isAllBlank text := by
  rw [Bool.eq_iff_iff, ← solid_eq_nil, ← solid_eq_nil, solid_expandTabs]

/-- A front without blanks stays as it is. -/
theorem tidyFrom_solid {front : Text} (h : ∀ c ∈ front, isBlank c = false) (column : Nat)
    (rest : Text) : tidyFrom column (front ++ rest)
      = front ++ tidyFrom (column + front.length) rest := by
  induction front generalizing column with
  | nil => rfl
  | cons c cs ih =>
    obtain ⟨hc, hcs⟩ := List.forall_mem_cons.1 h
    have htab : c ≠ '\t' := fun heq => absurd (heq ▸ hc) (by decide)
    have hrest := ih hcs (column + 1)
    rw [tidyFrom] at hrest
    rw [List.cons_append, tidyFrom, expandTabs_cons htab, trimEnd_cons_of_solid hc, hrest,
      List.length_cons, Nat.add_assoc, Nat.add_comm 1]
    rfl

/-- A tab leaves nothing but spaces. -/
theorem mem_of_mem_expandTabs (hspace : c ≠ ' ') {column : Nat} (h : c ∈ expandTabs column text) :
    c ∈ text := by
  induction text generalizing column with
  | nil => exact h
  | cons d ds ih =>
    by_cases hd : d = '\t'
    · rw [hd, expandTabs_tab, List.mem_append] at h
      rcases h with h | h
      · exact absurd (List.eq_of_mem_replicate h) hspace
      · exact List.mem_cons_of_mem _ (ih h)
    · rw [expandTabs_cons hd, List.mem_cons] at h
      rcases h with rfl | h
      · exact List.mem_cons_self
      · exact List.mem_cons_of_mem _ (ih h)

theorem expandTabs_ne_nil {column : Nat} (h : text ≠ []) : expandTabs column text ≠ [] := by
  obtain ⟨c, cs, rfl⟩ := List.exists_cons_of_ne_nil h
  by_cases hc : c = '\t'
  · have hwidth : 8 - column % 8 ≠ 0 := by omega
    rw [hc, expandTabs_tab]
    simp [hwidth]
  · rw [expandTabs_cons hc]
    exact List.cons_ne_nil _ _

theorem head?_expandTabs (column : Nat) (text : Text) :
    (expandTabs column text).head?.any isBlank = text.head?.any isBlank := by
  cases text with
  | nil => rfl
  | cons c cs =>
    by_cases hc : c = '\t'
    · have hwidth : 8 - column % 8 ≠ 0 := by omega
      obtain ⟨n, hn⟩ := Nat.exists_eq_succ_of_ne_zero hwidth
      rw [hc, expandTabs_tab, hn]
      rfl
    · rw [expandTabs_cons hc]
      rfl

theorem getLast?_expandTabs (column : Nat) (text : Text) :
    (expandTabs column text).getLast?.any isBlank = text.getLast?.any isBlank := by
  induction text generalizing column with
  | nil => rfl
  | cons c cs ih =>
    cases cs with
    | nil =>
      by_cases hc : c = '\t'
      · have hwidth : 8 - column % 8 ≠ 0 := by omega
        rw [hc, expandTabs_tab, expandTabs, List.append_nil, List.getLast?_replicate, if_neg hwidth]
        rfl
      · rw [expandTabs_cons hc]
        rfl
    | cons d ds =>
      have hlast (k : Nat) (front : Text) : (front ++ expandTabs k (d :: ds)).getLast?.any isBlank
          = (c :: d :: ds).getLast?.any isBlank := by
        have hne : expandTabs k (d :: ds) ≠ [] := expandTabs_ne_nil (List.cons_ne_nil d ds)
        obtain ⟨last, hlast⟩ := Option.ne_none_iff_exists'.1 (mt List.getLast?_eq_none_iff.1 hne)
        rw [List.getLast?_append, hlast, Option.some_or, ← hlast, ih, List.getLast?_cons_cons]
      by_cases hc : c = '\t'
      · rw [hc, expandTabs_tab, hlast, hc]
      · rw [expandTabs_cons hc, ← List.singleton_append, hlast]

end Testbook.Text
