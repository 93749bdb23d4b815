import Testbook.Proofs.Text.Tabs
import Mathlib.Data.List.Forall2

/-!
Carriage returns at the ends of lines. A text may have a carriage return in front of some of its line
feeds and be the same text otherwise (`HasReturns`). Line by line that is a blank more at the end
(`IsReturned`), which expanding tabs and moving lines to the margin keep, and which trimming takes
away (`IsReturned.tidy_eq`).
-/

namespace Testbook.Text

/-- The text with a carriage return in front of each line feed. -/
def withReturns (text : Text) : Text := text.flatMap fun c => if c = '\n' then ['\r', '\n'] else [c]

/-- The first text is the second with a carriage return in front of some of the line feeds. -/
inductive HasReturns : Text → Text → Prop where
  | nil : HasReturns [] []
  | keep (c : Char) {returned text : Text} : HasReturns returned text →
    HasReturns (c :: returned) (c :: text)
  | feed {returned text : Text} : HasReturns returned text →
    HasReturns ('\r' :: '\n' :: returned) ('\n' :: text)

/-- The first line is the second, or the second with a carriage return behind it. -/
def IsReturned (returned line : Text) : Prop := returned = line ∨ returned = line ++ ['\r']

variable {returned text line : Text} {c : Char}

theorem withReturns_feed (text : Text) : withReturns ('\n' :: text) = '\r' :: '\n' :: withReturns text :=
  rfl

theorem withReturns_cons (h : c ≠ '\n') (text : Text) :
    withReturns (c :: text) = c :: withReturns text := by
  rw [withReturns, List.flatMap_cons, if_neg h]
  rfl

theorem withReturns_append (a b : Text) : withReturns (a ++ b) = withReturns a ++ withReturns b :=
  List.flatMap_append

theorem withReturns_of_not_mem (h : '\n' ∉ text) : withReturns text = text := by
  induction text with
  | nil => rfl
  | cons c cs ih =>
    rw [List.mem_cons, not_or] at h
    rw [withReturns_cons (Ne.symm h.1), ih h.2]

namespace HasReturns

theorem refl (text : Text) : HasReturns text text := by
  induction text with
  | nil => exact nil
  | cons c cs ih => exact keep c ih

theorem append (front : Text) (h : HasReturns returned text) :
    HasReturns (front ++ returned) (front ++ text) := by
  induction front with
  | nil => exact h
  | cons c cs ih => exact keep c ih

theorem of_withReturns (text : Text) : HasReturns (withReturns text) text := by
  induction text with
  | nil => exact nil
  | cons c cs ih =>
    by_cases hc : c = '\n'
    · subst hc
      exact feed ih
    · rw [withReturns_cons hc]
      exact keep c ih

/-- Line by line the texts differ by carriage returns at the end. -/
theorem lines (h : HasReturns returned text) :
    List.Forall₂ IsReturned (splitOn '\n' returned) (splitOn '\n' text) := by
  induction h with
  | nil => exact .cons (.inl rfl) .nil
  | @keep c returned text _ ih =>
    by_cases hc : c = '\n'
    · rw [splitOn, if_pos hc, splitOn, if_pos hc]
      exact .cons (.inl rfl) ih
    · rw [splitOn, if_neg hc, splitOn, if_neg hc]
      generalize splitOn '\n' returned = lines' at ih
      generalize splitOn '\n' text = lines at ih
      cases ih with
      | nil => exact .cons (.inl rfl) .nil
      | cons hline hlines =>
        refine .cons ?_ hlines
        rcases hline with rfl | rfl
        · exact .inl rfl
        · exact .inr rfl
  | @feed returned text _ ih =>
    have hnone : '\n' ∉ ['\r'] := by decide
    have hreturn : splitOn '\n' ('\r' :: '\n' :: returned) = ['\r'] :: splitOn '\n' returned :=
      splitOn_append hnone returned
    have hfeed : splitOn '\n' ('\n' :: text) = [] :: splitOn '\n' text := if_pos rfl
    rw [hreturn, hfeed]
    exact .cons (.inr rfl) ih

end HasReturns

namespace IsReturned

theorem isAllBlank_eq (h : IsReturned returned line) : isAllBlank returned = isAllBlank line := by
  rcases h with rfl | rfl
  · rfl
  · rw [isAllBlank, List.all_append]
    exact Bool.and_true _

theorem expandTabs (h : IsReturned returned line) (column : Nat) :
    IsReturned (expandTabs column returned) (expandTabs column line) := by
  rcases h with rfl | rfl
  · exact .inl rfl
  · refine .inr ?_
    induction line generalizing column with
    | nil => rfl
    | cons c cs ih =>
      by_cases hc : c = '\t'
      · rw [hc, List.cons_append, expandTabs_tab, expandTabs_tab, ih, List.append_assoc]
      · rw [List.cons_append, expandTabs_cons hc, expandTabs_cons hc, ih, List.cons_append]

theorem drop (h : IsReturned returned line) (n : Nat) :
    IsReturned (returned.drop n) (line.drop n) := by
  rcases h with rfl | rfl
  · exact .inl rfl
  · rw [List.drop_append]
    rcases Nat.lt_or_ge line.length n with hn | hn
    · have hreturn : ['\r'].drop (n - line.length) = [] := List.drop_eq_nil_of_le (by simp; omega)
      rw [hreturn, List.append_nil]
      exact .inl rfl
    · rw [Nat.sub_eq_zero_of_le hn]
      exact .inr rfl

theorem trimStart (h : IsReturned returned line) :
    IsReturned (trimStart returned) (trimStart line) := by
  rcases h with rfl | rfl
  · exact .inl rfl
  · rw [Text.trimStart, List.dropWhile_append, Text.trimStart]
    split
    · next hempty => rw [List.isEmpty_iff.1 hempty]; exact .inl rfl
    · exact .inr rfl

/-- Trimming takes the carriage return away. -/
theorem tidy_eq (h : IsReturned returned line) (column : Nat) :
    tidyFrom column returned = tidyFrom column line := by
  rcases h.expandTabs column with heq | heq
  · rw [tidyFrom, heq, tidyFrom]
  · rw [tidyFrom, heq, tidyFrom, trimEnd, List.reverse_append]
    rfl

end IsReturned

end Testbook.Text
