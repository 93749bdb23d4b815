import Testbook.Proofs.Markup.Written

/-!
Lines of texts. A text is empty, or a last line without a line feed, or a line with a line feed and
what follows it; what holds for texts line by line is proved by this induction (`lines_induction`).
-/

namespace Testbook.Markup

open Testbook.Text

/-- Induction on the lines of a text. -/
theorem lines_induction {motive : Text → Prop} (nil : motive [])
    (last : ∀ line, '\n' ∉ line → line ≠ [] → motive line)
    (cons : ∀ line rest, '\n' ∉ line → motive rest → motive (line ++ '\n' :: rest))
    (text : Text) : motive text := by
  induction hn : text.length using Nat.strongRecOn generalizing text with
  | ind n ih =>
    have hline : '\n' ∉ text.takeWhile (· != '\n') := fun hmem => by
      have hne := List.all_eq_true.1 List.all_takeWhile '\n' hmem
      simp at hne
    have hcut := List.takeWhile_append_dropWhile (p := (· != '\n')) (l := text)
    cases hd : text.dropWhile (· != '\n') with
    | nil =>
      rw [hd, List.append_nil] at hcut
      rw [hcut] at hline
      by_cases hempty : text = []
      · rw [hempty]
        exact nil
      · exact last text hline hempty
    | cons c rest =>
      have hc : c = '\n' := by
        have hhead := List.head?_dropWhile_not (· != '\n') text
        rw [hd] at hhead
        simpa using hhead
      rw [hd, hc] at hcut
      have hlength : rest.length < n := by
        rw [← hn, ← hcut, List.length_append, List.length_cons]
        omega
      rw [← hcut]
      exact cons _ rest hline (ih rest.length hlength rest rfl)

/-! ### The lines that reading sees -/

theorem rawLines_of_not_mem {line : Text} (h : '\n' ∉ line) (hne : line ≠ []) :
    rawLines line = [line] := by
  rw [rawLines, splitOn_of_not_mem h]
  exact if_neg (by simp [hne])

theorem rawLines_append {line : Text} (h : '\n' ∉ line) (rest : Text) :
    rawLines (line ++ '\n' :: rest) = line :: rawLines rest := by
  have hne := splitOn_ne_nil '\n' rest
  have hlast : (line :: splitOn '\n' rest).getLast? = (splitOn '\n' rest).getLast? := by
    obtain ⟨piece, pieces, hp⟩ := List.exists_cons_of_ne_nil hne
    rw [hp, List.getLast?_cons_cons]
  rw [rawLines, splitOn_append h, hlast, rawLines]
  split
  · exact List.dropLast_cons_of_ne_nil hne
  · rfl

/-- The lines of a text hold characters of the text. -/
theorem subset_of_mem_rawLines {text raw : Text} (h : raw ∈ rawLines text) : raw ⊆ text := by
  rw [rawLines] at h
  split at h
  · exact subset_of_mem_splitOn (List.dropLast_subset _ h)
  · exact subset_of_mem_splitOn h

end Testbook.Markup
