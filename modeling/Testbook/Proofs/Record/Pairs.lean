import Testbook.Proofs.Html.Position
import Testbook.Record.Steps

/-!
Two values as pairs. There is always a pair, and two lists are taken apart just when they have as
many items and have some (`pairSteps_eq_self_iff_of_lists`): no item is the text of its list, so
pairs of items are never the two values as they are.
-/

namespace Testbook

open Testbook.Text Testbook.Html

variable {steps results : Text} {items outcomes : List Text}

theorem pairUp_iff : pairUp items outcomes = true ↔ items ≠ [] ∧ items.length = outcomes.length := by
  simp [pairUp]

theorem pairSteps_of_lists (hs : orderedItems? steps = some items)
    (hr : orderedItems? results = some outcomes) : pairSteps steps results
      = if pairUp items outcomes then items.zip outcomes else [(steps, results)] := by
  rw [pairSteps, hs, hr]

theorem pairSteps_of_not_list (h : orderedItems? steps = none ∨ orderedItems? results = none) :
    pairSteps steps results = [(steps, results)] := by
  rw [pairSteps]
  split
  · next hs hr =>
    rcases h with h | h
    · rw [hs] at h
      cases h
    · rw [hr] at h
      cases h
  · rfl

/-- Two lists stay as they are unless their items pair up: of two lists with one item each, too, the
pair is another one. -/
theorem pairSteps_eq_self_iff_of_lists (hs : orderedItems? steps = some items)
    (hr : orderedItems? results = some outcomes) :
    pairSteps steps results = [(steps, results)] ↔ ¬pairUp items outcomes = true := by
  rw [pairSteps_of_lists hs hr]
  split
  · next hpair =>
    refine iff_of_false (fun hzip => ?_) (not_not_intro hpair)
    have hmem : (steps, results) ∈ items.zip outcomes := hzip ▸ List.mem_singleton_self _
    exact absurd rfl (ne_of_mem_orderedItems? hs (List.of_mem_zip hmem).1)
  · next hpair => exact iff_of_true rfl hpair

/-- There is always a pair. -/
theorem pairSteps_ne_nil (steps results : Text) : pairSteps steps results ≠ [] := by
  rw [pairSteps]
  split
  · split
    · next hpair =>
      obtain ⟨hne, hlength⟩ := pairUp_iff.1 hpair
      rw [← List.length_pos_iff] at hne ⊢
      rw [List.length_zip]
      omega
    · exact List.cons_ne_nil _ _
  · exact List.cons_ne_nil _ _

end Testbook
