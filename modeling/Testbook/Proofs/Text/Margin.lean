import Testbook.Proofs.Text.Solid

/-!
Margins. Lines that stand in a common margin of spaces have each as many blanks more in front, so the
least number of blanks grows by the width of the margin (`min?_map_add`), and taking away that many
more leaves what was left before (`drop_spaces`). Blanks in front are taken away without loss.
-/

namespace Testbook.Text

/-- The least of numbers that grow alike grows with them. -/
theorem min?_map_add (k : Nat) (ns : List Nat) : (ns.map (k + ·)).min? = ns.min?.map (k + ·) := by
  induction ns with
  | nil => rfl
  | cons n ns ih =>
    rw [List.map_cons, List.min?_cons, List.min?_cons, ih]
    cases ns.min? with
    | none => rfl
    | some m => exact congrArg some (Nat.add_min_add_left ..)

theorem getD_min?_le {ns : List Nat} {n : Nat} (h : n ∈ ns) : ns.min?.getD 0 ≤ n := by
  cases hmin : ns.min? with
  | none => exact Nat.zero_le n
  | some m => exact (List.min?_eq_some_iff.1 hmin).2 n h

variable {line : Text} {k n : Nat}

theorem isAllBlank_spaces (k : Nat) (line : Text) :
    isAllBlank (List.replicate k ' ' ++ line) = isAllBlank line := by
  rw [Bool.eq_iff_iff, ← solid_eq_nil, ← solid_eq_nil, solid_append, solid_replicate_space,
    List.nil_append]

theorem length_takeWhile_spaces (k : Nat) (line : Text) :
    ((List.replicate k ' ' ++ line).takeWhile isBlank).length
      = k + (line.takeWhile isBlank).length := by
  have hblank : ∀ c ∈ List.replicate k ' ', isBlank c = true := fun c hc => by
    rw [List.eq_of_mem_replicate hc]
    rfl
  rw [List.takeWhile_append_of_pos hblank, List.length_append, List.length_replicate]

theorem drop_spaces (k n : Nat) (line : Text) :
    (List.replicate k ' ' ++ line).drop (k + n) = line.drop n := by
  have hdrop : (List.replicate k ' ' ++ line).drop ((List.replicate k ' ').length + n) = line.drop n :=
    List.drop_length_add_append n
  rwa [List.length_replicate] at hdrop

/-- No solid character stands among the blanks in front. -/
theorem solid_drop (h : n ≤ (line.takeWhile isBlank).length) :
    solid (line.drop n) = solid line := by
  have hfront : isAllBlank (line.take n) = true := by
    have hpart : line.take n <+: line.takeWhile isBlank := by
      rw [List.prefix_iff_eq_take.1 (List.takeWhile_prefix isBlank)]
      exact List.take_prefix_take_left h
    exact List.all_eq_true.2 fun c hc =>
      List.all_eq_true.1 List.all_takeWhile c (hpart.subset hc)
  calc solid (line.drop n)
      = solid (line.take n) ++ solid (line.drop n) := by rw [solid_eq_nil.2 hfront, List.nil_append]
    _ = solid line := by rw [← solid_append, List.take_append_drop]

theorem solid_drop_of_isAllBlank (h : isAllBlank line = true) (n : Nat) :
    solid (line.drop n) = solid line := by
  have hdrop : isAllBlank (line.drop n) = true :=
    List.all_eq_true.2 fun c hc => List.all_eq_true.1 h c (List.mem_of_mem_drop hc)
  rw [solid_eq_nil.2 hdrop, solid_eq_nil.2 h]

end Testbook.Text
