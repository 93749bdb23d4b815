import Testbook.Text.Alphabet
import Testbook.Text.Blank

/-!
Characters of words are never blank (`isBlank_of_isWordChar`). Within ASCII both classes are a few
characters; beyond it they are tables of ranges, and the tables are disjoint.
-/

namespace Testbook.Text

/-- No range of the one set meets a range of the other. -/
def Ranges.Disjoint (a b : Ranges) : Prop := ∀ r ∈ a, ∀ s ∈ b, r.2 < s.1 ∨ s.2 < r.1

instance (a b : Ranges) : Decidable (a.Disjoint b) :=
  inferInstanceAs (Decidable (∀ r ∈ a, ∀ s ∈ b, r.2 < s.1 ∨ s.2 < r.1))

variable {c : Char}

theorem Ranges.exists_of_contains {ranges : Ranges} (h : ranges.contains c = true) :
    ∃ r ∈ ranges, r.1 ≤ c.toNat ∧ c.toNat ≤ r.2 := by
  obtain ⟨r, hr, hc⟩ := List.any_eq_true.1 h
  rw [Bool.and_eq_true, decide_eq_true_eq, decide_eq_true_eq] at hc
  exact ⟨r, hr, hc⟩

theorem Ranges.Disjoint.contains_eq_false {a b : Ranges} (h : a.Disjoint b)
    (hb : b.contains c = true) : a.contains c = false := by
  rw [Bool.eq_false_iff]
  intro ha
  obtain ⟨r, hr, hrc⟩ := Ranges.exists_of_contains ha
  obtain ⟨s, hs, hsc⟩ := Ranges.exists_of_contains hb
  rcases h r hr s hs with hlt | hlt
  · omega
  · omega

/-- Letters and digits in ASCII. -/
theorem toNat_lt_of_isAlphanum (h : c.isAlphanum = true) : c.toNat < 0x80 := by
  rcases Bool.or_eq_true_iff.1 h with halpha | hdigit
  · rcases Bool.or_eq_true_iff.1 halpha with hupper | hlower
    · have hle : c.val ≤ 'Z'.val := (of_decide_eq_true hupper).2
      exact Nat.lt_of_le_of_lt (UInt32.le_iff_toNat_le.1 hle) (by decide)
    · have hle : c.val ≤ 'z'.val := of_decide_eq_true (Bool.and_eq_true_iff.1 hlower).2
      exact Nat.lt_of_le_of_lt (UInt32.le_iff_toNat_le.1 hle) (by decide)
  · exact Nat.lt_of_le_of_lt (Char.isDigit_iff_toNat.1 hdigit).2 (by decide)

theorem toNat_lt_of_isAlpha (h : c.isAlpha = true) : c.toNat < 0x80 :=
  toNat_lt_of_isAlphanum (by rw [Char.isAlphanum, h, Bool.true_or])

/-- No blank belongs to a word. -/
theorem isBlank_of_isWordChar (h : isWordChar c = true) : isBlank c = false := by
  rw [Bool.eq_false_iff]
  intro hb
  have hword : isWordChar c = false := by
    by_cases hc : c.toNat < 0x80
    · have hascii : ∀ n < 0x80, isBlank (Char.ofNat n) = true →
          isWordChar (Char.ofNat n) = false := by
        decide
      have hchar := hascii c.toNat hc
      rw [Char.ofNat_toNat] at hchar
      exact hchar hb
    · rw [isBlank, if_neg hc] at hb
      have halphabetic : alphabetic.Disjoint wideBlanks := by decide +kernel
      have hdigits : decimalDigits.Disjoint wideBlanks := by decide +kernel
      have hmarks : marks.Disjoint wideBlanks := by decide +kernel
      have hconnectors : connectors.Disjoint wideBlanks := by decide +kernel
      -- the two joiners are no table of their own
      have hjoiners : Ranges.Disjoint [(0x200C, 0x200D)] wideBlanks := by decide
      have hjoiner := hjoiners.contains_eq_false hb
      simp only [Ranges.contains, List.any_cons, List.any_nil, Bool.or_false,
        Bool.and_eq_false_iff, decide_eq_false_iff_not] at hjoiner
      rw [isWordChar, if_neg hc, halphabetic.contains_eq_false hb, hdigits.contains_eq_false hb,
        hmarks.contains_eq_false hb, hconnectors.contains_eq_false hb]
      simp only [Bool.or_false, Bool.false_or, Bool.or_eq_false_iff, decide_eq_false_iff_not]
      omega
  rw [hword] at h
  exact absurd h (by decide)

theorem isBlank_of_isAlphanum (h : c.isAlphanum = true) : isBlank c = false := by
  refine isBlank_of_isWordChar ?_
  rw [isWordChar, if_pos (toNat_lt_of_isAlphanum h), h, Bool.true_or]

end Testbook.Text
