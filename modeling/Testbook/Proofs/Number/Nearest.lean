import Mathlib.Algebra.Order.Field.Power
import Mathlib.Data.Rat.Cast.Order
import Mathlib.Tactic.FieldSimp
import Mathlib.Tactic.Linarith
import Mathlib.Tactic.NormNum
import Mathlib.Tactic.Ring
import Testbook.Number.Shortest

/-!
Rounding to floating-point numbers. A quotient is rounded at the exponent that leaves 53 binary digits
in front of the point, or at the least exponent (`leadingExponent_spec`), and all quotients in the
interval around a number are rounded to it (`nearest_eq_of_contains`). Whatever a numeral says, it is
read as a number in normal form or as infinity (`isNatural_ofDecimal`).
-/

namespace Testbook.Number

open Binary64

/-! ### Numbers and intervals -/

/-- Whether `m * 2^q` is a number in normal form. -/
structure IsNormal (m : Nat) (q : Int) : Prop where
  lt : m < 2 ^ 53
  filled : 2 ^ 52 ≤ m ∨ q = minExponent
  min_le : minExponent ≤ q
  le_max : q ≤ maxExponent

/-- Whether a quotient lies in an interval, the unit of which is `2^unit`. -/
structure Interval.Contains (i : Interval) (unit : Int) (x : ℚ) : Prop where
  low_le : i.low * 2 ^ unit ≤ x
  le_high : x ≤ i.high * 2 ^ unit
  closed : x = i.low * 2 ^ unit ∨ x = i.high * 2 ^ unit → i.closed = true

variable {num den m n d : Nat} {q : Int} {x : ℚ}

/-! ### Rounded quotients -/

theorem roundedQuotient_eq (hd : 0 < d) (hlow : 2 * m * d ≤ 2 * n + d) (hhigh : 2 * n ≤ (2 * m + 1) * d)
    (htie : 2 * m * d = 2 * n + d ∨ 2 * n = (2 * m + 1) * d → m % 2 = 0) : roundedQuotient n d = m := by
  have hn : d * (n / d) + n % d = n := Nat.div_add_mod n d
  have hr : n % d < d := Nat.mod_lt n hd
  rw [roundedQuotient]
  generalize n / d = t at hn ⊢
  generalize n % d = r at hn hr ⊢
  subst hn
  -- the quotient is at most one below what it is rounded to
  have hle : t ≤ m := by
    by_contra hlt
    have hmul : (m + 1) * d ≤ t * d := Nat.mul_le_mul_right d (by omega)
    nlinarith
  have hge : m ≤ t + 1 := by
    by_contra hlt
    have hmul : (t + 2) * d ≤ m * d := Nat.mul_le_mul_right d (by omega)
    nlinarith
  obtain rfl | rfl : m = t ∨ m = t + 1 := by omega
  · have hhalf : 2 * r ≤ d := by nlinarith
    have hsmall : 2 * r < d ∨ 2 * r = d ∧ m % 2 = 0 := by
      rcases Nat.lt_or_eq_of_le hhalf with hlt | heq
      · exact .inl hlt
      · exact .inr ⟨heq, htie (.inr (by nlinarith))⟩
    rw [if_pos (by simpa using hsmall)]
  · have hhalf : d ≤ 2 * r := by nlinarith
    have hlarge : ¬ (2 * r < d ∨ 2 * r = d ∧ t % 2 = 0) := by
      rintro (hlt | ⟨heq, heven⟩)
      · omega
      · have hodd := htie (.inl (by nlinarith))
        omega
    rw [if_neg (by simpa using hlarge)]

/-- A quotient is rounded to a number that is at most one half away from it, and in a tie to the even
number. -/
theorem roundedQuotient_eq_of_near (hd : 0 < d) (hlow : (m : ℚ) - 1 / 2 ≤ n / d)
    (hhigh : (n : ℚ) / d ≤ m + 1 / 2)
    (htie : (n : ℚ) / d = m - 1 / 2 ∨ (n : ℚ) / d = m + 1 / 2 → m % 2 = 0) :
    roundedQuotient n d = m := by
  have hd' : (0 : ℚ) < d := by exact_mod_cast hd
  rw [le_div_iff₀ hd'] at hlow
  rw [div_le_iff₀ hd'] at hhigh
  rw [div_eq_iff hd'.ne', div_eq_iff hd'.ne'] at htie
  refine roundedQuotient_eq hd ?_ ?_ ?_
  · have hlow' : 2 * (m : ℚ) * d ≤ 2 * n + d := by linarith
    exact_mod_cast hlow'
  · have hhigh' : 2 * (n : ℚ) ≤ (2 * m + 1) * d := by linarith
    exact_mod_cast hhigh'
  · rintro (heq | heq)
    · have heq' : 2 * (m : ℚ) * d = 2 * n + d := by exact_mod_cast heq
      exact htie (.inl (by linarith))
    · have heq' : 2 * (n : ℚ) = (2 * m + 1) * d := by exact_mod_cast heq
      exact htie (.inr (by linarith))

/-! ### Exponents -/

theorem scaled_den_pos (hden : 0 < den) (q : Int) : 0 < (scaled num den q).2 :=
  Nat.mul_pos hden (Nat.two_pow_pos _)

theorem two_zpow_toNat (q : Int) : (2 : ℚ) ^ (-q).toNat / 2 ^ q.toNat = 2 ^ (-q) := by
  rcases Int.le_total 0 q with h | h
  · obtain ⟨k, rfl⟩ := Int.eq_ofNat_of_zero_le h
    simp
  · obtain ⟨k, hk⟩ := Int.eq_ofNat_of_zero_le (Int.neg_nonneg_of_nonpos h)
    have hq : q.toNat = 0 := Int.toNat_of_nonpos h
    rw [hq, hk]
    simp

theorem scaled_eq (num den : Nat) (q : Int) :
    ((scaled num den q).1 : ℚ) / (scaled num den q).2 = num / den * 2 ^ (-q) := by
  have hcast : ((num * twoTo (-q).toNat : Nat) : ℚ) / ((den * twoTo q.toNat : Nat) : ℚ)
      = num / den * (2 ^ (-q).toNat / 2 ^ q.toNat) := by
    rw [twoTo, twoTo, Nat.cast_mul, Nat.cast_mul, mul_div_mul_comm]
    norm_cast
  exact hcast.trans (by rw [two_zpow_toNat])

/-- The exponent that leaves 53 binary digits in front of the point of a quotient. -/
def leadingExponent (num den : Nat) : Int :=
  let guess : Int := num.log2 - den.log2 - 53
  if (scaled num den guess).1 / (scaled num den guess).2 < twoTo 53 then guess else guess + 1

/-- The number `m * 2^q`, where 53 digits that are rounded up make one with the next exponent. -/
def carried (m : Nat) (q : Int) : Binary64 :=
  let (m, q) := if m = twoTo 53 then (twoTo 52, q + 1) else (m, q)
  if maxExponent < q then .infinite false else .finite false m q

theorem carried_of_ne (h : m ≠ 2 ^ 53) (q : Int) :
    carried m q = if maxExponent < q then .infinite false else .finite false m q := by
  rw [carried, if_neg (show ¬ m = twoTo 53 from h)]

theorem carried_full (q : Int) : carried (2 ^ 53) q
    = if maxExponent < q + 1 then .infinite false else .finite false (2 ^ 52) (q + 1) := rfl

theorem nearest_eq (hq : max minExponent (leadingExponent num den) = q) : nearest num den
    = carried (roundedQuotient (scaled num den q).1 (scaled num den q).2) q := by
  subst hq
  rfl

theorem log2_bounds (h : 0 < n) : (2 : ℚ) ^ (n.log2 : Int) ≤ n ∧ (n : ℚ) < 2 ^ (n.log2 + 1 : Int) := by
  refine ⟨?_, ?_⟩
  · have hle := Nat.log2_self_le (Nat.ne_of_gt h)
    exact_mod_cast hle
  · have hlt := @Nat.lt_log2_self n
    exact_mod_cast hlt

theorem leadingExponent_spec (hnum : 0 < num) (hden : 0 < den) :
    2 ^ 52 * 2 ^ leadingExponent num den ≤ (num : ℚ) / den
      ∧ (num : ℚ) / den < 2 ^ 53 * 2 ^ leadingExponent num den := by
  obtain ⟨hnumLow, hnumHigh⟩ := log2_bounds hnum
  obtain ⟨hdenLow, hdenHigh⟩ := log2_bounds hden
  have hden' : (0 : ℚ) < den := by exact_mod_cast hden
  have hzpow (a b : Int) : (2 : ℚ) ^ a * 2 ^ b = 2 ^ (a + b) := (zpow_add₀ two_ne_zero a b).symm
  have hpos (a : Int) : (0 : ℚ) < 2 ^ a := zpow_pos two_pos a
  -- the guess is at most one too small
  have hlow : (2 : ℚ) ^ (52 : Int) * 2 ^ ((num.log2 : Int) - den.log2 - 53) ≤ num / den := by
    rw [le_div_iff₀ hden', hzpow]
    calc (2 : ℚ) ^ (52 + ((num.log2 : Int) - den.log2 - 53)) * den
        ≤ 2 ^ (52 + ((num.log2 : Int) - den.log2 - 53)) * 2 ^ (den.log2 + 1 : Int) :=
          mul_le_mul_of_nonneg_left hdenHigh.le (hpos _).le
      _ = 2 ^ (num.log2 : Int) := by rw [hzpow]; congr 1; ring
      _ ≤ num := hnumLow
  have hhigh : (num : ℚ) / den < 2 ^ (54 : Int) * 2 ^ ((num.log2 : Int) - den.log2 - 53) := by
    rw [div_lt_iff₀ hden', hzpow]
    calc (num : ℚ) < 2 ^ (num.log2 + 1 : Int) := hnumHigh
      _ = 2 ^ (54 + ((num.log2 : Int) - den.log2 - 53)) * 2 ^ (den.log2 : Int) := by
          rw [hzpow]; congr 1; ring
      _ ≤ 2 ^ (54 + ((num.log2 : Int) - den.log2 - 53)) * den :=
          mul_le_mul_of_nonneg_left hdenLow (hpos _).le
  unfold leadingExponent
  dsimp only
  generalize (num.log2 : Int) - den.log2 - 53 = guess at hlow hhigh ⊢
  have hd : 0 < (scaled num den guess).2 := scaled_den_pos hden guess
  have hd' : (0 : ℚ) < (scaled num den guess).2 := by exact_mod_cast hd
  have hcompare : (scaled num den guess).1 / (scaled num den guess).2 < twoTo 53
      ↔ (num : ℚ) / den < 2 ^ 53 * 2 ^ guess := by
    have hquotient := scaled_eq num den guess
    rw [Nat.div_lt_iff_lt_mul hd, ← Nat.cast_lt (α := ℚ), Nat.cast_mul, ← div_lt_iff₀ hd', hquotient,
      zpow_neg, ← div_eq_mul_inv, div_lt_iff₀ (hpos guess)]
    norm_num [twoTo]
  by_cases hsmall : (num : ℚ) / den < 2 ^ 53 * 2 ^ guess
  · rw [if_pos (hcompare.2 hsmall)]
    exact ⟨by exact_mod_cast hlow, hsmall⟩
  · rw [if_neg (fun h => hsmall (hcompare.1 h)), zpow_add_one₀ two_ne_zero]
    have hhigh' : (num : ℚ) / den < 2 ^ 54 * 2 ^ guess := by exact_mod_cast hhigh
    exact ⟨by linarith [not_lt.1 hsmall], by linarith⟩

/-- A quotient with at most 53 binary digits in front of the point at an exponent leads at this one or
below. -/
theorem leadingExponent_le (hnum : 0 < num) (hden : 0 < den) (h : (num : ℚ) / den < 2 ^ 53 * 2 ^ q) :
    leadingExponent num den ≤ q := by
  obtain ⟨hlow, -⟩ := leadingExponent_spec hnum hden
  have hlt : (2 : ℚ) ^ (52 + leadingExponent num den) < 2 ^ (53 + q) := by
    rw [zpow_add₀ two_ne_zero, zpow_add₀ two_ne_zero]
    exact_mod_cast hlow.trans_lt h
  have := (zpow_lt_zpow_iff_right₀ one_lt_two).1 hlt
  omega

theorem le_leadingExponent (hnum : 0 < num) (hden : 0 < den) (h : 2 ^ 52 * 2 ^ q ≤ (num : ℚ) / den) :
    q ≤ leadingExponent num den := by
  obtain ⟨-, hhigh⟩ := leadingExponent_spec hnum hden
  have hlt : (2 : ℚ) ^ (52 + q) < 2 ^ (53 + leadingExponent num den) := by
    rw [zpow_add₀ two_ne_zero, zpow_add₀ two_ne_zero]
    exact_mod_cast h.trans_lt hhigh
  have := (zpow_lt_zpow_iff_right₀ one_lt_two).1 hlt
  omega

/-! ### Rounding -/

theorem Interval.Contains.pos {i : Interval} {unit : Int} (h : i.Contains unit x) (hlow : 0 < i.low) : 0 < x :=
  (mul_pos (by exact_mod_cast hlow) (zpow_pos two_pos _)).trans_le h.low_le

theorem Interval.low_pos (hm : 0 < m) (q : Int) : 0 < (around m q).low := by
  unfold around
  dsimp only
  split <;> omega

/-- The interval around a number reaches half a unit down, or a quarter below a power of two. -/
theorem Interval.Contains.bounds (hm : 0 < m) (h : (around m q).Contains (q - 2) x) :
    (m - 1 / 2) * 2 ^ q ≤ x ∧ x ≤ (m + 1 / 2) * 2 ^ q
      ∧ (x = (m - 1 / 2) * 2 ^ q ∨ x = (m + 1 / 2) * 2 ^ q → m % 2 = 0)
      ∧ (m = 2 ^ 52 → minExponent < q → (m - 1 / 4) * 2 ^ q ≤ x) := by
  have hunit : (2 : ℚ) ^ (q - 2) = 2 ^ q / 4 := by
    rw [zpow_sub₀ two_ne_zero]
    norm_num
  have hpos : (0 : ℚ) < 2 ^ q := zpow_pos two_pos q
  have hhigh : ((around m q).high : ℚ) * 2 ^ (q - 2) = (m + 1 / 2) * 2 ^ q := by
    rw [hunit, around, Nat.cast_add, Nat.cast_mul]
    ring
  have hclosed : (around m q).closed = true ↔ m % 2 = 0 := by simp [around]
  have hcondition : (decide (m = twoTo 52) && decide (minExponent < q)) = true
      ↔ m = 2 ^ 52 ∧ minExponent < q := by
    rw [Bool.and_eq_true, decide_eq_true_eq, decide_eq_true_eq]
    rfl
  obtain ⟨hlow, hle, hends⟩ := h
  rw [hhigh] at hle hends
  rw [hclosed] at hends
  by_cases hpower : m = 2 ^ 52 ∧ minExponent < q
  · have hlowEq : ((around m q).low : ℚ) * 2 ^ (q - 2) = (m - 1 / 4) * 2 ^ q := by
      have hif : (around m q).low = 4 * m - 1 := if_pos (hcondition.2 hpower)
      rw [hunit, hif, Nat.cast_sub (by omega), Nat.cast_mul]
      push_cast
      ring
    rw [hlowEq] at hlow hends
    exact ⟨by nlinarith, hle, fun _ => hpower.1 ▸ rfl, fun _ _ => hlow⟩
  · have hlowEq : ((around m q).low : ℚ) * 2 ^ (q - 2) = (m - 1 / 2) * 2 ^ q := by
      have hif : (around m q).low = 4 * m - 2 := if_neg fun h => hpower (hcondition.1 h)
      rw [hunit, hif, Nat.cast_sub (by omega), Nat.cast_mul]
      push_cast
      ring
    rw [hlowEq] at hlow hends
    exact ⟨hlow, hle, hends, fun hm hq => absurd ⟨hm, hq⟩ hpower⟩

theorem roundedQuotient_scaled (hden : 0 < den) (hlow : (m - 1 / 2) * 2 ^ q ≤ (num : ℚ) / den)
    (hhigh : (num : ℚ) / den ≤ (m + 1 / 2) * 2 ^ q)
    (htie : (num : ℚ) / den = (m - 1 / 2) * 2 ^ q ∨ (num : ℚ) / den = (m + 1 / 2) * 2 ^ q → m % 2 = 0) :
    roundedQuotient (scaled num den q).1 (scaled num den q).2 = m := by
  have hpos : (0 : ℚ) < 2 ^ q := zpow_pos two_pos q
  have hscaled : ((scaled num den q).1 : ℚ) / (scaled num den q).2 = num / den / 2 ^ q := by
    rw [scaled_eq, zpow_neg, div_eq_mul_inv _ ((2 : ℚ) ^ q)]
  refine roundedQuotient_eq_of_near (scaled_den_pos hden q) ?_ ?_ ?_
  · rwa [hscaled, le_div_iff₀ hpos]
  · rwa [hscaled, div_le_iff₀ hpos]
  · rwa [hscaled, div_eq_iff hpos.ne', div_eq_iff hpos.ne']

/-- Whatever lies in the interval around a positive number is rounded to it. -/
theorem nearest_eq_of_contains (hden : 0 < den) (hm : 0 < m) (hnormal : IsNormal m q)
    (h : (Interval.around m q).Contains (q - 2) (num / den)) : nearest num den = .finite false m q := by
  have hnum : 0 < num := by
    by_contra hzero
    have hquotient := h.pos (Interval.low_pos hm q)
    rw [Nat.eq_zero_of_not_pos hzero, Nat.cast_zero, zero_div] at hquotient
    exact lt_irrefl 0 hquotient
  have hpos : (0 : ℚ) < 2 ^ q := zpow_pos two_pos q
  obtain ⟨hlow, hhigh, htie, hquarter⟩ := h.bounds hm
  have hlt : (m : ℚ) + 1 ≤ 2 ^ 53 := by
    have := hnormal.lt
    exact_mod_cast this
  have hle : leadingExponent num den ≤ q := by
    refine leadingExponent_le hnum hden (hhigh.trans_lt ?_)
    exact mul_lt_mul_of_pos_right (by linarith) hpos
  have hmax : ¬ maxExponent < q := not_lt.2 hnormal.le_max
  by_cases hlead : max minExponent (leadingExponent num den) = q
  · rw [nearest_eq hlead, roundedQuotient_scaled hden hlow hhigh htie,
      carried_of_ne (Nat.ne_of_lt hnormal.lt), if_neg hmax]
  · -- below a power of two the quotient is rounded up to it with one digit more
    have hmin := hnormal.min_le
    have hqmin : minExponent < q := by omega
    have hfilled : 2 ^ 52 ≤ m := hnormal.filled.resolve_right (by omega)
    have hfilled' : (2 : ℚ) ^ 52 ≤ m := by exact_mod_cast hfilled
    have hbelow : (num : ℚ) / den < 2 ^ 52 * 2 ^ q := by
      by_contra hge
      have := le_leadingExponent hnum hden (not_lt.1 hge)
      omega
    have hpower : m = 2 ^ 52 := by
      by_contra hne
      have hsucc : (2 : ℚ) ^ 52 + 1 ≤ m := by exact_mod_cast Nat.lt_of_le_of_ne hfilled (Ne.symm hne)
      nlinarith
    have hquarter := hquarter hpower hqmin
    subst hpower
    have hprevious : (2 : ℚ) ^ q = 2 * 2 ^ (q - 1) := by
      rw [zpow_sub_one₀ two_ne_zero]
      ring
    have hpos' : (0 : ℚ) < 2 ^ (q - 1) := zpow_pos two_pos _
    have hlead' : max minExponent (leadingExponent num den) = q - 1 := by
      have hge : q - 1 ≤ leadingExponent num den := by
        refine le_leadingExponent hnum hden (le_trans ?_ hquarter)
        rw [hprevious]
        push_cast
        nlinarith
      omega
    have hround : roundedQuotient (scaled num den (q - 1)).1 (scaled num den (q - 1)).2 = 2 ^ 53 := by
      rw [hprevious] at hquarter hbelow
      push_cast at hquarter
      refine roundedQuotient_scaled hden ?_ ?_ (fun _ => rfl)
      · push_cast
        linarith
      · push_cast
        linarith
    rw [nearest_eq hlead', hround, carried_full, Int.sub_add_cancel, if_neg hmax]

/-! ### What is read -/

/-- A number that is not negative, in normal form, or infinity. -/
def Binary64.IsNatural : Binary64 → Prop
  | .finite negative m q => negative = false ∧ IsNormal m q
  | .infinite negative => negative = false
  | .nan => False

theorem roundedQuotient_bounds (n d : Nat) : n / d ≤ roundedQuotient n d
    ∧ roundedQuotient n d ≤ n / d + 1 := by
  rw [roundedQuotient]
  split <;> omega

theorem isNatural_nearest (hnum : 0 < num) (hden : 0 < den) : (nearest num den).IsNatural := by
  obtain ⟨hlead, hleadHigh⟩ := leadingExponent_spec hnum hden
  obtain ⟨q, hq⟩ : ∃ q, max minExponent (leadingExponent num den) = q := ⟨_, rfl⟩
  rw [nearest_eq hq]
  have hd : 0 < (scaled num den q).2 := scaled_den_pos hden q
  have hd' : (0 : ℚ) < (scaled num den q).2 := by exact_mod_cast hd
  have hpos : (0 : ℚ) < 2 ^ q := zpow_pos two_pos q
  have hscaled := scaled_eq num den q
  rw [zpow_neg, ← div_eq_mul_inv] at hscaled
  obtain ⟨hroundLow, hroundHigh⟩ := roundedQuotient_bounds (scaled num den q).1 (scaled num den q).2
  have hsmall : (scaled num den q).1 / (scaled num den q).2 < 2 ^ 53 := by
    have hmono : (2 : ℚ) ^ leadingExponent num den ≤ 2 ^ q :=
      zpow_le_zpow_right₀ one_le_two (by omega)
    have hlt : ((scaled num den q).1 : ℚ) / (scaled num den q).2 < 2 ^ 53 := by
      rw [hscaled, div_lt_iff₀ hpos]
      exact hleadHigh.trans_le (mul_le_mul_of_nonneg_left hmono (by positivity))
    rw [div_lt_iff₀ hd'] at hlt
    rw [Nat.div_lt_iff_lt_mul hd]
    exact_mod_cast hlt
  have hlarge : 2 ^ 52 ≤ (scaled num den q).1 / (scaled num den q).2 ∨ q = minExponent := by
    rcases max_choice minExponent (leadingExponent num den) with hmin | hmax
    · exact .inr (hq.symm.trans hmin)
    · left
      rw [← hq, hmax] at hscaled hd hd' hpos ⊢
      have hge : (2 : ℚ) ^ 52
          ≤ ((scaled num den (leadingExponent num den)).1 : ℚ)
            / (scaled num den (leadingExponent num den)).2 := by
        rw [hscaled, le_div_iff₀ hpos]
        exact hlead
      rw [le_div_iff₀ hd'] at hge
      rw [Nat.le_div_iff_mul_le hd]
      exact_mod_cast hge
  have hmin : minExponent ≤ q := hq ▸ le_max_left _ _
  generalize roundedQuotient (scaled num den q).1 (scaled num den q).2 = m at hroundLow hroundHigh ⊢
  by_cases hfull : m = 2 ^ 53
  · rw [hfull, carried_full]
    split
    · rfl
    · next hmax => exact ⟨rfl, by decide, .inl (Nat.le_refl _), by omega, not_lt.1 hmax⟩
  · rw [carried_of_ne hfull]
    split
    · rfl
    · next hmax =>
      exact ⟨rfl, by omega, hlarge.imp (fun h => h.trans hroundLow) id, hmin, not_lt.1 hmax⟩

theorem isNatural_ofDecimal (digits : Nat) (exponent : Int) : (ofDecimal digits exponent).IsNatural := by
  rw [ofDecimal]
  split
  · exact ⟨rfl, by decide, .inr rfl, le_refl _, by decide⟩
  · next hzero =>
    split
    · rfl
    · have hdigits : 0 < digits := by
        by_contra hnone
        exact hzero (by simp [Nat.eq_zero_of_not_pos hnone])
      exact isNatural_nearest (Nat.mul_pos hdigits (Nat.pow_pos (by decide))) (Nat.pow_pos (by decide))

end Testbook.Number
