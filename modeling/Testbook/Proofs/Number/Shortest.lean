import Testbook.Proofs.Number.Nearest
import Testbook.Proofs.Text.Decimal

/-!
Shortest decimals. A multiple of a power of ten that is found for an interval lies in it
(`contains_of_multiple?`), and seventeen places behind the first digit of a number one is found
(`exists_multiple?`), since the powers of ten lie closer there than the ends of the interval. So the
shortest decimal of a number lies in the interval around it (`contains_shortestDigits`).
-/

namespace Testbook.Number

open Binary64 Testbook.Text

variable {i : Interval} {unit place : Int} {t m num den : Nat} {q : Int}

/-! ### Multiples of powers of ten -/

theorem ten_zpow_pos (n : Int) : (0 : ℚ) < 10 ^ n := zpow_pos (by norm_num) n

theorem ten_zpow_toNat (n : Int) : (10 : ℚ) ^ n.toNat / 10 ^ (-n).toNat = 10 ^ n := by
  rcases Int.le_total 0 n with h | h
  · obtain ⟨k, rfl⟩ := Int.eq_ofNat_of_zero_le h
    simp
  · obtain ⟨k, hk⟩ := Int.eq_ofNat_of_zero_le (Int.neg_nonneg_of_nonpos h)
    obtain rfl : n = -(k : Int) := by omega
    simp

/-- What a power of ten and a power of two have in common with the numbers by which they are compared. -/
theorem exists_common (unit place : Int) : ∃ common : ℚ, 0 < common
    ∧ ((tenTo place.toNat * twoTo (-unit).toNat : Nat) : ℚ) = 10 ^ place * common
    ∧ ((twoTo unit.toNat * tenTo (-place).toNat : Nat) : ℚ) = 2 ^ unit * common := by
  have hsplit (base : ℚ) (hbase : base ≠ 0) (n : Int) :
      base ^ n.toNat = base ^ n * base ^ (-n).toNat := by
    rcases Int.le_total 0 n with h | h
    · obtain ⟨k, rfl⟩ := Int.eq_ofNat_of_zero_le h
      simp
    · obtain ⟨k, hk⟩ := Int.eq_ofNat_of_zero_le (Int.neg_nonneg_of_nonpos h)
      obtain rfl : n = -(k : Int) := by omega
      simp [hbase]
  refine ⟨10 ^ (-place).toNat * 2 ^ (-unit).toNat, by positivity, ?_, ?_⟩
  · rw [tenTo, twoTo, Nat.cast_mul, ← mul_assoc, ← hsplit 10 (by norm_num)]
    norm_cast
  · rw [tenTo, twoTo, Nat.cast_mul, mul_comm ((10 : ℚ) ^ (-place).toNat), ← mul_assoc,
      ← hsplit 2 (by norm_num)]
    norm_cast

/-- Whether a multiple of a power of ten lies in an interval. -/
def Interval.inside (i : Interval) (unit place : Int) (t : Nat) : Bool :=
  let grid := tenTo place.toNat * twoTo (-unit).toNat
  let scale := twoTo unit.toNat * tenTo (-place).toNat
  (i.low * scale < t * grid && t * grid < i.high * scale)
    || (i.closed && (t * grid = i.low * scale || t * grid = i.high * scale))

/-- The greatest multiple of a power of ten that is at most the value of an interval. -/
def Interval.below (i : Interval) (unit place : Int) : Nat :=
  i.value * (twoTo unit.toNat * tenTo (-place).toNat) / (tenTo place.toNat * twoTo (-unit).toNat)

theorem multiple?_cases (i : Interval) (unit place : Int) :
    (∃ t, i.multiple? unit place = some t ∧ i.inside unit place t = true)
      ∨ i.multiple? unit place = none ∧ i.inside unit place (i.below unit place + 1) = false := by
  have hmultiple : i.multiple? unit place =
      if i.inside unit place (i.below unit place) && (_ || !i.inside unit place (i.below unit place + 1)) then
        some (i.below unit place)
      else if i.inside unit place (i.below unit place + 1) then some (i.below unit place + 1)
      else none := rfl
  rw [hmultiple]
  split
  · next h => exact .inl ⟨_, rfl, (Bool.and_eq_true_iff.1 h).1⟩
  · split
    · next h => exact .inl ⟨_, rfl, h⟩
    · next h => exact .inr ⟨rfl, Bool.eq_false_iff.2 h⟩

/-- The comparisons of a multiple with the ends of an interval. -/
theorem inside_iff (i : Interval) (unit place : Int) (t : Nat) : i.inside unit place t = true
    ↔ ((i.low : ℚ) * 2 ^ unit < t * 10 ^ place ∧ (t : ℚ) * 10 ^ place < i.high * 2 ^ unit)
      ∨ i.closed = true
        ∧ ((t : ℚ) * 10 ^ place = i.low * 2 ^ unit ∨ (t : ℚ) * 10 ^ place = i.high * 2 ^ unit) := by
  obtain ⟨common, hpos, hgrid, hscale⟩ := exists_common unit place
  have hmul (a b c : ℚ) : a * (b * c) = a * b * c := (mul_assoc a b c).symm
  simp only [Interval.inside, Bool.or_eq_true, Bool.and_eq_true, decide_eq_true_eq]
  simp only [← Nat.cast_lt (α := ℚ), ← Nat.cast_inj (R := ℚ), Nat.cast_mul (α := ℚ) t,
    Nat.cast_mul (α := ℚ) i.low, Nat.cast_mul (α := ℚ) i.high, hgrid, hscale, hmul,
    mul_lt_mul_iff_left₀ hpos, mul_left_inj' hpos.ne']

/-- A multiple that is found lies in the interval. -/
theorem contains_of_multiple? (hle : i.low ≤ i.high) (h : i.multiple? unit place = some t) :
    i.Contains unit (t * 10 ^ place) := by
  have hinside : i.inside unit place t = true := by
    rcases multiple?_cases i unit place with ⟨t', ht', hinside⟩ | ⟨hnone, -⟩
    · rw [h] at ht'
      cases ht'
      exact hinside
    · rw [h] at hnone
      cases hnone
  have hends : (i.low : ℚ) * 2 ^ unit ≤ i.high * 2 ^ unit :=
    mul_le_mul_of_nonneg_right (by exact_mod_cast hle) (zpow_pos two_pos _).le
  rcases (inside_iff i unit place t).1 hinside with ⟨hlow, hhigh⟩ | ⟨hclosed, heq | heq⟩
  · exact ⟨hlow.le, hhigh.le, fun hend => by rcases hend with heq | heq <;> linarith⟩
  · exact ⟨heq.ge, heq ▸ hends, fun _ => hclosed⟩
  · exact ⟨heq ▸ hends, heq.le, fun _ => hclosed⟩

/-- A multiple is found when the power of ten is less than the upper half of the interval. -/
theorem exists_multiple? (hlow : i.low ≤ i.value)
    (h : (i.value : ℚ) * 2 ^ unit + 10 ^ place < i.high * 2 ^ unit) :
    ∃ t, i.multiple? unit place = some t := by
  rcases multiple?_cases i unit place with ⟨t, ht, -⟩ | ⟨-, houtside⟩
  · exact ⟨t, ht⟩
  · exfalso
    rw [Bool.eq_false_iff, Ne, inside_iff] at houtside
    refine houtside (.inl ?_)
    obtain ⟨common, hpos, hgrid, hscale⟩ := exists_common unit place
    have hgridPos : 0 < tenTo place.toNat * twoTo (-unit).toNat :=
      Nat.mul_pos (Nat.pow_pos (by decide)) (Nat.two_pow_pos _)
    -- the multiple below the value and the next one enclose it
    have hfloor : i.below unit place * (tenTo place.toNat * twoTo (-unit).toNat)
        ≤ i.value * (twoTo unit.toNat * tenTo (-place).toNat) := Nat.div_mul_le_self _ _
    have hnext : i.value * (twoTo unit.toNat * tenTo (-place).toNat)
        < (i.below unit place + 1) * (tenTo place.toNat * twoTo (-unit).toNat) := by
      rw [Nat.add_one_mul]
      exact Nat.lt_div_mul_add hgridPos
    rw [← Nat.cast_le (α := ℚ), Nat.cast_mul, Nat.cast_mul i.value, hgrid, hscale, ← mul_assoc,
      ← mul_assoc, mul_le_mul_iff_left₀ hpos] at hfloor
    rw [← Nat.cast_lt (α := ℚ), Nat.cast_mul i.value, Nat.cast_mul (i.below unit place + 1), hgrid, hscale,
      ← mul_assoc,
      ← mul_assoc, mul_lt_mul_iff_left₀ hpos] at hnext
    have hvalue : (i.low : ℚ) * 2 ^ unit ≤ i.value * 2 ^ unit :=
      mul_le_mul_of_nonneg_right (by exact_mod_cast hlow) (zpow_pos two_pos _).le
    refine ⟨hvalue.trans_lt hnext, ?_⟩
    push_cast
    linarith

/-! ### The place of the first digit -/

theorem length_toDigits_bounds {n : Nat} (h : 0 < n) :
    10 ^ ((Nat.toDigits 10 n).length - 1) ≤ n ∧ n < 10 ^ (Nat.toDigits 10 n).length := by
  have hlength : 0 < (Nat.toDigits 10 n).length := Nat.length_toDigits_pos
  refine ⟨?_, (Nat.length_toDigits_le_iff (by decide) hlength).1 (Nat.le_refl _)⟩
  by_cases hone : (Nat.toDigits 10 n).length = 1
  · rw [hone]
    exact h
  · by_contra hlt
    have := (Nat.length_toDigits_le_iff (by decide) (by omega)).2 (not_le.1 hlt)
    omega

theorem firstPlace_le (hnum : 0 < num) (hden : 0 < den) :
    (10 : ℚ) ^ firstPlace num den ≤ num / den := by
  have hden' : (0 : ℚ) < den := by exact_mod_cast hden
  rw [firstPlace, le_div_iff₀ hden']
  by_cases hle : den ≤ num
  · rw [if_pos hle]
    have hlength : 0 < (Nat.toDigits 10 (num / den)).length := Nat.length_toDigits_pos
    obtain ⟨hlow, -⟩ := length_toDigits_bounds (Nat.div_pos hle hden)
    have hmul := (Nat.mul_le_mul_right den hlow).trans (Nat.div_mul_le_self num den)
    have hplace : ((Nat.toDigits 10 (num / den)).length : Int) - 1
        = ((Nat.toDigits 10 (num / den)).length - 1 : Nat) := by omega
    rw [hplace, zpow_natCast]
    exact_mod_cast hmul
  · rw [if_neg hle]
    have hpos : 0 < den / num := Nat.div_pos (by omega) hnum
    have hlength : 0 < (Nat.toDigits 10 (den / num)).length := Nat.length_toDigits_pos
    obtain ⟨-, hhigh⟩ := length_toDigits_bounds hpos
    dsimp only
    generalize (Nat.toDigits 10 (den / num)).length = length at hlength hhigh ⊢
    obtain ⟨k, rfl⟩ := Nat.exists_eq_add_one_of_ne_zero (Nat.ne_of_gt hlength)
    have hsplit (n : Nat) : (10 : ℚ) ^ (-(n : Int)) * den ≤ num ↔ (den : ℚ) ≤ num * 10 ^ n := by
      rw [zpow_neg, zpow_natCast, inv_mul_le_iff₀ (by positivity), mul_comm]
    split
    · next hfits =>
      rw [show (1 : Int) - ((k + 1 : Nat) : Int) = -(k : Int) by push_cast; ring, hsplit]
      rw [Nat.add_sub_cancel, tenTo] at hfits
      exact_mod_cast hfits
    · rw [hsplit]
      have hlt : den < num * 10 ^ (k + 1) := by
        rw [Nat.div_lt_iff_lt_mul hnum] at hhigh
        rwa [Nat.mul_comm]
      exact_mod_cast hlt.le

/-! ### Decimals in the interval around a number -/

theorem length_bounds_of_contains (hm : 0 < m) (hnormal : IsNormal m q) {digits : Nat} {exponent : Int}
    (hdigits : 0 < digits) (h : (Interval.around m q).Contains (q - 2) (digits * 10 ^ exponent)) :
    -400 ≤ ((Nat.toDigits 10 digits).length : Int) + exponent
      ∧ ((Nat.toDigits 10 digits).length : Int) + exponent ≤ 400 := by
  obtain ⟨hlow, hhigh, -, -⟩ := h.bounds hm
  obtain ⟨hlength, hlength'⟩ := length_toDigits_bounds hdigits
  have hpos : 0 < (Nat.toDigits 10 digits).length := Nat.length_toDigits_pos
  generalize (Nat.toDigits 10 digits).length = length at hlength hlength' hpos ⊢
  have hten (n : Int) := ten_zpow_pos n
  have hmin : (2 : ℚ) ^ minExponent ≤ 2 ^ q := zpow_le_zpow_right₀ one_le_two hnormal.min_le
  have hmax : (2 : ℚ) ^ q ≤ 2 ^ maxExponent := zpow_le_zpow_right₀ one_le_two hnormal.le_max
  have hsucc : (1 : ℚ) ≤ m := by exact_mod_cast hm
  have hlt : (m : ℚ) + 1 ≤ 2 ^ 53 := by exact_mod_cast hnormal.lt
  constructor
  · -- the least number is far greater than the bound
    have hsmall : (10 : ℚ) ^ (-400 : Int) < 1 / 2 * 2 ^ minExponent := by
      have hnat : 2 * 2 ^ 1074 < 10 ^ 400 := by decide +kernel
      have hrat : (2 : ℚ) * 2 ^ 1074 < 10 ^ 400 := by exact_mod_cast hnat
      have hinv : (1 : ℚ) / 2 * 2 ^ minExponent = (2 * 2 ^ 1074)⁻¹ := by
        rw [mul_inv, one_div]
        rfl
      rw [hinv]
      exact inv_strictAnti₀ (by positivity) hrat
    have hvalue : 1 / 2 * 2 ^ minExponent ≤ (digits : ℚ) * 10 ^ exponent := by
      refine le_trans ?_ hlow
      exact mul_le_mul (by linarith) hmin (by positivity) (by linarith)
    have hdigitsLt : (digits : ℚ) < 10 ^ (length : Int) := by exact_mod_cast hlength'
    have hpower : (10 : ℚ) ^ (-400 : Int) < 10 ^ ((length : Int) + exponent) := by
      rw [zpow_add₀ (by norm_num)]
      exact hsmall.trans_le (hvalue.trans (mul_le_mul_of_nonneg_right hdigitsLt.le (hten _).le))
    exact ((zpow_lt_zpow_iff_right₀ (by norm_num)).1 hpower).le
  · have hlarge : (2 : ℚ) ^ 53 * 2 ^ maxExponent < 10 ^ (400 : Int) := by
      have hnat : 2 ^ 53 * 2 ^ 971 < 10 ^ 400 := by decide +kernel
      have hrat : (2 : ℚ) ^ 53 * 2 ^ 971 < 10 ^ 400 := by exact_mod_cast hnat
      have hmaxNat : maxExponent = ((971 : Nat) : Int) := rfl
      have hsizeNat : (400 : Int) = ((400 : Nat) : Int) := rfl
      rwa [hmaxNat, hsizeNat, zpow_natCast, zpow_natCast]
    have hvalue : (digits : ℚ) * 10 ^ exponent ≤ 2 ^ 53 * 2 ^ maxExponent := by
      refine hhigh.trans ?_
      exact mul_le_mul (by linarith) hmax (by positivity) (by positivity)
    have hdigitsGe : (10 : ℚ) ^ ((length : Int) - 1) ≤ digits := by
      have hplace : (length : Int) - 1 = (length - 1 : Nat) := by omega
      rw [hplace, zpow_natCast]
      exact_mod_cast hlength
    have hpower : (10 : ℚ) ^ ((length : Int) - 1 + exponent) < 10 ^ (400 : Int) := by
      rw [zpow_add₀ (by norm_num)]
      exact ((mul_le_mul_of_nonneg_right hdigitsGe (hten _).le).trans hvalue).trans_lt hlarge
    have := (zpow_lt_zpow_iff_right₀ (by norm_num)).1 hpower
    omega

/-- A decimal in the interval around a positive number is read as the number. -/
theorem ofDecimal_eq_of_contains (hm : 0 < m) (hnormal : IsNormal m q) {digits : Nat} {exponent : Int}
    (h : (Interval.around m q).Contains (q - 2) (digits * 10 ^ exponent)) :
    ofDecimal digits exponent = .finite false m q := by
  have hvalue : ((digits * tenTo exponent.toNat : Nat) : ℚ) / (tenTo (-exponent).toNat : Nat)
      = digits * 10 ^ exponent := by
    rw [tenTo, tenTo, Nat.cast_mul, mul_div_assoc, ← ten_zpow_toNat]
    norm_cast
  have hdigits : 0 < digits := by
    have hpos := h.pos (Interval.low_pos hm q)
    exact_mod_cast (pos_iff_pos_of_mul_pos hpos).2 (ten_zpow_pos exponent)
  obtain ⟨hlow, hhigh⟩ := length_bounds_of_contains hm hnormal hdigits h
  rw [ofDecimal, if_neg (by simp; omega), if_neg (by omega)]
  rw [← hvalue] at h
  exact nearest_eq_of_contains (Nat.pow_pos (by decide)) hm hnormal h

/-! ### The shortest decimal -/

/-- The search stops at the first place where a multiple is found. -/
theorem multiple?_shortest (steps : Nat) {n : Nat} (hn : n < steps)
    (h : ∃ t, i.multiple? unit (place - n) = some t) :
    i.multiple? unit (i.shortest unit steps place).2 = some (i.shortest unit steps place).1 := by
  induction steps generalizing place n with
  | zero => exact absurd hn (Nat.not_lt_zero n)
  | succ steps ih =>
    rw [Interval.shortest]
    cases hfirst : i.multiple? unit place with
    | some t => exact hfirst
    | none =>
      cases n with
      | zero =>
        obtain ⟨t, ht⟩ := h
        rw [Int.natCast_zero, Int.sub_zero, hfirst] at ht
        cases ht
      | succ n =>
        refine ih (Nat.lt_of_succ_lt_succ hn) ?_
        rwa [show place - 1 - (n : Int) = place - ((n + 1 : Nat) : Int) by push_cast; ring]

theorem Interval.low_le_high (m : Nat) (q : Int) : (around m q).low ≤ (around m q).high := by
  unfold around
  dsimp only
  split <;> omega

theorem Interval.low_le_value (m : Nat) (q : Int) : (around m q).low ≤ (around m q).value := by
  unfold around
  dsimp only
  split <;> omega

theorem dyadic_eq (m : Nat) (q : Int) :
    ((m * twoTo q.toNat : Nat) : ℚ) / (twoTo (-q).toNat : Nat) = m * 2 ^ q := by
  rw [twoTo, twoTo, Nat.cast_mul, mul_div_assoc]
  have hpowers := two_zpow_toNat (-q)
  rw [neg_neg] at hpowers
  rw [← hpowers]
  norm_cast

/-- The shortest decimal of a number is a multiple of a power of ten in the interval around it. -/
theorem contains_shortestDigits (hm : 0 < m) (hnormal : IsNormal m q) : ∃ t place,
    shortestDigits m q = Digits.ofMultiple t place
      ∧ (Interval.around m q).Contains (q - 2) (t * 10 ^ place) := by
  have hpos : (0 : ℚ) < 2 ^ q := zpow_pos two_pos q
  have hfirst : (10 : ℚ) ^ firstPlace (m * twoTo q.toNat) (twoTo (-q).toNat) ≤ m * 2 ^ q := by
    rw [← dyadic_eq]
    exact firstPlace_le (Nat.mul_pos hm (Nat.two_pow_pos _)) (Nat.two_pow_pos _)
  have hlast : ∃ t, (Interval.around m q).multiple? (q - 2)
      (firstPlace (m * twoTo q.toNat) (twoTo (-q).toNat) - (17 : Nat)) = some t := by
    refine exists_multiple? (Interval.low_le_value m q) ?_
    have hunit : (2 : ℚ) ^ (q - 2) = 2 ^ q / 4 := by
      rw [zpow_sub₀ two_ne_zero]
      norm_num
    have hplace (n : Int) : (10 : ℚ) ^ (n - (17 : Nat)) = 10 ^ n / 10 ^ 17 := by
      rw [zpow_sub₀ (by norm_num), zpow_natCast]
    have hlt : (m : ℚ) < 2 ^ 53 := by exact_mod_cast hnormal.lt
    have hsize : (m : ℚ) * 2 ^ q < 2 ^ 53 * 2 ^ q := mul_lt_mul_of_pos_right hlt hpos
    rw [hunit, hplace, Interval.around]
    push_cast
    linarith
  exact ⟨_, _, rfl, contains_of_multiple? (Interval.low_le_high m q)
    (multiple?_shortest 18 (by decide) hlast)⟩

end Testbook.Number
