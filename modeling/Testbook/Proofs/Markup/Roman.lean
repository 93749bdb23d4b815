import Testbook.Proofs.Markup.Ordinals
import Testbook.Proofs.Results
import Mathlib.Tactic.IntervalCases

/-!
Roman numerals. A numeral is thousands and then three decimal places, and no letter of a place
counts more than any letter of the place before, so the places add up (`romanSum_append`) and a
numeral of any length counts its number (`addUp_romanNumeral`). Whatever the letters, the total is
the sum of their digits with signs, it grows by at most a thousand with each letter, and it is an
ordinal exactly where it lies within the bounds (`romanValue?_eq_some`).
-/

namespace Testbook.Markup

open Testbook.Text

/-- One decimal place of a numeral, over the letters for one, five and ten of it. -/
def romanPlace (one five ten : Char) : Nat → Text
  | 1 => [one]
  | 2 => [one, one]
  | 3 => [one, one, one]
  | 4 => [one, five]
  | 5 => [five]
  | 6 => [five, one]
  | 7 => [five, one, one]
  | 8 => [five, one, one, one]
  | 9 => [one, ten]
  | _ => []

/-- The canonical numeral of a number, in lower case. -/
def romanNumeral (n : Nat) : Text :=
  List.replicate (n / 1000) 'm' ++ (romanPlace 'c' 'd' 'm' (n / 100 % 10)
    ++ (romanPlace 'x' 'l' 'c' (n / 10 % 10) ++ romanPlace 'i' 'v' 'x' (n % 10)))

/-- Digits with their signs: one that stands before a greater one counts negatively. -/
def signedDigits : List Nat → List Int
  | [] => []
  | d :: digits => (if digits.head?.any (d < ·) then -(d : Int) else d) :: signedDigits digits

/-! ### Sums of digits -/

theorem romanSum_cons (d : Nat) (digits : List Nat) : romanSum (d :: digits)
    = (if digits.head?.any (d < ·) then -(d : Int) else d) + romanSum digits := by
  cases digits with
  | nil => simp [romanSum]
  | cons next digits => simp [romanSum]

theorem romanSum_eq_sum (digits : List Nat) : romanSum digits = (signedDigits digits).sum := by
  induction digits with
  | nil => rfl
  | cons d digits ih => rw [romanSum_cons, signedDigits, List.sum_cons, ih]

/-- Digits none of which is greater than any digit in front of them are added. -/
theorem romanSum_append {a b : List Nat} (h : ∀ x ∈ a, ∀ y ∈ b, y ≤ x) :
    romanSum (a ++ b) = romanSum a + romanSum b := by
  induction a with
  | nil => simp [romanSum]
  | cons d a ih =>
    obtain ⟨hd, ha⟩ := List.forall_mem_cons.1 h
    have hsign : (a ++ b).head?.any (d < ·) = a.head?.any (d < ·) := by
      cases a with
      | cons next a => rfl
      | nil =>
        cases b with
        | nil => rfl
        | cons y b => simpa using hd y List.mem_cons_self
    rw [List.cons_append, romanSum_cons, romanSum_cons, hsign, ih ha, Int.add_assoc]

/-! ### What letters count -/

/-- Whether letters count `value` together, and each of them from `low` up to `high`. -/
def AddUp (low high : Nat) (text : Text) (value : Int) : Prop :=
  ∃ digits, text.mapM romanDigit? = some digits ∧ romanSum digits = value
    ∧ ∀ d ∈ digits, low ≤ d ∧ d ≤ high

theorem AddUp.append {low middle high : Nat} {a b : Text} {v w : Int} (ha : AddUp middle high a v)
    (hb : AddUp low middle b w) (hlow : low ≤ middle) (hhigh : middle ≤ high) :
    AddUp low high (a ++ b) (v + w) := by
  obtain ⟨front, hfront, hv, hfrontBounds⟩ := ha
  obtain ⟨back, hback, hw, hbackBounds⟩ := hb
  refine ⟨front ++ back, ?_, ?_, ?_⟩
  · rw [List.mapM_append, hfront, hback]
    rfl
  · rw [romanSum_append, hv, hw]
    exact fun x hx y hy => (hbackBounds y hy).2.trans (hfrontBounds x hx).1
  · intro d hd
    rcases List.mem_append.1 hd with hd | hd
    · exact ⟨hlow.trans (hfrontBounds d hd).1, (hfrontBounds d hd).2⟩
    · exact ⟨(hbackBounds d hd).1, (hbackBounds d hd).2.trans hhigh⟩

theorem addUp_thousands (k : Nat) : AddUp 1000 1000 (List.replicate k 'm') (1000 * k) := by
  induction k with
  | zero => exact ⟨[], rfl, rfl, by simp⟩
  | succ k ih =>
    have hone : AddUp 1000 1000 ['m'] 1000 := ⟨[1000], rfl, rfl, by simp⟩
    have hall := hone.append ih le_rfl le_rfl
    rw [Nat.cast_succ, Int.mul_add, Int.mul_one, Int.add_comm]
    exact hall

theorem addUp_romanPlace {one five ten : Char} {unit d : Nat} (hunit : 0 < unit) (hd : d < 10)
    (hone : romanDigit? one = some unit) (hfive : romanDigit? five = some (5 * unit))
    (hten : romanDigit? ten = some (10 * unit)) :
    AddUp unit (10 * unit) (romanPlace one five ten d) (unit * d) := by
  interval_cases d <;>
    refine ⟨_, by simp [romanPlace, hone, hfive, hten]; rfl, ?_, ?_⟩ <;>
    simp [romanSum] <;> omega

/-- A numeral counts its number. -/
theorem addUp_romanNumeral (n : Nat) : AddUp 1 1000 (romanNumeral n) n := by
  have hones : AddUp 1 10 (romanPlace 'i' 'v' 'x' (n % 10)) (1 * (n % 10 : Nat)) :=
    addUp_romanPlace (by decide) (Nat.mod_lt _ (by decide)) rfl rfl rfl
  have htens : AddUp 10 100 (romanPlace 'x' 'l' 'c' (n / 10 % 10)) (10 * (n / 10 % 10 : Nat)) :=
    addUp_romanPlace (by decide) (Nat.mod_lt _ (by decide)) rfl rfl rfl
  have hhundreds :
      AddUp 100 1000 (romanPlace 'c' 'd' 'm' (n / 100 % 10)) (100 * (n / 100 % 10 : Nat)) :=
    addUp_romanPlace (by decide) (Nat.mod_lt _ (by decide)) rfl rfl rfl
  have hall := (addUp_thousands (n / 1000)).append
    (hhundreds.append (htens.append hones (by decide) (by decide)) (by decide) (by decide))
    (by decide) le_rfl
  have hvalue : (1000 * (n / 1000 : Nat) + (100 * (n / 100 % 10 : Nat)
      + (10 * (n / 10 % 10 : Nat) + 1 * (n % 10 : Nat))) : Int) = n := by
    omega
  rw [hvalue] at hall
  exact hall

/-! ### Letters and their case -/

/-- The letters of numerals, in lower case. -/
def romanLetters : List Char := ['i', 'v', 'x', 'l', 'c', 'd', 'm']

theorem mem_romanPlace {one five ten c : Char} {d : Nat} (h : c ∈ romanPlace one five ten d) :
    c = one ∨ c = five ∨ c = ten := by
  unfold romanPlace at h
  split at h <;> simp at h <;> tauto

theorem mem_romanNumeral {n : Nat} {c : Char} (h : c ∈ romanNumeral n) : c ∈ romanLetters := by
  simp only [romanNumeral, List.mem_append] at h
  rcases h with h | h | h | h
  · rw [List.eq_of_mem_replicate h]
    decide
  all_goals
    rcases mem_romanPlace h with rfl | rfl | rfl <;> decide

theorem romanNumeral_ne_nil {n : Nat} (h : 0 < n) : romanNumeral n ≠ [] := by
  intro hnil
  obtain ⟨digits, hdigits, hsum, -⟩ := addUp_romanNumeral n
  rw [hnil] at hdigits
  cases hdigits
  change (0 : Int) = n at hsum
  omega

theorem case_romanLetters {c : Char} (h : c ∈ romanLetters) :
    (c.isLower = true ∧ c.isUpper = false ∧ c ≠ '#')
      ∧ c.toUpper.isUpper = true ∧ c.toUpper.isLower = false ∧ c.toUpper ≠ '#' := by
  have hall : romanLetters.all (fun c => decide ((c.isLower = true ∧ c.isUpper = false ∧ c ≠ '#')
      ∧ c.toUpper.isUpper = true ∧ c.toUpper.isLower = false ∧ c.toUpper ≠ '#')) = true := by
    decide
  exact of_decide_eq_true (List.all_eq_true.1 hall c h)

theorem mapM_romanDigit?_toUpper {text : Text} (h : ∀ c ∈ text, c ∈ romanLetters) :
    (text.map Char.toUpper).mapM romanDigit? = text.mapM romanDigit? := by
  have hsame : romanLetters.all (fun c => romanDigit? c.toUpper = romanDigit? c) = true := by
    decide
  refine Option.ext fun digits => ?_
  rw [mapM_eq_some_iff, mapM_eq_some_iff, List.map_map]
  rw [show text.map (romanDigit? ∘ Char.toUpper) = text.map romanDigit? from
    List.map_congr_left fun c hc => of_decide_eq_true (List.all_eq_true.1 hsame c (h c hc))]

/-! ### Ordinals -/

/-- A numeral of roman letters is an ordinal where the digits with their signs sum up to one. -/
theorem romanValue?_eq_some {raw : Text} {digits : List Nat}
    (h : raw.mapM romanDigit? = some digits) {v : Nat} : romanValue? raw = some v
      ↔ 1 ≤ v ∧ v ≤ maxOrdinal ∧ (signedDigits digits).sum = v := by
  rw [romanValue?, h, ← romanSum_eq_sum]
  dsimp only
  split
  · next hrange =>
    rw [Bool.and_eq_true, decide_eq_true_eq, decide_eq_true_eq] at hrange
    rw [Option.some.injEq]
    omega
  · next hrange =>
    rw [Bool.and_eq_true, decide_eq_true_eq, decide_eq_true_eq] at hrange
    simp only [reduceCtorEq, false_iff]
    omega

theorem mem_signedDigits {digits : List Nat} {x : Int} (h : x ∈ signedDigits digits) :
    ∃ d ∈ digits, x.natAbs = d := by
  induction digits with
  | nil => cases h
  | cons d digits ih =>
    rcases List.mem_cons.1 h with rfl | h
    · exact ⟨d, List.mem_cons_self, by split <;> simp⟩
    · obtain ⟨e, he, hx⟩ := ih h
      exact ⟨e, List.mem_cons_of_mem d he, hx⟩

theorem natAbs_sum_le {bound : Nat} {xs : List Int} (h : ∀ x ∈ xs, x.natAbs ≤ bound) :
    xs.sum.natAbs ≤ bound * xs.length := by
  induction xs with
  | nil => exact Nat.zero_le _
  | cons x xs ih =>
    obtain ⟨hx, hxs⟩ := List.forall_mem_cons.1 h
    rw [List.sum_cons, List.length_cons, Nat.mul_succ]
    have := ih hxs
    omega

theorem romanDigit?_le {c : Char} {d : Nat} (h : romanDigit? c = some d) : d ≤ 1000 := by
  unfold romanDigit? at h
  split at h <;> cases h <;> decide

/-- After each letter the running total is within a thousand for each letter read. -/
theorem natAbs_sum_take_le {raw : Text} {digits : List Nat} (h : raw.mapM romanDigit? = some digits)
    (k : Nat) : ((signedDigits digits).take k).sum.natAbs ≤ 1000 * k := by
  have hdigits : ∀ d ∈ digits, d ≤ 1000 := fun d hd => by
    have hmem : some d ∈ raw.map romanDigit? := mapM_eq_some_iff.1 h ▸ List.mem_map_of_mem hd
    obtain ⟨c, -, hc⟩ := List.mem_map.1 hmem
    exact romanDigit?_le hc
  have hbound : ((signedDigits digits).take k).sum.natAbs
      ≤ 1000 * ((signedDigits digits).take k).length := natAbs_sum_le fun x hx => by
    obtain ⟨d, hd, hx⟩ := mem_signedDigits (List.mem_of_mem_take hx)
    exact hx ▸ hdigits d hd
  have hlength := List.length_take_le k (signedDigits digits)
  omega

theorem AddUp.romanValue?_eq {low high n : Nat} {raw : Text} (h : AddUp low high raw n)
    (hpos : 1 ≤ n) (hmax : n ≤ maxOrdinal) : romanValue? raw = some n := by
  obtain ⟨digits, hdigits, hsum, -⟩ := h
  exact (romanValue?_eq_some hdigits).2 ⟨hpos, hmax, romanSum_eq_sum digits ▸ hsum⟩

/-- Letters of the other case are no ordinal. -/
theorem Numbering.ordinal?_eq_none {numbering : Numbering} {inCase : Char → Bool} {raw : Text}
    (hnumbering : ∀ raw, numbering.value? raw = if raw.all inCase then romanValue? raw else none)
    (hne : raw ≠ []) (hcase : ∀ c ∈ raw, inCase c = false) (hsign : '#' ∉ raw) :
    numbering.ordinal? raw = none := by
  obtain ⟨c, cs, rfl⟩ := List.exists_cons_of_ne_nil hne
  have hc := hcase c List.mem_cons_self
  rw [Numbering.ordinal?, if_neg, hnumbering, List.all_cons, hc, Bool.false_and,
    if_neg (by decide), Option.map_none]
  rintro heq
  exact hsign (heq ▸ List.mem_cons_self)

/-- Letters of the same case are the ordinal that they count. -/
theorem Numbering.ordinal?_eq_value {numbering : Numbering} {inCase : Char → Bool} {raw : Text}
    {low high n : Nat}
    (hnumbering : ∀ raw, numbering.value? raw = if raw.all inCase then romanValue? raw else none)
    (hcase : ∀ c ∈ raw, inCase c = true) (h : AddUp low high raw n) (hpos : 1 ≤ n)
    (hmax : n ≤ maxOrdinal) : numbering.ordinal? raw = some (some n) := by
  refine Numbering.ordinal?_eq_some.2 (.inr ⟨n, ?_, rfl⟩)
  rw [hnumbering, if_pos (List.all_eq_true.2 hcase), h.romanValue?_eq hpos hmax]

/-- The canonical numeral of every ordinal is read as that ordinal in the roman numbering of its
case, and as none in the other. Any roman letters are the sum of their digits with signs, where that
lies within the bounds; a running total stays within a thousand for each letter. -/
theorem Numbering.ordinal?_romanNumeral :
    (∀ n, 1 ≤ n → n ≤ maxOrdinal →
      Numbering.lowerRoman.ordinal? (romanNumeral n) = some (some n)
        ∧ Numbering.upperRoman.ordinal? (romanNumeral n) = none
        ∧ Numbering.upperRoman.ordinal? ((romanNumeral n).map Char.toUpper) = some (some n)
        ∧ Numbering.lowerRoman.ordinal? ((romanNumeral n).map Char.toUpper) = none)
    ∧ ∀ raw digits, raw.mapM romanDigit? = some digits →
      (∀ k, ((signedDigits digits).take k).sum.natAbs ≤ 1000 * k)
        ∧ ∀ v : Nat, romanValue? raw = some v
          ↔ 1 ≤ v ∧ v ≤ maxOrdinal ∧ (signedDigits digits).sum = v := by
  refine ⟨fun n hpos hmax => ?_, fun raw digits h =>
    ⟨natAbs_sum_take_le h, fun v => romanValue?_eq_some h⟩⟩
  have hlower : ∀ c ∈ romanNumeral n, c.isLower = true ∧ c.isUpper = false ∧ c ≠ '#' :=
    fun c hc => (case_romanLetters (mem_romanNumeral hc)).1
  have hupper : ∀ c ∈ (romanNumeral n).map Char.toUpper,
      c.isUpper = true ∧ c.isLower = false ∧ c ≠ '#' := by
    intro c hc
    obtain ⟨letter, hletter, rfl⟩ := List.mem_map.1 hc
    exact (case_romanLetters (mem_romanNumeral hletter)).2
  have hne := romanNumeral_ne_nil hpos
  have hadd := addUp_romanNumeral n
  have haddUpper : AddUp 1 1000 ((romanNumeral n).map Char.toUpper) n := by
    rw [AddUp, mapM_romanDigit?_toUpper fun c hc => mem_romanNumeral hc]
    exact hadd
  refine ⟨?_, ?_, ?_, ?_⟩
  · exact ordinal?_eq_value (fun _ => rfl) (fun c hc => (hlower c hc).1) hadd hpos hmax
  · exact ordinal?_eq_none (fun _ => rfl) hne (fun c hc => (hlower c hc).2.1)
      fun hmem => (hlower _ hmem).2.2 rfl
  · exact ordinal?_eq_value (fun _ => rfl) (fun c hc => (hupper c hc).1) haddUpper hpos hmax
  · exact ordinal?_eq_none (fun _ => rfl) (by simpa using hne) (fun c hc => (hupper c hc).2.1)
      fun hmem => (hupper _ hmem).2.2 rfl

/-- A numeral with a letter to subtract in every place, and letters that are not canonical. -/
theorem Numbering.ordinal?_romanNumeral_subtracted :
    romanNumeral 3994 = "mmmcmxciv".toList
      ∧ Numbering.lowerRoman.ordinal? "mmmcmxciv".toList = some (some 3994)
      ∧ Numbering.lowerRoman.ordinal? "MMMCMXCIV".toList = none
      ∧ "iix".toList.mapM romanDigit? = some [1, 1, 10] ∧ romanValue? "iix".toList = some 10 := by
  have hnumeral : romanNumeral 3994 = "mmmcmxciv".toList := by decide
  have hupper : (romanNumeral 3994).map Char.toUpper = "MMMCMXCIV".toList := by decide
  obtain ⟨hlower, -, -, hother⟩ := Numbering.ordinal?_romanNumeral.1 3994 (by decide) (by decide)
  rw [hupper] at hother
  rw [hnumeral] at hlower
  exact ⟨hnumeral, hlower, hother, rfl,
    ((Numbering.ordinal?_romanNumeral.2 "iix".toList [1, 1, 10] rfl).2 10).2 (by decide)⟩

end Testbook.Markup
