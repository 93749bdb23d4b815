import Testbook.Proofs.Number.Shortest
import Testbook.Proofs.Python.Numeral

/-!
Float literals in normal form. A number with a point or an exponent is read in parts (`IsFloatText`),
also without its underscores (`IsFloatText.withoutUnderscores`). The shortest decimal of a number is
written in such parts, positionally or with an exponent, and they stand for this decimal
(`isWrittenFloat_writePositional`, `isWrittenFloat_writeScientific`). As it lies in the interval around
the number, a written float is read again with its value (`floatValue_writeFloatLiteral`).
-/

namespace Testbook.Python

open Testbook.Text Testbook.Number

variable {text rest digits whole point fraction exponent suffix : Text} {c : Char}

/-! ### Digits -/

theorem numeralValue_append (front back : Text) : numeralValue 10 (front ++ back)
    = numeralValue 10 front * 10 ^ back.length + numeralValue 10 back := by
  have hfold (n : Nat) : back.foldl (fun n c => n * 10 + digitValue c) n
      = n * 10 ^ back.length + numeralValue 10 back := by
    unfold numeralValue
    induction back generalizing n with
    | nil => simp
    | cons c cs ih =>
      rw [List.foldl_cons, List.foldl_cons, ih, ih (0 * 10 + digitValue c), List.length_cons, pow_succ]
      ring
  rw [numeralValue, List.foldl_append, hfold]
  rfl

theorem numeralValue_zeros (n : Nat) : numeralValue 10 (List.replicate n '0') = 0 := by
  induction n with
  | zero => rfl
  | succ n ih =>
    rw [List.replicate_succ, ← List.singleton_append, numeralValue_append, ih]
    simp [numeralValue, digitValue]

/-- Zeros in front of digits do not count. -/
theorem numeralValue_zeros_append (n : Nat) (digits : Text) :
    numeralValue 10 (List.replicate n '0' ++ digits) = numeralValue 10 digits := by
  rw [numeralValue_append, numeralValue_zeros, Nat.zero_mul, Nat.zero_add]

/-- Zeros behind digits multiply by ten. -/
theorem numeralValue_append_zeros (digits : Text) (n : Nat) :
    numeralValue 10 (digits ++ List.replicate n '0') = numeralValue 10 digits * 10 ^ n := by
  rw [numeralValue_append, numeralValue_zeros, List.length_replicate, Nat.add_zero]

/-- What the digits of a decimal are worth. -/
def digitsValue (d : Digits) : ℚ :=
  numeralValue 10 d.digits * 10 ^ (d.exponent + 1 - d.digits.length)

/-- Digits without the zeros at their end. -/
theorem exists_zeros (digits : Text) : ∃ n,
    digits = (digits.reverse.dropWhile (· = '0')).reverse ++ List.replicate n '0' := by
  refine ⟨(digits.reverse.takeWhile (· = '0')).length, ?_⟩
  have hzeros : digits.reverse.takeWhile (· = '0')
      = List.replicate (digits.reverse.takeWhile (· = '0')).length '0' :=
    List.eq_replicate_of_mem fun c hc =>
      of_decide_eq_true (List.mem_takeWhile_imp (p := fun c => decide (c = '0')) hc)
  calc digits = (digits.reverse.takeWhile (· = '0') ++ digits.reverse.dropWhile (· = '0')).reverse := by
        rw [List.takeWhile_append_dropWhile, List.reverse_reverse]
    _ = (digits.reverse.dropWhile (· = '0')).reverse ++ (digits.reverse.takeWhile (· = '0')).reverse :=
        List.reverse_append
    _ = _ := by
        congr 1
        conv_lhs => rw [hzeros, List.reverse_replicate]

theorem digitsValue_ofMultiple (t : Nat) (place : Int) :
    digitsValue (Digits.ofMultiple t place) = t * 10 ^ place := by
  obtain ⟨n, hdigits⟩ := exists_zeros (Nat.toDigits 10 t)
  rw [digitsValue, Digits.ofMultiple]
  dsimp only
  generalize ((Nat.toDigits 10 t).reverse.dropWhile (· = '0')).reverse = front at hdigits ⊢
  have hvalue : t = numeralValue 10 front * 10 ^ n := by
    conv_lhs => rw [← numeralValue_decimal t, decimal, hdigits, numeralValue_append, numeralValue_zeros,
      List.length_replicate, Nat.add_zero]
  have hplace : place + ((Nat.toDigits 10 t).length : Int) - 1 + 1 - front.length = n + place := by
    rw [hdigits, List.length_append, List.length_replicate]
    push_cast
    ring
  rw [hplace, zpow_add₀ (by norm_num), zpow_natCast, ← mul_assoc]
  conv_rhs => rw [hvalue]
  push_cast
  ring

/-- A decimal of digits, at least one. -/
structure IsDecimal (d : Digits) : Prop where
  ne_nil : d.digits ≠ []
  all_isDigit : d.digits.all Char.isDigit = true

theorem isDecimal_ofMultiple {t : Nat} (ht : 0 < t) (place : Int) : IsDecimal (Digits.ofMultiple t place) where
  ne_nil hnil := by
    have hvalue := digitsValue_ofMultiple t place
    rw [digitsValue, hnil] at hvalue
    have hpos : (0 : ℚ) < t * 10 ^ place := mul_pos (by exact_mod_cast ht) (ten_zpow_pos place)
    rw [← hvalue] at hpos
    simp [numeralValue] at hpos
  all_isDigit := List.all_eq_true.2 fun _ h => isDigit_of_mem_decimal
    (List.mem_reverse.1 ((List.dropWhile_sublist _).subset (List.mem_reverse.1 h)))

/-! ### Numbers with a point or an exponent -/

/-- An exponent: a letter, a sign or none, and digits. -/
structure IsExponent (text : Text) : Prop where
  parts : ∃ letter ∈ ['e', 'E'], ∃ sign ∈ [[], ['+'], ['-']], ∃ digits, digits ≠ []
    ∧ IsRun digits ∧ text = letter :: (sign ++ digits)

/-- The parts of a number with a point or an exponent, which may be imaginary. -/
structure IsFloatText (whole point fraction exponent suffix : Text) : Prop where
  whole_run : IsRun whole
  fraction_run : IsRun fraction
  point_cases : point = ['.'] ∨ point = [] ∧ fraction = []
  exponent_cases : exponent = [] ∨ IsExponent exponent
  suffix_mem : suffix ∈ [[], ['j'], ['J']]
  ne_integer : point ≠ [] ∨ exponent ≠ []

theorem IsExponent.head (h : IsExponent text) : ∃ letter ∈ ['e', 'E'], ∃ rest, text = letter :: rest := by
  obtain ⟨letter, hletter, sign, -, digits, -, -, rfl⟩ := h.parts
  exact ⟨letter, hletter, sign ++ digits, rfl⟩

theorem IsExponent.ne_nil (h : IsExponent text) : text ≠ [] := by
  obtain ⟨letter, -, rest, rfl⟩ := h.head
  exact List.cons_ne_nil _ _

theorem spanExponent_exponent (h : IsExponent exponent)
    (hsuffix : (suffix.head?.all fun c => !c.isDigit && c != '_') = true) :
    spanExponent (exponent ++ suffix) = (exponent, suffix) := by
  obtain ⟨letter, hletter, sign, hsign, digits, hne, hdigits, rfl⟩ := h.parts
  obtain ⟨d, ds, rfl, hd⟩ := exists_cons_of_isRun hdigits hne
  have hspan : spanLetter ['+', '-'] (sign ++ (d :: ds ++ suffix)) = (sign, d :: ds ++ suffix) := by
    simp only [List.mem_cons, List.not_mem_nil, or_false] at hsign
    rcases hsign with rfl | rfl | rfl
    · exact if_neg (by simp [ne_of_isDigit hd])
    · rfl
    · rfl
  have hspanLetter (cs : Text) : spanLetter ['e', 'E'] (letter :: cs) = ([letter], cs) := if_pos hletter
  rw [List.cons_append, List.append_assoc]
  simp only [spanExponent, hspanLetter, hspan, spanDecimal_run hdigits hsuffix]
  simp

namespace IsFloatText

/-- What stands behind the digits in front of the point. -/
theorem head_behind_whole (h : IsFloatText whole point fraction exponent suffix) :
    ((point ++ (fraction ++ (exponent ++ suffix))).head?.all fun c => !c.isDigit && c != '_') = true := by
  rcases h.point_cases with rfl | ⟨rfl, rfl⟩
  · rfl
  · have hexponent := h.exponent_cases.resolve_left (h.ne_integer.resolve_left fun hne => hne rfl)
    obtain ⟨letter, hletter, behind, rfl⟩ := hexponent.head
    exact (forall_mem_of_all (by decide) : ∀ c ∈ ['e', 'E'], (!c.isDigit && c != '_') = true) letter hletter

theorem head_behind_fraction (h : IsFloatText whole point fraction exponent suffix) :
    ((exponent ++ suffix).head?.all fun c => !c.isDigit && c != '_') = true := by
  rcases h.exponent_cases with rfl | hexponent
  · exact (by decide : ∀ s ∈ [[], ['j'], ['J']], (s.head?.all fun c => !c.isDigit && c != '_') = true)
      suffix h.suffix_mem
  · obtain ⟨letter, hletter, behind, rfl⟩ := hexponent.head
    exact (forall_mem_of_all (by decide) : ∀ c ∈ ['e', 'E'], (!c.isDigit && c != '_') = true) letter hletter

theorem spanExponent_eq (h : IsFloatText whole point fraction exponent suffix) :
    spanExponent (exponent ++ suffix) = (exponent, suffix) := by
  rcases h.exponent_cases with rfl | hexponent
  · exact (by decide : ∀ s ∈ [[], ['j'], ['J']], spanExponent s = ([], s)) suffix h.suffix_mem
  · exact spanExponent_exponent hexponent ((by decide : ∀ s ∈ [[], ['j'], ['J']],
      (s.head?.all fun c => !c.isDigit && c != '_') = true) suffix h.suffix_mem)

theorem readDecimal_eq (h : IsFloatText whole point fraction exponent suffix) :
    readDecimal (whole ++ (point ++ (fraction ++ (exponent ++ suffix))))
      = (.float (whole ++ (point ++ (fraction ++ (exponent ++ suffix)))), []) := by
  have hsuffix : spanLetter ['j', 'J'] suffix = (suffix, []) :=
    (by decide : ∀ s ∈ [[], ['j'], ['J']], spanLetter ['j', 'J'] s = (s, [])) suffix h.suffix_mem
  have hwhole := spanDecimal_run h.whole_run h.head_behind_whole
  have hfraction := spanDecimal_run h.fraction_run h.head_behind_fraction
  rcases h.point_cases with rfl | ⟨rfl, rfl⟩
  · have hpoint : spanLetter ['.'] ('.' :: (fraction ++ (exponent ++ suffix)))
        = (['.'], fraction ++ (exponent ++ suffix)) := rfl
    rw [List.singleton_append] at hwhole ⊢
    simp [readDecimal, hwhole, hpoint, hfraction, h.spanExponent_eq, hsuffix]
  · have hexponent := h.exponent_cases.resolve_left (h.ne_integer.resolve_left fun hne => hne rfl)
    have hpoint : spanLetter ['.'] (exponent ++ suffix) = ([], exponent ++ suffix) := by
      obtain ⟨letter, hletter, behind, rfl⟩ := hexponent.head
      refine if_neg ?_
      exact (forall_mem_of_all (by decide) : ∀ c ∈ ['e', 'E'], c ∉ ['.']) letter hletter
    rw [List.nil_append, List.nil_append] at hwhole ⊢
    simp [readDecimal, hwhole, hpoint, h.spanExponent_eq, hexponent.ne_nil, hsuffix]

theorem point_mem (h : IsFloatText whole point fraction exponent suffix) : point ∈ [[], ['.']] := by
  rcases h.point_cases with rfl | ⟨rfl, -⟩
  · decide
  · decide

/-- The characters of a number with a point or an exponent: none is the letter of a base. -/
theorem not_mem_bases (h : IsFloatText whole point fraction exponent suffix)
    (hc : c ∈ whole ++ (point ++ (fraction ++ (exponent ++ suffix)))) : c.toLower ∉ ['x', 'o', 'b'] := by
  have hdigit {digits : Text} (hdigits : IsRun digits) (hmem : c ∈ digits) : c.toLower ∉ ['x', 'o', 'b'] := by
    refine (forall_mem_of_all (by decide) : ∀ d ∈ ['0', '1', '2', '3', '4', '5', '6', '7', '8', '9', '_'],
      d.toLower ∉ ['x', 'o', 'b']) c ?_
    rcases isDigit_or_underscore_of_isRun hdigits hmem with h | rfl
    · exact List.mem_append_left ['_'] (mem_of_isDigit h)
    · decide
  have hother (hmem : c ∈ ['.', 'e', 'E', '+', '-', 'j', 'J']) : c.toLower ∉ ['x', 'o', 'b'] :=
    (forall_mem_of_all (by decide) : ∀ d ∈ ['.', 'e', 'E', '+', '-', 'j', 'J'],
      d.toLower ∉ ['x', 'o', 'b']) c hmem
  have hlist {lists : List Text} {text : Text} (htext : text ∈ lists)
      (hall : ∀ l ∈ lists, l ⊆ ['.', 'e', 'E', '+', '-', 'j', 'J']) (hmem : c ∈ text) :
      c.toLower ∉ ['x', 'o', 'b'] :=
    hother (hall text htext hmem)
  simp only [List.mem_append] at hc
  rcases hc with hc | hc | hc | hc | hc
  · exact hdigit h.whole_run hc
  · exact hlist h.point_mem (by decide) hc
  · exact hdigit h.fraction_run hc
  · rcases h.exponent_cases with rfl | hexponent
    · exact absurd hc List.not_mem_nil
    · obtain ⟨letter, hletter, sign, hsign, digits, -, hdigits, rfl⟩ := hexponent.parts
      rcases List.mem_cons.1 hc with rfl | hc
      · exact hother ((by decide : ['e', 'E'] ⊆ ['.', 'e', 'E', '+', '-', 'j', 'J']) hletter)
      · rcases List.mem_append.1 hc with hc | hc
        · exact hlist hsign (by decide) hc
        · exact hdigit hdigits hc
  · exact hlist h.suffix_mem (by decide) hc

theorem readNumber_eq (h : IsFloatText whole point fraction exponent suffix) :
    readNumber (whole ++ (point ++ (fraction ++ (exponent ++ suffix))))
      = (.float (whole ++ (point ++ (fraction ++ (exponent ++ suffix)))), []) := by
  rw [readNumber_eq_readDecimal fun letter rest htext => ?_, h.readDecimal_eq]
  exact spanBase_eq_nil (h.not_mem_bases (by rw [htext]; simp)) rest

end IsFloatText

/-! ### Float literals -/

/-- Whether a text is read as a float literal. -/
def isFloat (literal : Text) : Bool := beginsNumber literal && readNumber literal = (.float literal, [])

theorem isNumeral_of_isFloat (h : isFloat text = true) (hplain : '_' ∉ text) :
    IsNumeral text (.float text) := by
  rw [isFloat, Bool.and_eq_true, decide_eq_true_eq] at h
  exact ⟨h.1, h.2, hplain⟩

theorem IsFloatText.isFloat (h : IsFloatText whole point fraction exponent suffix)
    (hbegins : beginsNumber (whole ++ (point ++ (fraction ++ (exponent ++ suffix)))) = true) :
    isFloat (whole ++ (point ++ (fraction ++ (exponent ++ suffix)))) = true := by
  rw [Python.isFloat, hbegins, h.readNumber_eq, decide_eq_true rfl]
  rfl

/-- An exponent that is read is one. -/
theorem spanExponent_cases (text : Text) : (spanExponent text).1 = [] ∨ IsExponent (spanExponent text).1 := by
  rw [spanExponent]
  dsimp only
  split
  · exact .inl rfl
  · next hsome =>
    simp only [Bool.or_eq_true, List.isEmpty_iff, not_or] at hsome
    refine .inr ⟨?_⟩
    rcases spanLetter_cases ['e', 'E'] text with hnone | ⟨letter, hletter, behind, rfl, hspan⟩
    · exact absurd (congrArg Prod.fst hnone) hsome.1
    · rw [hspan] at hsome ⊢
      refine ⟨letter, hletter, (spanLetter ['+', '-'] behind).1, ?_, _, hsome.2, isRun_spanDecimal _, ?_⟩
      · rcases spanLetter_cases ['+', '-'] behind with hnone | ⟨c, hc, cs, -, hsome⟩
        · rw [hnone]
          exact List.mem_cons_self
        · rw [hsome]
          exact (forall_mem_of_all (by decide) : ∀ d ∈ ['+', '-'], [d] ∈ [[], ['+'], ['-']]) c hc
      · rw [List.singleton_append, List.cons_append]

theorem isFloatText_of_readDecimal (h : (readDecimal text).1 = .float rest) :
    ∃ whole point fraction exponent suffix, IsFloatText whole point fraction exponent suffix
      ∧ rest = whole ++ (point ++ (fraction ++ (exponent ++ suffix))) := by
  have hsuffix (behind : Text) : (spanLetter ['j', 'J'] behind).1 ∈ [[], ['j'], ['J']] := by
    rcases spanLetter_cases ['j', 'J'] behind with hnone | ⟨c, hc, cs, -, hspan⟩
    · rw [hnone]
      exact List.mem_cons_self
    · rw [hspan]
      exact (forall_mem_of_all (by decide) : ∀ d ∈ ['j', 'J'], [d] ∈ [[], ['j'], ['J']]) c hc
  rw [readDecimal] at h
  dsimp only at h
  rcases spanLetter_cases ['.'] (spanDecimal false text).2 with hpoint | ⟨c, hc, cs, -, hpoint⟩
  · -- without a point there is an exponent
    rw [hpoint] at h
    simp only [List.isEmpty_nil, if_true, Bool.true_and] at h
    split at h
    · cases h
    · next hne =>
      cases h
      have hne' : (spanExponent (spanDecimal false text).2).1 ≠ [] := by simpa using hne
      refine ⟨_, [], [], _, _, ⟨isRun_spanDecimal text, rfl, .inr ⟨rfl, rfl⟩,
        .inr ((spanExponent_cases _).resolve_left hne'), hsuffix (spanExponent (spanDecimal false text).2).2,
        .inr hne'⟩, ?_⟩
      rw [List.append_nil, List.append_nil, List.append_assoc]
      rfl
  · obtain rfl : c = '.' := List.mem_singleton.1 hc
    rw [hpoint] at h
    simp only [List.isEmpty_cons, Bool.false_eq_true, if_false, Bool.false_and] at h
    cases h
    refine ⟨_, ['.'], _, _, _, ⟨isRun_spanDecimal text, isRun_spanDecimal cs, .inl rfl,
      spanExponent_cases (spanDecimal false cs).2, hsuffix (spanExponent (spanDecimal false cs).2).2,
      .inl (List.cons_ne_nil _ _)⟩, ?_⟩
    simp only [List.append_assoc]

theorem readDecimal_of_readNumber (h : (readNumber text).1 = .float rest) :
    (readDecimal text).1 = .float rest := by
  unfold readNumber at h
  split at h
  · dsimp only at h
    split at h
    · exact h
    · cases h
  · exact h

/-- What is read as a float begins as numbers do. -/
theorem beginsNumber_of_readDecimal (hbegins : beginsNumber text = true)
    (h : (readDecimal text).1 = .float rest) :
    beginsNumber rest = true := by
  have hcases : (spanDecimal false text).1 ≠ [] ∨ ∃ d ds, text = '.' :: d :: ds ∧ d.isDigit = true := by
    match text, hbegins with
    | [d], hbegins =>
      have hd : d.isDigit = true := by simpa [beginsNumber] using hbegins
      exact .inl (by simp [spanDecimal, hd])
    | d :: x :: xs, hbegins =>
      rw [beginsNumber, Bool.or_eq_true, Bool.and_eq_true, decide_eq_true_eq] at hbegins
      rcases hbegins with hd | ⟨rfl, hx⟩
      · exact .inl (by simp [spanDecimal, hd])
      · exact .inr ⟨x, xs, rfl, hx⟩
  rw [readDecimal] at h
  dsimp only at h
  rcases hcases with hne | ⟨d, ds, rfl, hd⟩
  · split at h
    · split at h
      · cases h
      · cases h
        rw [List.append_assoc, List.append_assoc, List.append_assoc]
        exact beginsNumber_run (isRun_spanDecimal text) hne _
    · split at h
      · cases h
      · cases h
        rw [List.append_assoc, List.append_assoc, List.append_assoc]
        exact beginsNumber_run (isRun_spanDecimal text) hne _
  · have hwhole : spanDecimal false ('.' :: d :: ds) = ([], '.' :: d :: ds) := rfl
    have hpoint : spanLetter ['.'] ('.' :: d :: ds) = (['.'], d :: ds) := rfl
    have hfraction : (spanDecimal false (d :: ds)).1 = d :: (spanDecimal d.isDigit ds).1 := by
      rw [spanDecimal, hd]
      rfl
    rw [hwhole] at h
    dsimp only at h
    rw [hpoint] at h
    simp only [List.isEmpty_cons, Bool.false_eq_true, if_false, Bool.false_and, hfraction] at h
    cases h
    simp [beginsNumber, hd]

/-- What is read as a float is read as one, to its end. -/
theorem isFloat_of_readNumber (hbegins : beginsNumber text = true) (h : (readNumber text).1 = .float rest) :
    isFloat rest = true := by
  have hdecimal := readDecimal_of_readNumber h
  have hrest := beginsNumber_of_readDecimal hbegins hdecimal
  obtain ⟨whole, point, fraction, exponent, suffix, hparts, rfl⟩ := isFloatText_of_readDecimal hdecimal
  exact hparts.isFloat hrest

theorem IsExponent.withoutUnderscores (h : IsExponent text) : IsExponent (withoutUnderscores text) := by
  obtain ⟨letter, hletter, sign, hsign, digits, hne, hdigits, rfl⟩ := h.parts
  have hplain := withoutUnderscores_eq_self ((by decide : ∀ s ∈ [[], ['+'], ['-']], '_' ∉ s) sign hsign)
  have hunderscore : letter ≠ '_' := (forall_mem_of_all (by decide) : ∀ d ∈ ['e', 'E'], d ≠ '_') letter hletter
  refine ⟨letter, hletter, sign, hsign, _, withoutUnderscores_run_ne_nil hdigits hne,
    isRun_withoutUnderscores hdigits, ?_⟩
  rw [withoutUnderscores_cons hunderscore, withoutUnderscores_append, hplain]

/-- The parts of a float without their underscores are parts of one. -/
theorem IsFloatText.withoutUnderscores (h : IsFloatText whole point fraction exponent suffix) :
    IsFloatText (withoutUnderscores whole) point (withoutUnderscores fraction) (withoutUnderscores exponent)
      suffix
      ∧ Python.withoutUnderscores (whole ++ (point ++ (fraction ++ (exponent ++ suffix))))
        = Python.withoutUnderscores whole ++ (point ++ (Python.withoutUnderscores fraction
          ++ (Python.withoutUnderscores exponent ++ suffix))) := by
  constructor
  · refine ⟨isRun_withoutUnderscores h.whole_run, isRun_withoutUnderscores h.fraction_run, ?_, ?_,
      h.suffix_mem, ?_⟩
    · exact h.point_cases.imp id fun ⟨hpoint, hfraction⟩ => ⟨hpoint, by rw [hfraction]; rfl⟩
    · exact h.exponent_cases.imp (fun hnil => by rw [hnil]; rfl) IsExponent.withoutUnderscores
    · refine h.ne_integer.imp id fun hne => ?_
      exact (h.exponent_cases.resolve_left hne).withoutUnderscores.ne_nil
  · have hpoint := withoutUnderscores_eq_self ((by decide : ∀ s ∈ [[], ['.']], '_' ∉ s) point h.point_mem)
    have hsuffix := withoutUnderscores_eq_self
      ((by decide : ∀ s ∈ [[], ['j'], ['J']], '_' ∉ s) suffix h.suffix_mem)
    rw [withoutUnderscores_append, withoutUnderscores_append, withoutUnderscores_append,
      withoutUnderscores_append, hpoint, hsuffix]

theorem beginsNumber_withoutUnderscores (h : beginsNumber text = true) :
    beginsNumber (withoutUnderscores text) = true := by
  match text with
  | [] => exact h
  | [c] =>
    rw [beginsNumber, Bool.or_eq_true, Bool.and_eq_true] at h
    have hc : c.isDigit = true := h.resolve_right fun h => Bool.false_ne_true h.2
    rw [withoutUnderscores_cons (ne_of_isDigit hc rfl), beginsNumber, hc, Bool.true_or]
  | c :: d :: ds =>
    rw [beginsNumber, Bool.or_eq_true, Bool.and_eq_true, decide_eq_true_eq] at h
    rcases h with hc | ⟨rfl, hd⟩
    · rw [withoutUnderscores_cons (ne_of_isDigit hc rfl), beginsNumber, hc, Bool.true_or]
    · have hd' : d.isDigit = true := hd
      rw [withoutUnderscores_cons (by decide), withoutUnderscores_cons (ne_of_isDigit hd' rfl)]
      exact hd

/-- A float literal without its underscores is a numeral. -/
theorem isNumeral_withoutUnderscores_float (h : isFloat text = true) :
    IsNumeral (withoutUnderscores text) (.float (withoutUnderscores text)) := by
  rw [isFloat, Bool.and_eq_true, decide_eq_true_eq] at h
  obtain ⟨whole, point, fraction, exponent, suffix, hparts, rfl⟩ :=
    isFloatText_of_readDecimal (readDecimal_of_readNumber (congrArg Prod.fst h.2))
  obtain ⟨hwithout, htext⟩ := hparts.withoutUnderscores
  have hbegins := beginsNumber_withoutUnderscores h.1
  have hplain := underscore_not_mem (whole ++ (point ++ (fraction ++ (exponent ++ suffix))))
  rw [htext] at hbegins hplain ⊢
  exact isNumeral_of_isFloat (hwithout.isFloat hbegins) hplain

/-! ### Values -/

/-- The power of ten that an exponent stands for, with its letter. -/
def IsFloatText.power (exponent : Text) : Int :=
  match exponent.drop 1 with
  | '-' :: digits => -(numeralValue 10 digits : Int)
  | '+' :: digits => numeralValue 10 digits
  | digits => numeralValue 10 digits

theorem IsFloatText.ofNumeral_eq (h : IsFloatText whole point fraction exponent []) :
    Binary64.ofNumeral (whole ++ (point ++ (fraction ++ exponent)))
      = .ofDecimal (numeralValue 10 (whole ++ fraction)) (IsFloatText.power exponent - fraction.length) := by
  have hdigit {digits : Text} (hdigits : IsRun digits) :
      (digits.all fun c => c != 'e' && c != 'E') = true ∧ (digits.all (· != '.')) = true := by
    have hchar {c : Char} (hc : c ∈ digits) : (c != 'e' && c != 'E') = true ∧ (c != '.') = true := by
      refine (forall_mem_of_all (by decide) : ∀ d ∈ ['0', '1', '2', '3', '4', '5', '6', '7', '8', '9', '_'],
        (d != 'e' && d != 'E') = true ∧ (d != '.') = true) c ?_
      rcases isDigit_or_underscore_of_isRun hdigits hc with h | rfl
      · exact List.mem_append_left ['_'] (mem_of_isDigit h)
      · decide
    exact ⟨List.all_eq_true.2 fun c hc => (hchar hc).1, List.all_eq_true.2 fun c hc => (hchar hc).2⟩
  have hmantissa : (whole ++ (point ++ (fraction ++ exponent))).takeWhile
      (fun c => c != 'e' && c != 'E') = whole ++ (point ++ fraction) := by
    have hall : ((whole ++ (point ++ fraction)).all fun c => c != 'e' && c != 'E') = true := by
      have hpoint := (by decide : ∀ p ∈ [[], ['.']], (p.all fun c => c != 'e' && c != 'E') = true)
        point h.point_mem
      rw [List.all_append, List.all_append, (hdigit h.whole_run).1, hpoint, (hdigit h.fraction_run).1]
      rfl
    rw [← List.append_assoc point, ← List.append_assoc]
    rcases h.exponent_cases with rfl | hexponent
    · rw [List.append_nil, List.takeWhile_eq_self_iff]
      exact List.all_eq_true.1 hall
    · obtain ⟨letter, hletter, behind, rfl⟩ := hexponent.head
      refine takeWhile_delimited hall ?_ behind
      exact (forall_mem_of_all (by decide) : ∀ c ∈ ['e', 'E'], (c != 'e' && c != 'E') = false) letter hletter
  have hcut : (whole ++ (point ++ fraction)).takeWhile (· != '.') = whole
      ∧ ((whole ++ (point ++ fraction)).dropWhile (· != '.')).drop 1 = fraction := by
    have hwhole := (hdigit h.whole_run).2
    rcases h.point_cases with rfl | ⟨rfl, rfl⟩
    · rw [List.singleton_append, takeWhile_delimited hwhole rfl, dropWhile_delimited hwhole rfl]
      exact ⟨rfl, rfl⟩
    · rw [List.append_nil, List.append_nil, List.takeWhile_eq_self_iff.2 (List.all_eq_true.1 hwhole),
        List.dropWhile_eq_nil_iff.2 (List.all_eq_true.1 hwhole)]
      exact ⟨rfl, rfl⟩
  have hbehind : (whole ++ (point ++ (fraction ++ exponent))).drop
      ((whole ++ (point ++ fraction)).length + 1) = exponent.drop 1 := by
    have hassoc : whole ++ (point ++ (fraction ++ exponent)) = whole ++ (point ++ fraction) ++ exponent := by
      simp
    rw [hassoc, ← List.drop_drop, List.drop_left]
  rw [Binary64.ofNumeral, hmantissa, hcut.1, hcut.2, hbehind]
  rfl

/-! ### Decimals as they are written -/

variable {d : Digits}

theorem isDigit_replicate (n : Nat) : (List.replicate n '0').all Char.isDigit = true :=
  List.all_eq_true.2 fun c hc => by
    rw [List.eq_of_mem_replicate hc]
    rfl

theorem all_isDigit_of_subset (h : IsDecimal d) (hdigits : digits ⊆ d.digits) :
    digits.all Char.isDigit = true :=
  List.all_eq_true.2 fun _ hc => List.all_eq_true.1 h.all_isDigit _ (hdigits hc)

/-- A float numeral that is read as a decimal. -/
structure IsWrittenFloat (text : Text) (digits : Nat) (exponent : Int) : Prop where
  isNumeral : IsNumeral text (.float text)
  isReal : isImaginary text = false
  ofNumeral : Binary64.ofNumeral text = .ofDecimal digits exponent

theorem IsFloatText.isWrittenFloat (h : IsFloatText whole point fraction exponent []) (hne : whole ≠ [])
    (hdigits : (whole ++ fraction).all Char.isDigit = true) (hplain : '_' ∉ exponent)
    (hlast : (whole ++ (point ++ (fraction ++ exponent))).getLast?.any Char.isDigit = true) :
    IsWrittenFloat (whole ++ (point ++ (fraction ++ exponent))) (numeralValue 10 (whole ++ fraction))
      (IsFloatText.power exponent - fraction.length) where
  isNumeral := by
    have hfloat := h.isFloat (beginsNumber_run h.whole_run hne _)
    rw [List.append_nil] at hfloat
    refine isNumeral_of_isFloat hfloat fun hmem => ?_
    have hunderscore : '_' ∉ whole ++ fraction := fun hmem =>
      absurd (List.all_eq_true.1 hdigits _ hmem) (by decide)
    have hpoint := (by decide : ∀ s ∈ [[], ['.']], '_' ∉ s) point h.point_mem
    simp only [List.mem_append, not_or] at hmem hunderscore
    rcases hmem with hmem | hmem | hmem | hmem
    · exact hunderscore.1 hmem
    · exact hpoint hmem
    · exact hunderscore.2 hmem
    · exact hplain hmem
  isReal := by
    rw [isImaginary]
    obtain ⟨c, hc, hdigit⟩ := (Option.any_eq_true _ _).1 hlast
    rw [hc, Option.any_some, decide_eq_false (ne_of_isDigit hdigit rfl),
      decide_eq_false (ne_of_isDigit hdigit rfl)]
    rfl
  ofNumeral := h.ofNumeral_eq

theorem getLast?_digits (h : digits.all Char.isDigit = true) (hne : digits ≠ []) (front : Text) :
    (front ++ digits).getLast?.any Char.isDigit = true := by
  rw [List.getLast?_append, List.getLast?_eq_some_getLast hne, Option.some_or, Option.any_some]
  exact List.all_eq_true.1 h _ (List.getLast_mem hne)

theorem isWrittenFloat_writePositional (h : IsDecimal d) : ∃ digits exponent,
    IsWrittenFloat (writePositional d) digits exponent ∧ (digits : ℚ) * 10 ^ exponent = digitsValue d := by
  rw [writePositional]
  by_cases hsmall : d.exponent < 0
  · rw [if_pos hsmall]
    have hfraction : (List.replicate (-d.exponent - 1).toNat '0' ++ d.digits).all Char.isDigit = true := by
      rw [List.all_append, isDigit_replicate, h.all_isDigit]
      rfl
    have hparts : IsFloatText ['0'] ['.'] (List.replicate (-d.exponent - 1).toNat '0' ++ d.digits) [] [] :=
      ⟨rfl, isRun_digits hfraction, .inl rfl, .inl rfl, by decide, .inl (by decide)⟩
    have hwritten := hparts.isWrittenFloat (by decide) hfraction List.not_mem_nil (by
      rw [List.append_nil, ← List.append_assoc, ← List.append_assoc]
      exact getLast?_digits h.all_isDigit h.ne_nil _)
    rw [List.append_nil] at hwritten
    refine ⟨_, _, hwritten, ?_⟩
    have hvalue : numeralValue 10 (['0'] ++ (List.replicate (-d.exponent - 1).toNat '0' ++ d.digits))
        = numeralValue 10 d.digits := by
      rw [← List.replicate_one, numeralValue_zeros_append, numeralValue_zeros_append]
    have hplaces : IsFloatText.power [] - ((List.replicate (-d.exponent - 1).toNat '0' ++ d.digits).length : Int)
        = d.exponent + 1 - d.digits.length := by
      rw [List.length_append, List.length_replicate]
      change 0 - (((-d.exponent - 1).toNat + d.digits.length : Nat) : Int) = _
      omega
    rw [hvalue, hplaces, digitsValue]
  · rw [if_neg hsmall]
    obtain ⟨n, hn⟩ := Int.eq_ofNat_of_zero_le (not_lt.1 hsmall)
    rw [digitsValue, hn, Int.toNat_natCast]
    dsimp only
    have htake : (d.digits.take (n + 1)).all Char.isDigit = true :=
      all_isDigit_of_subset h (List.take_subset _ _)
    have hdrop : (d.digits.drop (n + 1)).all Char.isDigit = true :=
      all_isDigit_of_subset h (List.drop_subset _ _)
    have hne : d.digits.take (n + 1) ≠ [] := fun hnil => (List.take_eq_nil_iff.1 hnil).elim (by omega) h.ne_nil
    have hwhole : (d.digits.take (n + 1) ++ List.replicate (n + 1 - d.digits.length) '0').all Char.isDigit
        = true := by
      rw [List.all_append, htake, isDigit_replicate]
      rfl
    have hwritten {fraction : Text} (hfraction : fraction.all Char.isDigit = true)
        (hfractionNe : fraction ≠ []) :
        IsWrittenFloat (d.digits.take (n + 1) ++ List.replicate (n + 1 - d.digits.length) '0' ++ '.' :: fraction)
          (numeralValue 10 (d.digits.take (n + 1) ++ List.replicate (n + 1 - d.digits.length) '0' ++ fraction))
          (0 - fraction.length) := by
      have hparts : IsFloatText (d.digits.take (n + 1) ++ List.replicate (n + 1 - d.digits.length) '0') ['.']
          fraction [] [] :=
        ⟨isRun_digits hwhole, isRun_digits hfraction, .inl rfl, .inl rfl, by decide, .inl (by decide)⟩
      have hdigits : (d.digits.take (n + 1) ++ List.replicate (n + 1 - d.digits.length) '0' ++ fraction).all
          Char.isDigit = true := by
        rw [List.all_append, hwhole, hfraction]
        rfl
      have hwritten := hparts.isWrittenFloat (List.append_ne_nil_of_left_ne_nil hne _) hdigits
        List.not_mem_nil (by
        rw [List.append_nil, ← List.append_assoc]
        exact getLast?_digits hfraction hfractionNe _)
      rwa [List.append_nil] at hwritten
    by_cases hlength : d.digits.length ≤ n + 1
    · -- all digits stand in front of the point
      rw [List.drop_eq_nil_of_le hlength, List.isEmpty_nil, if_pos rfl]
      refine ⟨_, _, hwritten rfl (List.cons_ne_nil _ _), ?_⟩
      have hzeros : (['0'] : Text) = List.replicate 1 '0' := rfl
      obtain ⟨k, hk⟩ := Nat.exists_eq_add_of_le hlength
      rw [List.take_of_length_le hlength, hzeros, List.append_assoc, List.replicate_append_replicate,
        numeralValue_append_zeros, List.length_replicate, hk, Nat.add_sub_cancel_left, Nat.cast_mul,
        mul_assoc, Nat.cast_pow, Nat.cast_ofNat, ← zpow_natCast, ← zpow_add₀ (by norm_num)]
      congr 2
      push_cast
      omega
    · have hfractionNe : d.digits.drop (n + 1) ≠ [] := fun hnil => hlength (List.drop_eq_nil_iff.1 hnil)
      rw [List.isEmpty_eq_false_iff.2 hfractionNe, if_neg Bool.false_ne_true]
      refine ⟨_, _, hwritten hdrop hfractionNe, ?_⟩
      have hnone : n + 1 - d.digits.length = 0 := by omega
      rw [hnone, List.replicate_zero, List.append_nil, List.take_append_drop, List.length_drop]
      congr 2
      omega

theorem isWrittenFloat_writeScientific (h : IsDecimal d) : ∃ digits exponent,
    IsWrittenFloat (writeScientific d) digits exponent ∧ (digits : ℚ) * 10 ^ exponent = digitsValue d := by
  have htake : (d.digits.take 1).all Char.isDigit = true := all_isDigit_of_subset h (List.take_subset _ _)
  have hdrop : (d.digits.drop 1).all Char.isDigit = true := all_isDigit_of_subset h (List.drop_subset _ _)
  have hne : d.digits.take 1 ≠ [] := fun hnil => (List.take_eq_nil_iff.1 hnil).elim (by decide) h.ne_nil
  have hpower : (List.replicate (2 - (decimal d.exponent.natAbs).length) '0'
      ++ decimal d.exponent.natAbs).all Char.isDigit = true := by
    rw [List.all_append, isDigit_replicate, all_isDigit_decimal]
    rfl
  have hpowerNe :
      List.replicate (2 - (decimal d.exponent.natAbs).length) '0' ++ decimal d.exponent.natAbs ≠ [] :=
    List.append_ne_nil_of_right_ne_nil _ (decimal_ne_nil _)
  have hvalue : numeralValue 10 (List.replicate (2 - (decimal d.exponent.natAbs).length) '0'
      ++ decimal d.exponent.natAbs) = d.exponent.natAbs := by
    rw [numeralValue_zeros_append, numeralValue_decimal]
  rw [writeScientific, List.append_assoc _ (List.replicate _ '0')]
  generalize List.replicate (2 - (decimal d.exponent.natAbs).length) '0' ++ decimal d.exponent.natAbs = places
    at hpower hpowerNe hvalue
  have hexponent : IsExponent (['e', if d.exponent < 0 then '-' else '+'] ++ places) := by
    refine ⟨'e', by decide, [if d.exponent < 0 then '-' else '+'], ?_, places, hpowerNe,
      isRun_digits hpower, rfl⟩
    split <;> decide
  have hplain : '_' ∉ ['e', if d.exponent < 0 then '-' else '+'] ++ places := by
    rw [List.mem_append, not_or]
    refine ⟨?_, fun hmem => absurd (List.all_eq_true.1 hpower _ hmem) (by decide)⟩
    split <;> decide
  have hplaces : IsFloatText.power (['e', if d.exponent < 0 then '-' else '+'] ++ places) = d.exponent := by
    by_cases hneg : d.exponent < 0
    · rw [if_pos hneg]
      change -(numeralValue 10 places : Int) = _
      rw [hvalue]
      omega
    · rw [if_neg hneg]
      change (numeralValue 10 places : Int) = _
      rw [hvalue]
      omega
  have hlast (front : Text) : (front ++ (['e', if d.exponent < 0 then '-' else '+'] ++ places)).getLast?.any
      Char.isDigit = true := by
    rw [← List.append_assoc]
    exact getLast?_digits hpower hpowerNe _
  have hdigits : d.digits.take 1 ++ d.digits.drop 1 = d.digits := List.take_append_drop 1 _
  have hlength : 1 + (d.digits.drop 1).length = d.digits.length := by
    rw [List.length_drop]
    have := List.length_pos_iff.2 h.ne_nil
    omega
  rw [List.append_assoc _ ['e', _]]
  generalize ['e', if d.exponent < 0 then '-' else '+'] ++ places = exponent at hexponent hplain hplaces hlast ⊢
  have hwritten {point : Text} (hparts : IsFloatText (d.digits.take 1) point (d.digits.drop 1) exponent []) :
      ∃ digits exponent',
        IsWrittenFloat (d.digits.take 1 ++ (point ++ (d.digits.drop 1 ++ exponent))) digits exponent'
        ∧ (digits : ℚ) * 10 ^ exponent' = digitsValue d := by
    refine ⟨_, _, hparts.isWrittenFloat hne (hdigits.symm ▸ h.all_isDigit) hplain ?_, ?_⟩
    · rw [← List.append_assoc, ← List.append_assoc]
      exact hlast _
    · rw [hdigits, hplaces, digitsValue, ← hlength]
      congr 2
      push_cast
      ring
  cases hfraction : d.digits.drop 1 with
  | nil =>
    rw [hfraction] at hwritten
    have hparts : IsFloatText (d.digits.take 1) [] [] exponent [] :=
      ⟨isRun_digits htake, rfl, .inr ⟨rfl, rfl⟩, .inr hexponent, by decide, .inr hexponent.ne_nil⟩
    rw [List.isEmpty_nil, if_pos rfl, List.append_nil]
    exact hwritten hparts
  | cons c cs =>
    rw [hfraction] at hwritten hdrop
    have hparts : IsFloatText (d.digits.take 1) ['.'] (c :: cs) exponent [] :=
      ⟨isRun_digits htake, isRun_digits hdrop, .inl rfl, .inr hexponent, by decide, .inr hexponent.ne_nil⟩
    rw [List.isEmpty_cons, if_neg Bool.false_ne_true, List.append_assoc,
      ← List.singleton_append, List.append_assoc]
    exact hwritten hparts

/-- How a number that is not negative is written: with digits that are read as the number. -/
theorem isWrittenFloat_writeFloat {value : Binary64} (h : value.IsNatural) : ∃ digits exponent,
    IsWrittenFloat (writeFloat value) digits exponent ∧ Binary64.ofDecimal digits exponent = value := by
  match value with
  | .nan => exact h.elim
  | .infinite negative =>
    obtain rfl : negative = false := h
    have hparts : IsFloatText ['1'] [] [] ['e', '3', '0', '9'] [] :=
      ⟨rfl, rfl, .inr ⟨rfl, rfl⟩, .inr ⟨⟨'e', by decide, [], by decide, ['3', '0', '9'], by decide, rfl, rfl⟩⟩,
        by decide, .inr (by decide)⟩
    exact ⟨_, _, hparts.isWrittenFloat (by decide) rfl (by decide) rfl, by decide +kernel⟩
  | .finite negative m q =>
    obtain ⟨rfl, hnormal⟩ := h
    rw [writeFloat, if_neg Bool.false_ne_true, List.nil_append]
    rcases Nat.eq_zero_or_pos m with rfl | hm
    · have hparts : IsFloatText ['0'] ['.'] ['0'] [] [] :=
        ⟨rfl, rfl, .inl rfl, .inl rfl, by decide, .inl (by decide)⟩
      have hleast : q = Binary64.minExponent := hnormal.filled.resolve_left (by decide)
      rw [hleast]
      exact ⟨_, _, hparts.isWrittenFloat (by decide) rfl List.not_mem_nil rfl, by decide +kernel⟩
    · rw [if_neg hm.ne']
      obtain ⟨t, place, hshortest, hcontains⟩ := contains_shortestDigits hm hnormal
      have ht : 0 < t := by
        have hpos := hcontains.pos (Interval.low_pos hm q)
        exact_mod_cast (pos_iff_pos_of_mul_pos hpos).2 (ten_zpow_pos place)
      have hdecimal := isDecimal_ofMultiple ht place
      have hwritten : ∃ digits exponent, IsWrittenFloat
          (if -4 ≤ (shortestDigits m q).exponent && (shortestDigits m q).exponent < 16 then
            writePositional (shortestDigits m q) else writeScientific (shortestDigits m q)) digits exponent
          ∧ (digits : ℚ) * 10 ^ exponent = digitsValue (shortestDigits m q) := by
        rw [hshortest]
        split
        · exact isWrittenFloat_writePositional hdecimal
        · exact isWrittenFloat_writeScientific hdecimal
      obtain ⟨digits, exponent, hwritten, hvalue⟩ := hwritten
      refine ⟨digits, exponent, hwritten, ofDecimal_eq_of_contains hm hnormal ?_⟩
      rwa [hvalue, hshortest, digitsValue_ofMultiple]

/-! ### Normal forms -/

/-- How a float literal is written depends on its value only. -/
theorem writeFloatLiteral_eq (literal : Text) : writeFloatLiteral literal
    = match floatValue literal with
      | .float value => writeFloat value
      | _ => withoutUnderscores literal := by
  rw [writeFloatLiteral, floatValue]
  split <;> rfl

/-- What a float literal is written as: a number with its value, or the literal without its underscores. -/
theorem writeFloatLiteral_cases (literal : Text) :
    (∃ value : Binary64, value.IsNatural ∧ floatValue literal = .float value
        ∧ writeFloatLiteral literal = writeFloat value)
      ∨ writeFloatLiteral literal = withoutUnderscores literal := by
  rw [writeFloatLiteral, floatValue]
  split
  · exact .inr rfl
  · exact .inl ⟨_, isNatural_ofDecimal _ _, rfl, rfl⟩

/-- A float literal in normal form is a numeral. -/
theorem isNumeral_writeFloatLiteral (h : isFloat text = true) :
    IsNumeral (writeFloatLiteral text) (.float (writeFloatLiteral text)) := by
  rcases writeFloatLiteral_cases text with ⟨value, hnatural, -, hwritten⟩ | hplain
  · obtain ⟨digits, exponent, h, -⟩ := isWrittenFloat_writeFloat hnatural
    rw [hwritten]
    exact h.isNumeral
  · rw [hplain]
    exact isNumeral_withoutUnderscores_float h

/-- A float literal in normal form has the value of the literal. -/
theorem floatValue_writeFloatLiteral (literal : Text) :
    floatValue (writeFloatLiteral literal) = floatValue literal := by
  rcases writeFloatLiteral_cases literal with ⟨value, hnatural, hvalue, hwritten⟩ | hplain
  · obtain ⟨digits, exponent, h, hread⟩ := isWrittenFloat_writeFloat hnatural
    rw [hwritten, hvalue, floatValue, withoutUnderscores_eq_self h.isNumeral.plain, h.isReal,
      if_neg Bool.false_ne_true, h.ofNumeral, hread]
  · rw [hplain, floatValue, withoutUnderscores_eq_self (underscore_not_mem literal), ← floatValue]

theorem writeFloatLiteral_writeFloatLiteral (literal : Text) :
    writeFloatLiteral (writeFloatLiteral literal) = writeFloatLiteral literal := by
  rcases writeFloatLiteral_cases literal with ⟨value, -, hvalue, hwritten⟩ | hplain
  · rw [writeFloatLiteral_eq, floatValue_writeFloatLiteral, hvalue, hwritten]
  · have hself : withoutUnderscores (withoutUnderscores literal) = withoutUnderscores literal :=
      withoutUnderscores_eq_self (underscore_not_mem literal)
    rw [hplain, writeFloatLiteral, hself, ← writeFloatLiteral, hplain]

theorem isOperand_float (h : IsNumeral text (.float text)) : IsOperand text (.float text) :=
  h.isOperand rfl fun hnext => (Reads.peek hnext).bind ((Reads.take rfl).bind (Reads.pure _ _))

end Testbook.Python
