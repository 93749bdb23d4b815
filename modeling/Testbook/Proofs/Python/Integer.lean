import Testbook.Proofs.Python.Numeral
import Mathlib.Data.Nat.Digits.Defs

/-!
Integer literals and what they are written as. A literal is digits in base ten, or in another base
behind a zero and the letter of the base, and one underscore may stand in front of a digit
(`IntegerLiteral`). It is written as its value in decimal as long as the value fits into 128 bits. A
literal in base ten is so at every size, as it consists of the digits of its value then
(`decimal_append`); one in another base stays as it is once its value is too great
(`writeInteger_literal`).
-/

namespace Testbook.Python

open Testbook.Text

/-- A digit of a base, in either case, and what it counts. -/
structure IsDigitOf (base : Nat) (c : Char) (d : Nat) : Prop where
  lt : d < base
  written : "0123456789abcdef".toList[d]? = some c ∨ "0123456789ABCDEF".toList[d]? = some c

/-- Digits of a base as they are written and what each of them counts; an underscore may stand in
front of a digit. -/
inductive Grouped (base : Nat) : Text → List Nat → Prop where
  | nil : Grouped base [] []
  | digit {c : Char} {d : Nat} {text : Text} {digits : List Nat}
      (h : IsDigitOf base c d) (rest : Grouped base text digits) :
      Grouped base (c :: text) (d :: digits)
  | underscore {c : Char} {d : Nat} {text : Text} {digits : List Nat}
      (h : IsDigitOf base c d) (rest : Grouped base text digits) :
      Grouped base ('_' :: c :: text) (d :: digits)

/-- The letters that stand behind a zero and name a base. -/
def baseLetters : List (Char × Nat) :=
  [('x', 16), ('X', 16), ('o', 8), ('O', 8), ('b', 2), ('B', 2)]

/-- An integer literal, its base and its digits. In base ten only zeros follow a zero. -/
inductive IntegerLiteral : Text → Nat → List Nat → Prop where
  | decimal {c : Char} {d : Nat} {text : Text} {digits : List Nat}
      (h : IsDigitOf 10 c d) (hpos : 0 < d) (rest : Grouped 10 text digits) :
      IntegerLiteral (c :: text) 10 (d :: digits)
  | zeros {text : Text} {digits : List Nat} (rest : Grouped 1 text digits) :
      IntegerLiteral ('0' :: text) 10 (0 :: digits)
  | based {letter : Char} {base : Nat} {text : Text} {digits : List Nat}
      (h : (letter, base) ∈ baseLetters) (hne : digits ≠ []) (rest : Grouped base text digits) :
      IntegerLiteral ('0' :: letter :: text) base digits

variable {base d n : Nat} {c : Char} {literal text : Text} {digits : List Nat}

/-! ### Digits -/

/-- The ways to write a digit. -/
def spellings (d : Nat) : List Char :=
  "0123456789abcdef".toList[d]?.toList ++ "0123456789ABCDEF".toList[d]?.toList

theorem IsDigitOf.mem_spellings (h : IsDigitOf base c d) : c ∈ spellings d := by
  rw [spellings, List.mem_append, Option.mem_toList, Option.mem_toList]
  exact h.written

theorem IsDigitOf.digitValue_eq (h : IsDigitOf base c d) (hbase : base ≤ 16) :
    isHexDigit c = true ∧ digitValue c = d := by
  have hall : ∀ d < 16, (spellings d).all
      (fun c => decide (isHexDigit c = true ∧ digitValue c = d)) = true := by
    decide
  exact forall_mem_of_all (hall d (Nat.lt_of_lt_of_le h.lt hbase)) c h.mem_spellings

theorem IsDigitOf.digitChar_eq (h : IsDigitOf 10 c d) : d.digitChar = c ∧ c.isDigit = true := by
  have hall : ∀ d < 10, (spellings d).all
      (fun c => decide (d.digitChar = c ∧ c.isDigit = true)) = true := by
    decide
  exact forall_mem_of_all (hall d h.lt) c h.mem_spellings

theorem IsDigitOf.ne (h : IsDigitOf base c d) (hbase : base ≤ 16) {other : Char}
    (hother : isHexDigit other = false) : c ≠ other := by
  rintro rfl
  rw [(h.digitValue_eq hbase).1] at hother
  cases hother

/-- Underscores are all that is written beside the digits. -/
theorem Grouped.plain (h : Grouped base text digits) (hbase : base ≤ 16) :
    List.Forall₂ (IsDigitOf base) (withoutUnderscores text) digits := by
  induction h with
  | nil => exact .nil
  | digit hd rest ih =>
    rw [withoutUnderscores_cons (hd.ne hbase rfl)]
    exact .cons hd ih
  | @underscore c d text digits hd rest ih =>
    change List.Forall₂ _ (withoutUnderscores (c :: text)) _
    rw [withoutUnderscores_cons (hd.ne hbase rfl)]
    exact .cons hd ih

theorem Grouped.mono {base' : Nat} (h : Grouped base text digits) (hbase : base ≤ base') :
    Grouped base' text digits := by
  induction h with
  | nil => exact .nil
  | digit hd rest ih => exact .digit ⟨Nat.lt_of_lt_of_le hd.lt hbase, hd.written⟩ ih
  | underscore hd rest ih => exact .underscore ⟨Nat.lt_of_lt_of_le hd.lt hbase, hd.written⟩ ih

/-! ### Values -/

/-- Reading on behind a number that was read. -/
theorem foldl_digits (h : List.Forall₂ (IsDigitOf base) text digits) (hbase : base ≤ 16) (n : Nat) :
    text.foldl (fun n c => n * base + digitValue c) n
      = n * base ^ digits.length + Nat.ofDigits base digits.reverse := by
  induction h generalizing n with
  | nil => simp
  | @cons c d text digits hd rest ih =>
    rw [List.foldl_cons, ih, (hd.digitValue_eq hbase).2, Nat.ofDigits_reverse_cons,
      List.length_cons, Nat.pow_succ]
    ring

theorem all_digits (h : List.Forall₂ (IsDigitOf base) text digits) (hbase : base ≤ 16) :
    text.all (fun c => isHexDigit c && digitValue c < base) = true := by
  induction h with
  | nil => rfl
  | cons hd rest ih =>
    obtain ⟨hhex, hvalue⟩ := hd.digitValue_eq hbase
    rw [List.all_cons, ih, hhex, hvalue, decide_eq_true hd.lt]
    rfl

theorem text_ne_nil (h : List.Forall₂ (IsDigitOf base) text digits) (hne : digits ≠ []) :
    text ≠ [] := by
  rintro rfl
  cases h
  exact hne rfl

theorem valueIn?_digits (h : List.Forall₂ (IsDigitOf base) text digits) (hbase : base ≤ 16)
    (hne : digits ≠ []) : valueIn? base text = some (Nat.ofDigits base digits.reverse) := by
  rw [valueIn?, all_digits h hbase, List.isEmpty_eq_false_iff.2 (text_ne_nil h hne), numeralValue,
    foldl_digits h hbase, Nat.zero_mul, Nat.zero_add]
  rfl

/-- Digits behind the decimal digits of a number are those of the number that is read on to. -/
theorem decimal_append (h : List.Forall₂ (IsDigitOf 10) text digits) (hn : 0 < n) :
    decimal n ++ text = decimal (text.foldl (fun n c => n * 10 + digitValue c) n) := by
  induction h generalizing n with
  | nil => rw [List.append_nil, List.foldl_nil]
  | @cons c d text digits hd rest ih =>
    have hlast : decimal n ++ [c] = decimal (n * 10 + d) := by
      rw [Nat.mul_comm, decimal, decimal, ← Nat.toDigits_append_toDigits (by decide) hn hd.lt,
        Nat.toDigits_of_lt_base hd.lt, hd.digitChar_eq.1]
    rw [List.append_cons, hlast, ih (by omega), List.foldl_cons, (hd.digitValue_eq (by decide)).2]

/-! ### Literals -/

/-- What there is to a literal without its underscores: its digits, with the mark of their base in
front. -/
structure IsNumeralOf (numeral : Text) (base : Nat) (digits : List Nat) : Prop where
  base_le : base ≤ 16
  ne_nil : digits ≠ []
  parts : ∃ front text, numeral = front ++ text ∧ integerBase numeral = (base, text)
    ∧ List.Forall₂ (IsDigitOf base) text digits

theorem isNumeralOf_digits (h : List.Forall₂ (IsDigitOf 10) text digits) (hne : digits ≠ []) :
    IsNumeralOf text 10 digits where
  base_le := by decide
  ne_nil := hne
  parts := by
    refine ⟨[], text, rfl, integerBase_digits ?_, h⟩
    clear hne
    induction h with
    | nil => rfl
    | cons hd rest ih => rw [List.all_cons, ih, hd.digitChar_eq.2, Bool.and_self]

theorem IntegerLiteral.isNumeralOf (h : IntegerLiteral literal base digits) :
    IsNumeralOf (withoutUnderscores literal) base digits := by
  cases h with
  | decimal hd hpos rest =>
    exact isNumeralOf_digits ((Grouped.digit hd rest).plain (by decide)) (List.cons_ne_nil _ _)
  | zeros rest =>
    have hzero : IsDigitOf 10 '0' 0 := ⟨by decide, .inl rfl⟩
    exact isNumeralOf_digits ((Grouped.digit hzero (rest.mono (by decide))).plain (by decide))
      (List.cons_ne_nil _ _)
  | @based letter _ text _ hletter hne rest =>
    have hbase : base ≤ 16 ∧ letter ≠ '_'
        ∧ ∀ text, integerBase ('0' :: letter :: text) = (base, text) := by
      simp only [baseLetters, List.mem_cons, List.not_mem_nil, or_false, Prod.mk.injEq] at hletter
      rcases hletter with
        ⟨rfl, rfl⟩ | ⟨rfl, rfl⟩ | ⟨rfl, rfl⟩ | ⟨rfl, rfl⟩ | ⟨rfl, rfl⟩ | ⟨rfl, rfl⟩ <;>
        exact ⟨by decide, by decide, fun _ => rfl⟩
    have hnumeral : withoutUnderscores ('0' :: letter :: text)
        = '0' :: letter :: withoutUnderscores text := by
      rw [withoutUnderscores_cons (by decide), withoutUnderscores_cons hbase.2.1]
    rw [hnumeral]
    exact ⟨hbase.1, hne, ['0', letter], _, rfl, hbase.2.2 _, rest.plain hbase.1⟩

theorem IsNumeralOf.isImaginary_eq (h : IsNumeralOf text base digits) :
    isImaginary text = false := by
  obtain ⟨front, back, rfl, -, hdigits⟩ := h.parts
  have hback := text_ne_nil hdigits h.ne_nil
  have hlast := List.all_eq_true.1 (all_digits hdigits h.base_le) _ (List.getLast_mem hback)
  have hne {other : Char} (hother : isHexDigit other = false) : back.getLast hback ≠ other := by
    rintro rfl
    rw [hother] at hlast
    cases hlast
  rw [isImaginary, List.getLast?_append, List.getLast?_eq_some_getLast hback, Option.some_or,
    Option.any_some, decide_eq_false (hne rfl), decide_eq_false (hne rfl)]
  rfl

theorem IsNumeralOf.writeInteger_eq (h : IsNumeralOf (withoutUnderscores literal) base digits) :
    writeInteger literal
      = if Nat.ofDigits base digits.reverse < 2 ^ 128 then
          decimal (Nat.ofDigits base digits.reverse)
        else withoutUnderscores literal := by
  obtain ⟨front, text, -, hbase, hdigits⟩ := h.parts
  have hmax (n : Nat) : n ≤ maxInteger ↔ n < 2 ^ 128 := by
    change n ≤ 2 ^ 128 - 1 ↔ _
    omega
  rw [writeInteger]
  dsimp only
  rw [h.isImaginary_eq, hbase]
  dsimp only
  rw [valueIn?_digits hdigits h.base_le h.ne_nil]
  simp only [hmax, Bool.false_eq_true, if_false]

/-- A literal in base ten that does not begin with a zero is the decimal numeral of its value. -/
theorem decimal_digits (h : List.Forall₂ (IsDigitOf 10) (c :: text) (d :: digits)) (hpos : 0 < d) :
    decimal (Nat.ofDigits 10 (d :: digits).reverse) = c :: text := by
  obtain ⟨hd, hrest⟩ := List.forall₂_cons.1 h
  have hfirst : decimal d = [c] := by
    rw [decimal, Nat.toDigits_of_lt_base hd.lt, hd.digitChar_eq.1]
  have hvalue := foldl_digits h (by decide) 0
  rw [List.foldl_cons, (hd.digitValue_eq (by decide)).2, Nat.zero_mul, Nat.zero_add, Nat.zero_mul,
    Nat.zero_add] at hvalue
  rw [← hvalue, ← decimal_append hrest hpos, hfirst]
  rfl

theorem ofDigits_zeros (h : Grouped 1 text digits) (base : Nat) :
    Nat.ofDigits base digits.reverse = 0 := by
  induction h with
  | nil => rfl
  | digit hd rest ih =>
    rw [Nat.ofDigits_reverse_cons, ih, Nat.lt_one_iff.1 hd.lt, Nat.mul_zero]
  | underscore hd rest ih =>
    rw [Nat.ofDigits_reverse_cons, ih, Nat.lt_one_iff.1 hd.lt, Nat.mul_zero]

/-- An integer literal in base ten is written as its value in decimal, and so is one in another base
whose value fits into 128 bits; others lose their underscores only. -/
theorem writeInteger_literal (h : IntegerLiteral literal base digits) :
    writeInteger literal
      = if base = 10 ∨ Nat.ofDigits base digits.reverse < 2 ^ 128 then
          decimal (Nat.ofDigits base digits.reverse)
        else withoutUnderscores literal := by
  rw [h.isNumeralOf.writeInteger_eq]
  by_cases hsmall : Nat.ofDigits base digits.reverse < 2 ^ 128
  · rw [if_pos hsmall, if_pos (.inr hsmall)]
  · rw [if_neg hsmall]
    cases h with
    | @decimal c d text digits hd hpos rest =>
      have hplain := (Grouped.digit hd rest).plain (by decide)
      rw [withoutUnderscores_cons (hd.ne (by decide) rfl)] at hplain
      rw [if_pos (.inl rfl), decimal_digits hplain hpos,
        withoutUnderscores_cons (hd.ne (by decide) rfl)]
    | zeros rest =>
      have hzero : IsDigitOf 1 '0' 0 := ⟨by decide, .inl rfl⟩
      rw [ofDigits_zeros (.digit hzero rest) 10] at hsmall
      exact absurd (Nat.two_pow_pos 128) hsmall
    | based hletter hne rest =>
      have hbase : base ≠ 10 :=
        (by decide : ∀ entry ∈ baseLetters, entry.2 ≠ 10) _ hletter
      rw [if_neg (not_or.2 ⟨hbase, hsmall⟩)]

/-- Letters in both cases, and an underscore behind the letter of the base. -/
theorem writeInteger_literal_grouped :
    IntegerLiteral "0x_dead_BEEF".toList 16 [13, 14, 10, 13, 11, 14, 14, 15]
      ∧ writeInteger "0x_dead_BEEF".toList = "3735928559".toList := by
  have hliteral : IntegerLiteral "0x_dead_BEEF".toList 16 [13, 14, 10, 13, 11, 14, 14, 15] :=
    .based (by decide) (by decide) <|
      .underscore ⟨by decide, .inl rfl⟩ <| .digit ⟨by decide, .inl rfl⟩ <|
      .digit ⟨by decide, .inl rfl⟩ <| .digit ⟨by decide, .inl rfl⟩ <|
      .underscore ⟨by decide, .inr rfl⟩ <| .digit ⟨by decide, .inr rfl⟩ <|
      .digit ⟨by decide, .inr rfl⟩ <| .digit ⟨by decide, .inr rfl⟩ .nil
  exact ⟨hliteral, (writeInteger_literal hliteral).trans (by decide +kernel)⟩

theorem grouped_replicate (h : 0 < base) (n : Nat) :
    Grouped base (List.replicate n '0') (List.replicate n 0) := by
  induction n with
  | zero => exact .nil
  | succ n ih => exact .digit ⟨h, .inl rfl⟩ ih

/-- The least literal in base sixteen that is not written in decimal. -/
theorem writeInteger_wide :
    IntegerLiteral ('0' :: 'x' :: '1' :: List.replicate 32 '0') 16 (1 :: List.replicate 32 0)
      ∧ writeInteger ('0' :: 'x' :: '1' :: List.replicate 32 '0')
        = '0' :: 'x' :: '1' :: List.replicate 32 '0'
      ∧ decimal (Nat.ofDigits 16 (1 :: List.replicate 32 0).reverse)
        = "340282366920938463463374607431768211456".toList := by
  refine ⟨.based (by decide) (by decide) (.digit ⟨by decide, .inl rfl⟩ ?_), ?_, ?_⟩
  · exact grouped_replicate (by decide) 32
  · decide +kernel
  · decide +kernel

end Testbook.Python
