import Mathlib.Data.List.Basic
import Testbook.Proofs.Text.Decimal
import Testbook.Proofs.Python.Operand
import Testbook.Proofs.Python.Tree

/-!
Number literals in normal form. What reads a number passes over a delimiter as over the end of the
text, except that digits go on with a point (`readNumber_append`), so a numeral is an operand in front
of any delimiter else. The numeral that an integer literal is written as is one (`isNumeral_writeInteger`)
and stands for the same value (`integerValue_writeInteger`).
-/

namespace Testbook.Python

open Testbook.Text

variable {text rest digits suffix : Text} {c : Char} {cs : Text} {token : Token}

/-! ### Parts of a number in front of a delimiter -/

theorem isDigit_of_isDelimiter (h : isDelimiter c = true) : c.isDigit = false :=
  (forall_mem_of_all (by decide) : ∀ d ∈ delimiters, d.isDigit = false) c
    (isDelimiter_cases h)

theorem ne_of_isDelimiter {d : Char} (h : isDelimiter c = true) (hd : isDelimiter d = false) : c ≠ d := by
  rintro rfl
  rw [h] at hd
  exact absurd hd (by decide)

theorem spanDecimal_append (hc : isDelimiter c = true) (cs : Text) (behindDigit : Bool) (text : Text) :
    spanDecimal behindDigit (text ++ c :: cs)
      = ((spanDecimal behindDigit text).1, (spanDecimal behindDigit text).2 ++ c :: cs) := by
  have hunderscore : c ≠ '_' := ne_of_isDelimiter hc rfl
  induction text generalizing behindDigit with
  | nil => simp [spanDecimal, isDigit_of_isDelimiter hc, hunderscore]
  | cons d ds ih =>
    rw [List.cons_append, spanDecimal, spanDecimal]
    split
    · rw [ih]
    · rfl

theorem spanBased_append {isDigit : Char → Bool} (hc : isDigit c = false) (hunderscore : c ≠ '_')
    (cs text : Text) :
    spanBased isDigit (text ++ c :: cs)
      = ((spanBased isDigit text).1, (spanBased isDigit text).2 ++ c :: cs) := by
  induction text with
  | nil => simp [spanBased, hc, hunderscore]
  | cons d ds ih =>
    have hahead : (ds ++ c :: cs).head?.any isDigit = ds.head?.any isDigit := by
      cases ds with
      | nil => simp [hc]
      | cons _ _ => rfl
    rw [List.cons_append, spanBased, spanBased, hahead]
    split
    · rw [ih]
    · rfl

theorem spanBase_append (hc : isDelimiter c = true) (cs : Text) (letter : Char) (text : Text) :
    spanBase letter (text ++ c :: cs)
      = ((spanBase letter text).1, (spanBase letter text).2 ++ c :: cs) := by
  have hunderscore : c ≠ '_' := ne_of_isDelimiter hc rfl
  have hnone := (forall_mem_of_all (by decide) : ∀ d ∈ delimiters,
    isHexDigit d = false ∧ isOctalDigit d = false ∧ isBinaryDigit d = false) c (isDelimiter_cases hc)
  unfold spanBase
  split
  · exact spanBased_append hnone.1 hunderscore cs text
  · exact spanBased_append hnone.2.1 hunderscore cs text
  · exact spanBased_append hnone.2.2 hunderscore cs text
  · rfl

theorem spanLetter_append {letters : List Char} (hc : c ∉ letters) (cs text : Text) :
    spanLetter letters (text ++ c :: cs)
      = ((spanLetter letters text).1, (spanLetter letters text).2 ++ c :: cs) := by
  cases text with
  | nil => simp [spanLetter, hc]
  | cons d ds =>
    rw [List.cons_append, spanLetter, spanLetter]
    split <;> rfl

theorem not_mem_letters (letters : List Char) (hc : isDelimiter c = true)
    (hletters : letters.all (!isDelimiter ·) = true) : c ∉ letters := fun hmem => by
  have hnot := List.all_eq_true.1 hletters c hmem
  rw [hc] at hnot
  exact absurd hnot (by decide)

theorem spanExponent_append (hc : isDelimiter c = true) (cs text : Text) :
    spanExponent (text ++ c :: cs)
      = ((spanExponent text).1, (spanExponent text).2 ++ c :: cs) := by
  have hletter := not_mem_letters ['e', 'E'] hc rfl
  have hsign := not_mem_letters ['+', '-'] hc rfl
  simp only [spanExponent, spanLetter_append hletter, spanLetter_append hsign, spanDecimal_append hc]
  split <;> rfl

/-- A point goes on with digits only. -/
theorem readDecimal_append (hc : isDelimiter c = true)
    (hpoint : (spanDecimal false text).2 = [] → c ≠ '.') (cs : Text) :
    readDecimal (text ++ c :: cs) = ((readDecimal text).1, (readDecimal text).2 ++ c :: cs) := by
  have hlong := not_mem_letters ['l', 'L', 'j', 'J'] hc rfl
  have himaginary := not_mem_letters ['j', 'J'] hc rfl
  have hdot : spanLetter ['.'] ((spanDecimal false text).2 ++ c :: cs)
      = ((spanLetter ['.'] (spanDecimal false text).2).1,
          (spanLetter ['.'] (spanDecimal false text).2).2 ++ c :: cs) := by
    cases hrest : (spanDecimal false text).2 with
    | nil => simp [spanLetter, hpoint hrest]
    | cons d ds =>
      rw [List.cons_append, spanLetter, spanLetter]
      split <;> rfl
  simp only [readDecimal, spanDecimal_append hc, hdot]
  split <;> simp only [spanExponent_append hc, spanLetter_append hlong, spanLetter_append himaginary] <;>
    split <;> rfl

/-- Without the letter of a base and digits of that base behind a zero, a number is in base ten. -/
theorem readNumber_eq_readDecimal
    (h : ∀ letter rest, text = '0' :: letter :: rest → (spanBase letter rest).1 = []) :
    readNumber text = readDecimal text := by
  unfold readNumber
  split
  · next letter rest =>
    simp [h letter rest rfl]
  · rfl

theorem spanBase_eq_nil {letter : Char} (h : letter.toLower ∉ ['x', 'o', 'b']) (text : Text) :
    (spanBase letter text).1 = [] := by
  simp only [List.mem_cons, List.not_mem_nil, or_false, not_or] at h
  simp [spanBase, h]

/-- What reads a number stops at a delimiter as at the end of the text. -/
theorem readNumber_append (hc : isDelimiter c = true) (hpoint : (spanDecimal false text).2 = [] → c ≠ '.')
    (cs : Text) : readNumber (text ++ c :: cs) = ((readNumber text).1, (readNumber text).2 ++ c :: cs) := by
  have hlong := not_mem_letters ['l', 'L'] hc rfl
  have hzero : c ≠ '0' := ne_of_isDelimiter hc rfl
  have hbase : c.toLower ∉ ['x', 'o', 'b'] :=
    (forall_mem_of_all (by decide) : ∀ d ∈ delimiters,
      d.toLower ∉ ['x', 'o', 'b']) c (isDelimiter_cases hc)
  have hdecimal (hlast : ∀ letter rest, text ++ c :: cs = '0' :: letter :: rest →
      (spanBase letter rest).1 = []) (hfirst : ∀ letter rest, text = '0' :: letter :: rest →
      (spanBase letter rest).1 = []) :
      readNumber (text ++ c :: cs) = ((readNumber text).1, (readNumber text).2 ++ c :: cs) := by
    rw [readNumber_eq_readDecimal hlast, readNumber_eq_readDecimal hfirst, readDecimal_append hc hpoint]
  match text with
  | [] => exact hdecimal (fun _ _ h => absurd (List.cons.inj h).1 hzero) (by simp)
  | [d] =>
    refine hdecimal (fun letter rest h => ?_) (by simp)
    obtain ⟨rfl, -⟩ := List.cons.inj (List.cons.inj h).2
    exact spanBase_eq_nil hbase rest
  | d :: letter :: rest =>
    by_cases hd : d = '0'
    · cases hd
      cases hdigits : (spanBase letter rest).1 with
      | nil =>
        refine hdecimal (fun letter' rest' h => ?_) (fun letter' rest' h => ?_)
        · obtain ⟨rfl, rfl⟩ := List.cons.inj (List.cons.inj h).2
          exact (congrArg Prod.fst (spanBase_append hc cs letter rest)).trans hdigits
        · cases h
          exact hdigits
      | cons _ _ =>
        simp [readNumber, spanBase_append hc, hdigits, spanLetter_append hlong]
    · exact hdecimal (fun _ _ h => absurd (List.cons.inj h).1 hd)
        (fun _ _ h => absurd (List.cons.inj h).1 hd)

/-! ### Numerals as operands -/

/-- Whether a text begins with a digit, or with a point and a digit. -/
def beginsNumber : Text → Bool
  | c :: cs => c.isDigit || (c = '.' && cs.head?.any Char.isDigit)
  | [] => false

/-- That a text is a number, and which token it is: the reader of numbers takes all of it. -/
structure IsNumeral (text : Text) (token : Token) : Prop where
  begins : beginsNumber text = true
  read : readNumber text = (token, [])
  plain : '_' ∉ text

theorem exists_cons_of_beginsNumber (h : beginsNumber text = true) : ∃ d ds, text = d :: ds
    ∧ isSolid d = true ∧ ['*', '/', '=', 'n'].contains d = false ∧ isIdentifierStart d = false
    ∧ isStringLetter d = false ∧ isStringQuote d = false ∧ (d.isDigit = true ∨ d = '.') := by
  cases text with
  | nil => exact absurd h (by decide)
  | cons d ds =>
    rw [beginsNumber, Bool.or_eq_true, Bool.and_eq_true, decide_eq_true_eq] at h
    have hmem : d ∈ ['0', '1', '2', '3', '4', '5', '6', '7', '8', '9', '.'] := by
      rcases h with h | h
      · exact List.mem_append_left ['.'] (mem_of_isDigit h)
      · simp [h.1]
    have hchecks := (forall_mem_of_all (by decide) :
      ∀ x ∈ ['0', '1', '2', '3', '4', '5', '6', '7', '8', '9', '.'],
      isSolid x = true ∧ ['*', '/', '=', 'n'].contains x = false ∧ isIdentifierStart x = false
        ∧ isStringLetter x = false ∧ isStringQuote x = false) d hmem
    exact ⟨d, ds, rfl, hchecks.1, hchecks.2.1, hchecks.2.2.1, hchecks.2.2.2.1, hchecks.2.2.2.2,
      h.imp id And.left⟩

theorem beginsNumber_append (h : beginsNumber text = true) (rest : Text) :
    beginsNumber (text ++ rest) = true := by
  match text with
  | [] => exact absurd h (by decide)
  | [d] =>
    have hd : d.isDigit = true := by simpa [beginsNumber] using h
    simp [beginsNumber, hd]
  | d :: x :: xs => exact h

theorem readToken_of_beginsNumber (h : beginsNumber text = true) (walrus : Bool) :
    readToken walrus text = readNumber text := by
  obtain ⟨d, ds, rfl, -, -, hstart, -⟩ := exists_cons_of_beginsNumber h
  rw [beginsNumber] at h
  rw [readToken, hstart, if_neg Bool.false_ne_true, if_pos h]

/-- What the reader takes without underscores up to the end of the text, it takes for digits. -/
theorem all_isDigit_of_spanDecimal {behindDigit : Bool} (h : (spanDecimal behindDigit text).2 = [])
    (hplain : '_' ∉ text) : text.all Char.isDigit = true := by
  induction text generalizing behindDigit with
  | nil => rfl
  | cons c cs ih =>
    rw [List.mem_cons, not_or] at hplain
    rw [spanDecimal] at h
    split at h
    · next hc =>
      have hdigit : c.isDigit = true := by simpa [Ne.symm hplain.1] using hc
      rw [List.all_cons, hdigit, Bool.true_and]
      exact ih h hplain.2
    · exact absurd h (List.cons_ne_nil _ _)

theorem IsNumeral.isLexeme (h : IsNumeral text token) (hc : isDelimiter c = true)
    (hpoint : text.all Char.isDigit = true → c ≠ '.') (cs : Text) : IsLexeme text token (c :: cs) := by
  obtain ⟨d, ds, hcons, hsolid, -, -, hletter, hquote, -⟩ := exists_cons_of_beginsNumber h.begins
  refine ⟨⟨d, ds ++ c :: cs, by rw [hcons, List.cons_append], hsolid⟩, fun walrus => ?_, ?_⟩
  · rw [readToken_of_beginsNumber (beginsNumber_append h.begins _),
      readNumber_append hc (fun hspan => hpoint (all_isDigit_of_spanDecimal hspan h.plain)), h.read]
    rfl
  · have hnil : ∀ x ∈ ([] : Text), isStringQuote x = false := fun x hx => absurd hx List.not_mem_nil
    rw [hcons]
    exact readOpening_eq_none hnil hletter hquote _

/-- A numeral begins an operand whatever delimiter stands behind it, if only as a longer number. -/
theorem IsNumeral.begins_operand (h : IsNumeral text token) : Begins text := by
  obtain ⟨d, ds, hcons, hsolid, hother, -, hletter, hquote, -⟩ := exists_cons_of_beginsNumber h.begins
  refine .other (by rw [hcons]; simpa [hsolid] using hother) fun e gap rest _ hgap _ => ?_
  have hnil : ∀ x ∈ ([] : Text), isStringQuote x = false := fun x hx => absurd hx List.not_mem_nil
  have hnext := next_solid (e := e) hgap hsolid
    fun _ => readOpening_eq_none hnil hletter hquote (ds ++ rest)
  rw [← List.cons_append, ← hcons,
    readToken_of_beginsNumber (beginsNumber_append h.begins rest)] at hnext
  refine ⟨_, _, _, hnext, ?_⟩
  rcases readNumber_cases (text ++ rest) with ⟨t, ht⟩ | ⟨t, ht⟩ <;> rw [ht] <;>
    exact ⟨rfl, by simp⟩

theorem IsNumeral.isOperand (h : IsNumeral text token) {e : Expr} (hsolid : isGap e = false)
    (hatom : ∀ {g : Grammar} {clauses : Reader (List Expr)} {opening after : Expect} {gap rest : Text},
      next opening.orOperand (.plain (gap ++ (text ++ rest))) = ⟨[], token, text ++ rest, .plain rest⟩ →
      Reads (readAtom g clauses opening after) (gap ++ (text ++ rest)) e rest) : IsOperand text e := by
  refine .of_atom h.begins_operand hsolid fun hgap _ _ hfollows _ hdigits => hatom ?_
  obtain ⟨c, cs, rfl, hc⟩ := hfollows.delimited
  exact (h.isLexeme hc (fun hall hpoint => hdigits hall (hfollows.point (congrArg some hpoint)))
    cs).next _ hgap

/-! ### Integers -/

/-- Whether a text is an integer literal. -/
def isInteger (literal : Text) : Bool :=
  beginsNumber literal && readNumber literal = (.integer literal, [])

theorem isOperand_integer (h : IsNumeral text (.integer text)) : IsOperand text (.integer text) :=
  h.isOperand rfl fun hnext => (Reads.peek hnext).bind ((Reads.take rfl).bind (Reads.pure _ _))

theorem underscore_not_mem (text : Text) : '_' ∉ withoutUnderscores text := by
  simp [withoutUnderscores]

theorem withoutUnderscores_eq_self (h : '_' ∉ text) : withoutUnderscores text = text :=
  List.filter_eq_self.2 fun _ hc => bne_iff_ne.2 fun heq => h (heq ▸ hc)

theorem withoutUnderscores_append (front back : Text) :
    withoutUnderscores (front ++ back) = withoutUnderscores front ++ withoutUnderscores back :=
  List.filter_append ..

theorem withoutUnderscores_cons (hc : c ≠ '_') (cs : Text) :
    withoutUnderscores (c :: cs) = c :: withoutUnderscores cs :=
  List.filter_cons_of_pos (by simpa using hc)

/-- What is read as decimal digits is digits, apart from underscores. -/
theorem all_isDigit_spanDecimal (behindDigit : Bool) (text : Text) :
    (withoutUnderscores (spanDecimal behindDigit text).1).all Char.isDigit = true := by
  induction text generalizing behindDigit with
  | nil => rfl
  | cons c cs ih =>
    rw [spanDecimal]
    split
    · next hc =>
      by_cases hunderscore : c = '_'
      · rw [hunderscore]
        exact ih _
      · have hdigit : c.isDigit = true := by simpa [hunderscore] using hc
        dsimp only
        rw [withoutUnderscores_cons hunderscore, List.all_cons, hdigit, ih]
        rfl
    · rfl

/-- Decimal digits as they are read, with underscores behind some of them. -/
def IsRun (digits : Text) : Prop := spanDecimal false digits = (digits, [])

theorem isRun_spanDecimal (text : Text) : IsRun (spanDecimal false text).1 := by
  have hspan (behindDigit : Bool) : spanDecimal behindDigit (spanDecimal behindDigit text).1
      = ((spanDecimal behindDigit text).1, []) := by
    induction text generalizing behindDigit with
    | nil => rfl
    | cons c cs ih =>
      by_cases hc : (c.isDigit || (behindDigit && c = '_')) = true
      · simp only [spanDecimal, if_pos hc, ih]
      · simp only [spanDecimal, if_neg hc]
  exact hspan false

theorem isRun_digits (h : digits.all Char.isDigit = true) : IsRun digits := by
  have hspan (behindDigit : Bool) : spanDecimal behindDigit digits = (digits, []) := by
    induction digits generalizing behindDigit with
    | nil => rfl
    | cons c cs ih =>
      rw [List.all_cons, Bool.and_eq_true] at h
      rw [spanDecimal, h.1, ih h.2]
      rfl
  exact hspan false

theorem spanDecimal_run (h : IsRun digits)
    (hsuffix : (suffix.head?.all fun c => !c.isDigit && c != '_') = true) :
    spanDecimal false (digits ++ suffix) = (digits, suffix) := by
  unfold IsRun at h
  generalize false = behindDigit at h ⊢
  induction digits generalizing behindDigit with
  | nil =>
    cases suffix with
    | nil => rfl
    | cons c cs =>
      have hc : c.isDigit = false ∧ c ≠ '_' := by simpa using hsuffix
      simp [spanDecimal, hc]
  | cons c cs ih =>
    rw [spanDecimal] at h
    rw [List.cons_append, spanDecimal]
    split at h
    · next hc =>
      have hcs : spanDecimal c.isDigit cs = (cs, []) := by simpa [Prod.ext_iff] using h
      rw [if_pos hc, ih _ hcs]
    · exact absurd (congrArg Prod.snd h) (List.cons_ne_nil _ _)

/-- A run of digits without its underscores is one. -/
theorem isRun_withoutUnderscores (h : IsRun digits) : IsRun (withoutUnderscores digits) := by
  have hdigits := all_isDigit_spanDecimal false digits
  rw [h] at hdigits
  exact isRun_digits hdigits

/-- A run of digits begins with one. -/
theorem exists_cons_of_isRun (h : IsRun digits) (hne : digits ≠ []) :
    ∃ d ds, digits = d :: ds ∧ d.isDigit = true := by
  obtain ⟨d, ds, rfl⟩ := List.exists_cons_of_ne_nil hne
  rw [IsRun, spanDecimal, Bool.false_and, Bool.or_false] at h
  split at h
  · next hd => exact ⟨d, ds, rfl, hd⟩
  · exact absurd (congrArg Prod.snd h) (List.cons_ne_nil _ _)

theorem withoutUnderscores_run_ne_nil (h : IsRun digits) (hne : digits ≠ []) :
    withoutUnderscores digits ≠ [] := by
  obtain ⟨d, ds, rfl, hd⟩ := exists_cons_of_isRun h hne
  rw [withoutUnderscores_cons (ne_of_isDigit hd rfl)]
  exact List.cons_ne_nil _ _

theorem beginsNumber_run (h : IsRun digits) (hne : digits ≠ []) (rest : Text) :
    beginsNumber (digits ++ rest) = true := by
  obtain ⟨d, ds, rfl, hd⟩ := exists_cons_of_isRun h hne
  rw [List.cons_append, beginsNumber, hd, Bool.true_or]

/-- The characters of a run of digits. -/
theorem isDigit_or_underscore_of_isRun (h : IsRun digits) (hc : c ∈ digits) : c.isDigit = true ∨ c = '_' := by
  have hdigits := all_isDigit_spanDecimal false digits
  rw [h] at hdigits
  by_cases hunderscore : c = '_'
  · exact .inr hunderscore
  · have hmem : c ∈ withoutUnderscores digits := List.mem_filter.2 ⟨hc, bne_iff_ne.2 hunderscore⟩
    exact .inl (List.all_eq_true.1 hdigits c hmem)

/-! ### Digits of a base -/

/-- Digits of a base as they are read, with underscores in front of some of them. -/
def IsBasedRun (isDigit : Char → Bool) (digits : Text) : Prop := spanBased isDigit digits = (digits, [])

/-- What begins with a digit is read up to there at least. -/
theorem any_head?_spanBased {isDigit : Char → Bool} (h : text.head?.any isDigit = true) :
    (spanBased isDigit text).1.head?.any isDigit = true := by
  cases text with
  | nil => exact h
  | cons c cs =>
    have hc : isDigit c = true := h
    rw [spanBased, hc, Bool.true_or, if_pos rfl]
    exact hc

theorem isBasedRun_spanBased (isDigit : Char → Bool) (text : Text) :
    IsBasedRun isDigit (spanBased isDigit text).1 := by
  induction text with
  | nil => rfl
  | cons c cs ih =>
    by_cases hc : (isDigit c || (c = '_' && cs.head?.any isDigit)) = true
    · have hc' : (isDigit c || (c = '_' && (spanBased isDigit cs).1.head?.any isDigit)) = true := by
        rcases Bool.or_eq_true_iff.1 hc with hdigit | hunderscore
        · rw [hdigit, Bool.true_or]
        · obtain ⟨heq, hnext⟩ := Bool.and_eq_true_iff.1 hunderscore
          rw [heq, any_head?_spanBased hnext, Bool.and_true, Bool.or_true]
      rw [IsBasedRun, spanBased, if_pos hc]
      dsimp only
      rw [spanBased, if_pos hc', ih]
    · rw [IsBasedRun, spanBased, if_neg hc]
      rfl

theorem isBasedRun_digits {isDigit : Char → Bool} (h : digits.all isDigit = true) :
    IsBasedRun isDigit digits := by
  induction digits with
  | nil => rfl
  | cons c cs ih =>
    rw [List.all_cons, Bool.and_eq_true] at h
    rw [IsBasedRun, spanBased, h.1, ih h.2]
    rfl

theorem spanBased_run {isDigit : Char → Bool} (h : IsBasedRun isDigit digits)
    (hsuffix : (suffix.head?.all fun c => !isDigit c && c != '_') = true) :
    spanBased isDigit (digits ++ suffix) = (digits, suffix) := by
  induction digits with
  | nil =>
    cases suffix with
    | nil => rfl
    | cons c cs =>
      have hc : isDigit c = false ∧ c ≠ '_' := by simpa using hsuffix
      simp [spanBased, hc]
  | cons c cs ih =>
    rw [IsBasedRun, spanBased] at h
    rw [List.cons_append, spanBased]
    split at h
    · next hc =>
      have hcs : IsBasedRun isDigit cs := by simpa [IsBasedRun, Prod.ext_iff] using h
      have hc' : (isDigit c || (c = '_' && (cs ++ suffix).head?.any isDigit)) = true := by
        cases cs with
        | nil => simpa using .inl (by simpa using hc)
        | cons d ds => exact hc
      rw [if_pos hc', ih hcs]
    · exact absurd (congrArg Prod.snd h) (List.cons_ne_nil _ _)

/-- What is read as digits of a base is digits of it, apart from underscores, and at least one. -/
theorem all_isDigit_spanBased {isDigit : Char → Bool} (hunderscore : isDigit '_' = false) (text : Text) :
    (withoutUnderscores (spanBased isDigit text).1).all isDigit = true
      ∧ ((spanBased isDigit text).1 ≠ [] → withoutUnderscores (spanBased isDigit text).1 ≠ []) := by
  induction text with
  | nil => exact ⟨rfl, id⟩
  | cons c cs ih =>
    rw [spanBased]
    split
    · next hc =>
      by_cases hc' : c = '_'
      · refine ⟨by rw [hc']; exact ih.1, fun _ => ?_⟩
        -- a digit stands behind the underscore
        have hnext : cs.head?.any isDigit = true := by simpa [hc', hunderscore] using hc
        have hne : (spanBased isDigit cs).1 ≠ [] := by
          cases cs with
          | nil => exact absurd hnext (by simp)
          | cons d ds =>
            have hd : isDigit d = true := hnext
            simp [spanBased, hd]
        rw [hc']
        exact ih.2 hne
      · have hdigit : isDigit c = true := by simpa [hc'] using hc
        dsimp only
        rw [withoutUnderscores_cons hc', List.all_cons, hdigit, ih.1]
        exact ⟨rfl, fun _ => List.cons_ne_nil _ _⟩
    · exact ⟨rfl, id⟩

/-! ### Integers as they are read -/

theorem spanLetter_cases (letters : List Char) (text : Text) : spanLetter letters text = ([], text)
    ∨ ∃ c ∈ letters, ∃ cs, text = c :: cs ∧ spanLetter letters text = ([c], cs) := by
  cases text with
  | nil => exact .inl rfl
  | cons c cs =>
    by_cases hc : c ∈ letters
    · exact .inr ⟨c, hc, cs, rfl, if_pos hc⟩
    · exact .inl (if_neg hc)

/-- The letters behind the digits of an integer: none, or one. -/
def integerSuffixes : List Text := [[], ['l'], ['L'], ['j'], ['J']]

/-- The digits that the letter of a base allows. -/
def baseDigit? (letter : Char) : Option (Char → Bool) :=
  match letter.toLower with
  | 'x' => some isHexDigit
  | 'o' => some isOctalDigit
  | 'b' => some isBinaryDigit
  | _ => none

theorem spanBase_eq (letter : Char) (text : Text) : spanBase letter text
    = match baseDigit? letter with
      | some isDigit => spanBased isDigit text
      | none => ([], text) := by
  rw [spanBase, baseDigit?]
  split <;> simp_all

theorem not_isDigit_of_baseDigit? {letter : Char} {isDigit : Char → Bool}
    (h : baseDigit? letter = some isDigit) : letter ≠ '_' ∧ isDigit '_' = false
      ∧ ∀ suffix ∈ [[], ['l'], ['L']], (suffix.head?.all fun c => !isDigit c && c != '_') = true := by
  have hunderscore : letter ≠ '_' := by
    rintro rfl
    cases h
  unfold baseDigit? at h
  split at h <;> cases h <;> exact ⟨hunderscore, by decide, by decide⟩

/-- Integers as they are read: digits in base ten, or digits of a base behind its letter. -/
inductive IsIntegerText : Text → Prop
  | digits {digits suffix : Text} (h : IsRun digits) (hne : digits ≠ []) (hsuffix : suffix ∈ integerSuffixes) :
    IsIntegerText (digits ++ suffix)
  | based {letter : Char} {isDigit : Char → Bool} {digits suffix : Text}
      (hbase : baseDigit? letter = some isDigit)
    (h : IsBasedRun isDigit digits) (hne : digits ≠ []) (hsuffix : suffix ∈ [[], ['l'], ['L']]) :
    IsIntegerText ('0' :: letter :: (digits ++ suffix))

theorem isIntegerText_of_readDecimal (hbegins : beginsNumber text = true)
    (h : (readDecimal text).1 = .integer rest) : IsIntegerText rest := by
  have hne : (spanDecimal false text).1 ≠ [] := by
    obtain ⟨d, ds, rfl, -, -, -, -, -, hd⟩ := exists_cons_of_beginsNumber hbegins
    rcases hd with hd | rfl
    · rw [spanDecimal, hd, Bool.true_or, if_pos rfl]
      exact List.cons_ne_nil _ _
    · -- a point makes it a float
      exact absurd h (by simp [readDecimal, spanDecimal, spanLetter])
  have hsuffix : (spanLetter ['l', 'L', 'j', 'J'] (spanDecimal false text).2).1 ∈ integerSuffixes := by
    rcases spanLetter_cases ['l', 'L', 'j', 'J'] (spanDecimal false text).2 with hnone | ⟨c, hc, cs, -, hspan⟩
    · rw [hnone]
      exact List.mem_cons_self
    · rw [hspan]
      exact (forall_mem_of_all (by decide) : ∀ d ∈ ['l', 'L', 'j', 'J'], [d] ∈ integerSuffixes) c hc
  have hrest : rest
      = (spanDecimal false text).1 ++ (spanLetter ['l', 'L', 'j', 'J'] (spanDecimal false text).2).1 := by
    simp only [readDecimal] at h
    split at h <;> split at h <;> cases h
    · rfl
    · rfl
  rw [hrest]
  exact .digits (isRun_spanDecimal text) hne hsuffix

/-- What is read as an integer is one. -/
theorem isIntegerText_of_readNumber (hbegins : beginsNumber text = true)
    (h : (readNumber text).1 = .integer rest) : IsIntegerText rest := by
  unfold readNumber at h
  split at h
  · next letter behind =>
    cases hbase : baseDigit? letter with
    | none =>
      simp only [spanBase_eq, hbase, List.isEmpty_nil, if_true] at h
      exact isIntegerText_of_readDecimal hbegins h
    | some isDigit =>
      simp only [spanBase_eq, hbase] at h
      split at h
      · exact isIntegerText_of_readDecimal hbegins h
      · next hdigits =>
        cases h
        refine .based hbase (isBasedRun_spanBased isDigit behind) (by simpa using hdigits) ?_
        rcases spanLetter_cases ['l', 'L'] (spanBased isDigit behind).2 with hnone | ⟨c, hc, cs, -, hspan⟩
        · rw [hnone]
          exact List.mem_cons_self
        · rw [hspan]
          exact (forall_mem_of_all (by decide) : ∀ d ∈ ['l', 'L'], [d] ∈ [[], ['l'], ['L']]) c hc
  · exact isIntegerText_of_readDecimal hbegins h

theorem readDecimal_integer (h : IsRun digits) (hsuffix : suffix ∈ integerSuffixes) :
    readDecimal (digits ++ suffix) = (.integer (digits ++ suffix), []) := by
  have hchecks := (by decide : ∀ s ∈ integerSuffixes,
    (s.head?.all fun c => !c.isDigit && c != '_') = true ∧ spanLetter ['.'] s = ([], s)
      ∧ spanExponent s = ([], s) ∧ spanLetter ['l', 'L', 'j', 'J'] s = (s, [])) suffix hsuffix
  simp [readDecimal, spanDecimal_run h hchecks.1, hchecks.2]

/-- An integer is read as one, to its end. -/
theorem IsIntegerText.isInteger (h : IsIntegerText text) : isInteger text = true := by
  cases h with
  | @digits digits suffix h hne hsuffix =>
    have hmem : ∀ c ∈ digits ++ suffix, c.toLower ∉ ['x', 'o', 'b'] := by
      intro c hc
      refine (forall_mem_of_all (by decide) : ∀ d ∈ ['0', '1', '2', '3', '4', '5', '6', '7', '8', '9', '_',
        'l', 'L', 'j', 'J'], d.toLower ∉ ['x', 'o', 'b']) c ?_
      rcases List.mem_append.1 hc with hc | hc
      · rcases isDigit_or_underscore_of_isRun h hc with hdigit | rfl
        · exact List.mem_append_left ['_', 'l', 'L', 'j', 'J'] (mem_of_isDigit hdigit)
        · decide
      · exact (by decide : ∀ s ∈ integerSuffixes, s ⊆ ['0', '1', '2', '3', '4', '5', '6', '7', '8', '9', '_',
          'l', 'L', 'j', 'J']) suffix hsuffix hc
    have hread : readNumber (digits ++ suffix) = (.integer (digits ++ suffix), []) := by
      rw [readNumber_eq_readDecimal fun letter rest htext => ?_, readDecimal_integer h hsuffix]
      exact spanBase_eq_nil (hmem letter (by rw [htext]; simp)) rest
    rw [Python.isInteger, beginsNumber_run h hne, hread, decide_eq_true rfl]
    rfl
  | @based letter isDigit digits suffix hbase h hne hsuffix =>
    obtain ⟨-, -, hsuffixes⟩ := not_isDigit_of_baseDigit? hbase
    have hspan : spanBase letter (digits ++ suffix) = (digits, suffix) := by
      rw [spanBase_eq, hbase]
      exact spanBased_run h (hsuffixes suffix hsuffix)
    have hspanLetter : spanLetter ['l', 'L'] suffix = (suffix, []) :=
      (by decide : ∀ s ∈ [[], ['l'], ['L']], spanLetter ['l', 'L'] s = (s, [])) suffix hsuffix
    simp [Python.isInteger, beginsNumber, readNumber, hspan, hne, hspanLetter]

/-- An integer without its underscores is one. -/
theorem IsIntegerText.withoutUnderscores (h : IsIntegerText text) :
    IsIntegerText (withoutUnderscores text) := by
  cases h with
  | @digits digits suffix h hne hsuffix =>
    have hplain := withoutUnderscores_eq_self ((by decide : ∀ s ∈ integerSuffixes, '_' ∉ s) suffix hsuffix)
    rw [withoutUnderscores_append, hplain]
    exact .digits (isRun_withoutUnderscores h) (withoutUnderscores_run_ne_nil h hne) hsuffix
  | @based letter isDigit digits suffix hbase h hne hsuffix =>
    have hplain := withoutUnderscores_eq_self
      ((by decide : ∀ s ∈ [[], ['l'], ['L']], '_' ∉ s) suffix hsuffix)
    obtain ⟨hletter, hunderscore, -⟩ := not_isDigit_of_baseDigit? hbase
    obtain ⟨hall, hnonempty⟩ := all_isDigit_spanBased hunderscore digits
    rw [h] at hall hnonempty
    rw [withoutUnderscores_cons (by decide), withoutUnderscores_cons hletter, withoutUnderscores_append, hplain]
    exact .based hbase (isBasedRun_digits hall) (hnonempty hne) hsuffix

theorem isIntegerText_of_isInteger (h : isInteger text = true) : IsIntegerText text := by
  rw [isInteger, Bool.and_eq_true, decide_eq_true_eq] at h
  exact isIntegerText_of_readNumber h.1 (congrArg Prod.fst h.2)

theorem isNumeral_of_isInteger (h : isInteger text = true) (hplain : '_' ∉ text) :
    IsNumeral text (.integer text) := by
  rw [isInteger, Bool.and_eq_true, decide_eq_true_eq] at h
  exact ⟨h.1, h.2, hplain⟩

/-- An integer literal without its underscores is a numeral. -/
theorem isNumeral_withoutUnderscores (h : isInteger text = true) :
    IsNumeral (withoutUnderscores text) (.integer (withoutUnderscores text)) :=
  isNumeral_of_isInteger (isIntegerText_of_isInteger h).withoutUnderscores.isInteger (underscore_not_mem text)

theorem isNumeral_decimal (n : Nat) : IsNumeral (decimal n) (.integer (decimal n)) := by
  have hinteger : IsIntegerText (decimal n ++ []) :=
    .digits (isRun_digits (all_isDigit_decimal n)) (decimal_ne_nil n) (by decide)
  rw [List.append_nil] at hinteger
  refine isNumeral_of_isInteger hinteger.isInteger fun hmem => ?_
  exact absurd (isDigit_of_mem_decimal hmem) (by decide)

/-- What an integer literal is written as: its value in decimal if it is not too great, and otherwise
the literal without its underscores. -/
theorem writeInteger_cases (literal : Text) :
    (∃ n, integerValue literal = .integer n ∧ writeInteger literal = decimal n)
      ∨ writeInteger literal = withoutUnderscores literal := by
  rw [writeInteger, integerValue]
  dsimp only
  split
  · exact .inr rfl
  · cases valueIn? (integerBase (withoutUnderscores literal)).1
      (integerBase (withoutUnderscores literal)).2 with
    | none => exact .inr rfl
    | some n =>
      dsimp only
      split
      · exact .inl ⟨n, rfl, rfl⟩
      · exact .inr rfl

/-- An integer literal in normal form is a numeral. -/
theorem isNumeral_writeInteger (h : isInteger text = true) :
    IsNumeral (writeInteger text) (.integer (writeInteger text)) := by
  rcases writeInteger_cases text with ⟨n, -, hn⟩ | hplain
  · rw [hn]
    exact isNumeral_decimal n
  · rw [hplain]
    exact isNumeral_withoutUnderscores h

theorem integerValue_withoutUnderscores (literal : Text) :
    integerValue (withoutUnderscores literal) = integerValue literal := by
  rw [integerValue, withoutUnderscores_eq_self (underscore_not_mem literal), ← integerValue]

theorem digitValue_of_isDigit (h : c.isDigit = true) : isHexDigit c = true ∧ digitValue c < 10
    ∧ digitValue c = c.toNat - '0'.toNat :=
  (forall_mem_of_all (by decide) : ∀ d ∈ ['0', '1', '2', '3', '4', '5', '6', '7', '8', '9'],
    isHexDigit d = true ∧ digitValue d < 10 ∧ digitValue d = d.toNat - '0'.toNat) c (mem_of_isDigit h)

theorem numeralValue_decimal (n : Nat) : numeralValue 10 (decimal n) = n := by
  refine Eq.trans (List.foldl_ext _ _ _ fun value c hc => ?_) (foldl_decimal n)
  rw [(digitValue_of_isDigit (isDigit_of_mem_decimal hc)).2.2]

theorem valueIn?_decimal (n : Nat) : valueIn? 10 (decimal n) = some n := by
  have hall : (decimal n).all (fun c => isHexDigit c && digitValue c < 10) = true :=
    List.all_eq_true.2 fun c hc => by
      have hdigit := digitValue_of_isDigit (isDigit_of_mem_decimal hc)
      rw [hdigit.1, Bool.true_and, decide_eq_true hdigit.2.1]
  rw [valueIn?, isEmpty_decimal, hall, numeralValue_decimal]
  rfl

theorem integerBase_digits (h : digits.all Char.isDigit = true) : integerBase digits = (10, digits) := by
  have hsecond {letter : Char} {rest : Text} (htext : digits = '0' :: letter :: rest) :
      letter.isDigit = true := by
    rw [htext, List.all_cons, List.all_cons, Bool.and_eq_true, Bool.and_eq_true] at h
    exact h.2.1
  unfold integerBase
  split
  all_goals first
    | rfl
    | exact absurd (hsecond rfl) (by decide)

theorem integerValue_decimal (n : Nat) : integerValue (decimal n) = .integer n := by
  have himaginary : isImaginary (decimal n) = false := by
    cases hlast : (decimal n).getLast? with
    | none => rw [isImaginary, hlast]; rfl
    | some c =>
      have hdigit := isDigit_of_mem_decimal (List.mem_of_getLast? hlast)
      rw [isImaginary, hlast, Option.any_some, decide_eq_false (ne_of_isDigit hdigit rfl),
        decide_eq_false (ne_of_isDigit hdigit rfl)]
      rfl
  rw [integerValue, withoutUnderscores_eq_self (isNumeral_decimal n).plain]
  dsimp only
  rw [himaginary, integerBase_digits (all_isDigit_decimal n), valueIn?_decimal]
  rfl

/-- An integer literal in normal form has the value of the literal. -/
theorem integerValue_writeInteger (literal : Text) :
    integerValue (writeInteger literal) = integerValue literal := by
  rcases writeInteger_cases literal with ⟨n, hvalue, hn⟩ | hplain
  · rw [hn, hvalue, integerValue_decimal]
  · rw [hplain, integerValue_withoutUnderscores]

theorem writeInteger_writeInteger (literal : Text) :
    writeInteger (writeInteger literal) = writeInteger literal := by
  rcases writeInteger_cases literal with ⟨n, -, hn⟩ | hplain
  · have hself : withoutUnderscores (decimal n) = decimal n :=
      withoutUnderscores_eq_self (isNumeral_decimal n).plain
    rw [hn]
    rcases writeInteger_cases (decimal n) with ⟨m, hvalue, hm⟩ | hplain
    · rw [integerValue_decimal] at hvalue
      cases hvalue
      exact hm
    · rw [hplain, hself]
  · have hself : withoutUnderscores (withoutUnderscores literal) = withoutUnderscores literal :=
      withoutUnderscores_eq_self (underscore_not_mem literal)
    rw [hplain, writeInteger, hself, ← writeInteger, hplain]

end Testbook.Python
