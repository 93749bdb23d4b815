import Testbook.Proofs.Text.Returns
import Testbook.Python.Escape

/-!
Escape sequences across line breaks. Apart from a backslash that continues a line, an escape sequence
ends on the line on which it begins, and is the same whatever characters end the line
(`exists_readEscape`). So the text that a literal stands for differs by carriage returns only when
the literal does (`hasReturns_decodeText`).
-/

namespace Testbook.Python

open Testbook.Text

/-- Whether a line of the body of a literal is continued on the next: a backslash that is not escaped
itself stands in front of the line feed. -/
def continuesLine : Text → Bool
  | [] => false
  | c :: cs =>
    if c = '\\' then
      match cs with
      | [] => false
      | d :: ds => d = '\n' || continuesLine ds
    else continuesLine cs

variable {text front : Text} {c : Char}

theorem continuesLine_cons (h : c ≠ '\\') (text : Text) :
    continuesLine (c :: text) = continuesLine text := by
  cases text <;> exact if_neg h

theorem continuesLine_escape (c : Char) (text : Text) :
    continuesLine ('\\' :: c :: text) = (c = '\n' || continuesLine text) := rfl

theorem continuesLine_append (h : '\\' ∉ front) (text : Text) :
    continuesLine (front ++ text) = continuesLine text := by
  induction front with
  | nil => rfl
  | cons c cs ih =>
    rw [List.mem_cons, not_or] at h
    rw [List.cons_append, continuesLine_cons (Ne.symm h.1), ih h.2]

theorem isHexDigit_of_isOctalDigit (h : isOctalDigit c = true) : isHexDigit c = true := by
  rw [isOctalDigit, Bool.and_eq_true, decide_eq_true_eq, decide_eq_true_eq] at h
  have hdigit : c.isDigit = true := by
    rw [Char.isDigit, Bool.and_eq_true, decide_eq_true_eq, decide_eq_true_eq]
    have hseven : '7'.val ≤ '9'.val := by decide
    exact ⟨h.1, UInt32.le_trans h.2 hseven⟩
  rw [isHexDigit, hdigit, Bool.true_or, Bool.true_or]

theorem ne_of_isHexDigit {d : Char} (h : isHexDigit c = true) (hd : isHexDigit d = false) : c ≠ d := by
  rintro rfl
  rw [h] at hd
  exact absurd hd (by decide)

/-- Digits at the front of a text end at a line break, whatever characters it has. -/
theorem takeWhile_take_withReturns {p : Char → Bool} (hfeed : p '\n' = false) (hreturn : p '\r' = false)
    (n : Nat) (text : Text) :
    ((withReturns text).take n).takeWhile p = (text.take n).takeWhile p := by
  induction n generalizing text with
  | zero => rfl
  | succ n ih =>
    cases text with
    | nil => rfl
    | cons c cs =>
      by_cases hc : c = '\n'
      · subst hc
        rw [withReturns_feed, List.take_succ_cons, List.takeWhile_cons_of_neg (by simp [hreturn]),
          List.take_succ_cons, List.takeWhile_cons_of_neg (by simp [hfeed])]
      · rw [withReturns_cons hc, List.take_succ_cons, List.take_succ_cons, List.takeWhile_cons,
          List.takeWhile_cons, ih]

/-- The digits of a hexadecimal escape decide what it stands for. -/
theorem exists_hexEscape (letter : Char) (width : Nat) {digits : Text} :
    ∃ meaning, ∀ text : Text, (text.take width).takeWhile isHexDigit = digits →
      hexEscape letter width text = (meaning, 1 + digits.length) := by
  cases hchar : charOf? (numeralValue 16 digits) with
  | none =>
    refine ⟨'\\' :: letter :: digits, fun text h => ?_⟩
    simp only [hexEscape, h, hchar]
  | some e =>
    by_cases hwidth : digits.length = width
    · refine ⟨[e], fun text h => ?_⟩
      simp only [hexEscape, h, hchar, hwidth, if_true]
    · refine ⟨'\\' :: letter :: digits, fun text h => ?_⟩
      simp only [hexEscape, h, hchar, if_neg hwidth]

/-- An escape sequence consists of one character behind the backslash and digits behind that. -/
theorem exists_readEscape (h : c ≠ '\n') (text : Text) :
    ∃ meaning digits rest, text = digits ++ rest ∧ digits.all isHexDigit = true
      ∧ readEscape (c :: text) = (meaning, 1 + digits.length)
      ∧ readEscape (c :: withReturns text) = (meaning, 1 + digits.length) := by
  have hspan (p : Char → Bool) (n : Nat) : ∃ rest, text = (text.take n).takeWhile p ++ rest := by
    obtain ⟨rest, hrest⟩ := (List.takeWhile_prefix p).trans (List.take_prefix n text)
    exact ⟨rest, hrest.symm⟩
  have hhex (letter : Char) (width : Nat)
      (hread : ∀ t, readEscape (c :: t) = hexEscape letter width t) :
      ∃ meaning digits rest, text = digits ++ rest ∧ digits.all isHexDigit = true
        ∧ readEscape (c :: text) = (meaning, 1 + digits.length)
        ∧ readEscape (c :: withReturns text) = (meaning, 1 + digits.length) := by
    obtain ⟨meaning, hmeaning⟩ := exists_hexEscape letter width
    obtain ⟨rest, hrest⟩ := hspan isHexDigit width
    refine ⟨meaning, _, rest, hrest, List.all_takeWhile, ?_, ?_⟩
    · rw [hread, hmeaning _ rfl]
    · rw [hread, hmeaning _ (takeWhile_take_withReturns (by decide) (by decide) width text)]
  by_cases hx : c = 'x'
  · exact hhex 'x' 2 fun t => by rw [hx, readEscape]
  by_cases hu : c = 'u'
  · exact hhex 'u' 4 fun t => by rw [hu, readEscape]
  by_cases hU : c = 'U'
  · exact hhex 'U' 8 fun t => by rw [hU, readEscape]
  have hread (t : Text) := readEscape.eq_6 c t hx hu hU h
  by_cases hoctal : isOctalDigit c = true
  · obtain ⟨rest, hrest⟩ := hspan isOctalDigit 2
    have hdigits (t : Text)
        (ht : (t.take 2).takeWhile isOctalDigit = (text.take 2).takeWhile isOctalDigit) :
        readEscape (c :: t) = ([Char.ofNat (numeralValue 8 (octalDigits c text))],
          1 + ((text.take 2).takeWhile isOctalDigit).length) := by
      simp only [hread, if_pos hoctal, octalDigits, ht, List.length_cons, Nat.add_comm]
    refine ⟨_, _, rest, hrest, List.all_eq_true.2 fun d hd => ?_, hdigits text rfl,
      hdigits _ (takeWhile_take_withReturns (by decide) (by decide) 2 text)⟩
    have hd' : isOctalDigit d = true := List.all_eq_true.1 List.all_takeWhile d hd
    exact isHexDigit_of_isOctalDigit hd'
  · cases hsimple : simpleEscape? c with
    | some e => exact ⟨[e], [], text, rfl, rfl, by rw [hread, if_neg hoctal, hsimple]; rfl,
        by rw [hread, if_neg hoctal, hsimple]; rfl⟩
    | none => exact ⟨['\\', c], [], text, rfl, rfl, by rw [hread, if_neg hoctal, hsimple]; rfl,
        by rw [hread, if_neg hoctal, hsimple]; rfl⟩

/-- A literal without continued lines stands for the same text with other ends of lines. -/
theorem hasReturns_decodeText {body : Text} (h : continuesLine body = false) :
    HasReturns (decodeText (withReturns body)) (decodeText body) := by
  induction hn : body.length using Nat.strongRecOn generalizing body with
  | ind n ih =>
    cases body with
    | nil =>
      exact .refl _
    | cons c cs =>
      by_cases hc : c = '\\'
      · subst hc
        cases cs with
        | nil =>
          rw [withReturns_of_not_mem (by decide)]
          exact .refl _
        | cons d ds =>
          rw [continuesLine_escape, Bool.or_eq_false_iff, decide_eq_false_iff_not] at h
          obtain ⟨meaning, digits, rest, rfl, hdigits, hread, hread'⟩ := exists_readEscape h.1 ds
          have hnot {e : Char} (he : isHexDigit e = false) : e ∉ digits := fun hmem =>
            ne_of_isHexDigit (List.all_eq_true.1 hdigits e hmem) he rfl
          have hrest : continuesLine rest = false := by
            rw [← continuesLine_append (hnot (by decide)) rest]
            exact h.2
          have hdrop (t : Text) : (d :: (digits ++ t)).drop (1 + digits.length) = t := by
            rw [Nat.add_comm, List.drop_succ_cons, List.drop_left]
          rw [withReturns_append, withReturns_of_not_mem (hnot (by decide))] at hread'
          rw [withReturns_cons (by decide), withReturns_cons h.1, withReturns_append,
            withReturns_of_not_mem (hnot (by decide)), decodeText, if_pos rfl, hread', decodeText,
            if_pos rfl, hread]
          simp only [hdrop]
          refine .append meaning (ih rest.length ?_ hrest rfl)
          rw [← hn, List.length_cons, List.length_cons, List.length_append]
          omega
      · rw [continuesLine_cons hc] at h
        have hrest := ih cs.length (by rw [← hn, List.length_cons]; omega) h rfl
        by_cases hfeed : c = '\n'
        · subst hfeed
          rw [withReturns_feed, decodeText, if_neg (by decide), decodeText, if_neg (by decide),
            decodeText, if_neg (by decide)]
          exact .feed hrest
        · rw [withReturns_cons hfeed, decodeText, if_neg hc, decodeText, if_neg hc]
          exact .keep c hrest

end Testbook.Python
