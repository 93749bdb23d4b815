import Testbook.Text.Blank
import Testbook.Markup.Block

/-!
Enumerators, the marks in front of the items of an enumerated list: `1.`, `a)`, `(iv)`, `#.`.
An enumerator that stands first decides how its list is counted; a later one continues the list
when it is written the same way and is, in that numbering, the next ordinal. Ordinals fit into
32 bits, and the last of them has no successor.
-/

namespace Testbook.Markup

open Testbook.Text

/-- The greatest ordinal. -/
def maxOrdinal : Nat := 4294967295

/-- What a roman letter counts, in either case. -/
def romanDigit? (c : Char) : Option Nat :=
  match c.toLower with
  | 'i' => some 1
  | 'v' => some 5
  | 'x' => some 10
  | 'l' => some 50
  | 'c' => some 100
  | 'd' => some 500
  | 'm' => some 1000
  | _ => none

/-- The sum of roman digits, where one that stands before a greater one counts negatively. -/
def romanSum : List Nat → Int
  | [] => 0
  | [d] => d
  | d :: next :: digits =>
    (if d < next then -(d : Int) else d) + romanSum (next :: digits)

/-- The value of a roman numeral, when it is an ordinal from one up. -/
def romanValue? (raw : Text) : Option Nat :=
  match raw.mapM romanDigit? with
  | none => none
  | some digits =>
    let total := romanSum digits
    if 0 < total && total ≤ maxOrdinal then some total.toNat else none

/-- The value of a decimal numeral, when it is an ordinal. -/
def arabicValue? (raw : Text) : Option Nat :=
  if raw.isEmpty || !raw.all Char.isDigit then none
  else
    let value := raw.foldl (fun n c => n * 10 + (c.toNat - '0'.toNat)) 0
    if value ≤ maxOrdinal then some value else none

/-- The place of a single letter in the alphabet, when `inCase` holds of it. -/
def letterValue? (inCase : Char → Bool) (raw : Text) : Option Nat :=
  match raw with
  | [c] => if inCase c then some (c.toLower.toNat - 'a'.toNat + 1) else none
  | _ => none

/-- The ordinal that a numeral stands for in a numbering. -/
def Numbering.value? : Numbering → Text → Option Nat
  | .arabic, raw => arabicValue? raw
  | .lowerAlpha, raw => letterValue? Char.isLower raw
  | .upperAlpha, raw => letterValue? Char.isUpper raw
  | .lowerRoman, raw => if raw.all Char.isLower then romanValue? raw else none
  | .upperRoman, raw => if raw.all Char.isUpper then romanValue? raw else none

/-- The ordinal of a numeral in a numbering; the numeral `#` has none and suits every numbering. -/
def Numbering.ordinal? (numbering : Numbering) (raw : Text) : Option (Option Nat) :=
  if raw = ['#'] then some none else (numbering.value? raw).map some

/-- The numbering that a numeral suggests when it stands first: `i` is roman, any other single
letter alphabetic, and several letters are roman. -/
def Numbering.suggested (raw : Text) : Numbering :=
  if raw = ['#'] || (arabicValue? raw).isSome then .arabic
  else if raw = ['i'] then .lowerRoman
  else if raw = ['I'] then .upperRoman
  else if raw.length = 1 then
    if raw.all Char.isLower then .lowerAlpha else .upperAlpha
  else if raw.all Char.isLower then .lowerRoman else .upperRoman

/-- The mark in front of an enumerated item: how it counts, its ordinal unless it is `#`, whether
a parenthesis opens it, the sign that closes it, and the text that follows. -/
structure Enumerator where
  numbering : Numbering
  ordinal : Option Nat
  opened : Bool
  closer : Char
  text : Text
  deriving DecidableEq, Repr

/-- The text behind a mark: nothing, or something set off by blanks. -/
def behindMark? : Text → Option Text
  | [] => some []
  | c :: cs => if isBlank c then some (trimStart cs) else none

/-- Whether a text is written as a numeral: digits, `#`, one letter, or roman letters in one
case. -/
def isNumeral (raw : Text) : Bool :=
  raw = ['#'] || (raw.length = 1 && raw.all Char.isAlpha)
    || (!raw.isEmpty && (raw.all Char.isDigit || raw.all (· ∈ "ivxlcdm".toList)
      || raw.all (· ∈ "IVXLCDM".toList)))

/-- A mark of an enumerated item as it is written. -/
structure RawEnumerator where
  opened : Bool
  numeral : Text
  closer : Char
  text : Text

/-- Whether a character can end a mark. -/
def isCloser (c : Char) : Bool := c = '.' || c = ')'

/-- The mark at the start of a line, behind its opening parenthesis if it has one. -/
def RawEnumerator.readInner? (opened : Bool) (inner : Text) : Option RawEnumerator :=
  let numeral := inner.takeWhile (!isCloser ·)
  match inner.dropWhile (!isCloser ·) with
  | [] => none
  | closer :: behind =>
    if isNumeral numeral && (!opened || closer = ')') then
      (behindMark? behind).map fun text => ⟨opened, numeral, closer, text⟩
    else none

/-- The mark at the start of a line, when the line starts with one. -/
def RawEnumerator.read? : Text → Option RawEnumerator
  | '(' :: inner => readInner? true inner
  | line => readInner? false line

/-- The enumerator at the start of a line, counted as `numbering` counts. -/
def Enumerator.readIn? (numbering : Text → Numbering) (line : Text) : Option Enumerator := do
  let raw ← RawEnumerator.read? line
  let ordinal ← (numbering raw.numeral).ordinal? raw.numeral
  return ⟨numbering raw.numeral, ordinal, raw.opened, raw.closer, raw.text⟩

/-- Whether the second enumerator continues a list after the first: both are written alike, and
the ordinals follow each other, or neither has one. -/
def Enumerator.precedes (previous next : Enumerator) : Bool :=
  previous.opened = next.opened && previous.closer = next.closer &&
    match previous.ordinal, next.ordinal with
    | some p, some n => p < maxOrdinal && n = p + 1
    | none, none => true
    | _, _ => false

/-- The enumerator of a line that continues the list of `previous`. -/
def Enumerator.next? (previous : Enumerator) (line : Text) : Option Enumerator :=
  (Enumerator.readIn? (fun _ => previous.numbering) line).filter previous.precedes

/-- The enumerator of a line that opens a list. -/
def Enumerator.first? (line : Text) : Option Enumerator :=
  Enumerator.readIn? Numbering.suggested line

/-! ### Marks as they are written -/

/-- A mark as it is written in front of its text. -/
def RawEnumerator.mark (raw : RawEnumerator) : Text :=
  (if raw.opened then ['('] else []) ++ raw.numeral ++ [raw.closer]

/-- A mark that can stand in front of an item. -/
structure RawEnumerator.IsMark (raw : RawEnumerator) : Prop where
  numeral : isNumeral raw.numeral = true
  closer : isCloser raw.closer = true
  opened : raw.opened = true → raw.closer = ')'

theorem isAlphanum_of_isNumeral {raw : Text} (h : isNumeral raw = true) {c : Char} (hc : c ∈ raw) :
    c.isAlphanum = true ∨ c = '#' := by
  have hroman (word : String) (hw : word.toList.all Char.isAlphanum = true)
      (hraw : raw.all (· ∈ word.toList) = true) : c.isAlphanum = true :=
    List.all_eq_true.1 hw c (by simpa using List.all_eq_true.1 hraw c hc)
  simp only [isNumeral, Bool.or_eq_true, Bool.and_eq_true, decide_eq_true_eq] at h
  rcases h with (rfl | ⟨-, h⟩) | ⟨-, (h | h) | h⟩
  · exact .inr (by simpa using hc)
  · exact .inl (by simp [Char.isAlphanum, List.all_eq_true.1 h c hc])
  · exact .inl (by simp [Char.isAlphanum, List.all_eq_true.1 h c hc])
  · exact .inl (hroman _ (by decide) h)
  · exact .inl (hroman _ (by decide) h)

theorem ne_of_isNumeral {raw : Text} (h : isNumeral raw = true) {c d : Char} (hc : c ∈ raw)
    (hd : d.isAlphanum = false ∧ d ≠ '#') : c ≠ d := by
  rintro rfl
  rcases isAlphanum_of_isNumeral h hc with halnum | hsign
  · rw [hd.1] at halnum
    cases halnum
  · exact hd.2 hsign

theorem isCloser_of_isNumeral {raw : Text} (h : isNumeral raw = true) {c : Char} (hc : c ∈ raw) :
    (!isCloser c) = true := by
  simp [isCloser, ne_of_isNumeral h hc (d := '.') (by decide),
    ne_of_isNumeral h hc (d := ')') (by decide)]

theorem RawEnumerator.readInner?_eq_some {opened : Bool} {inner : Text} {raw : RawEnumerator} :
    readInner? opened inner = some raw ↔ raw.opened = opened ∧ raw.IsMark ∧ ∃ behind,
      inner = raw.numeral ++ raw.closer :: behind ∧ behindMark? behind = some raw.text := by
  constructor
  · intro h
    have hcut := List.takeWhile_append_dropWhile (p := (!isCloser ·)) (l := inner)
    have hhead := List.head?_dropWhile_not (!isCloser ·) inner
    simp only [readInner?] at h
    cases hd : inner.dropWhile (!isCloser ·) with
    | nil => simp [hd] at h
    | cons closer behind =>
      simp only [hd] at h hcut hhead
      split at h
      · next hcond =>
        obtain ⟨hnumeral, hopened⟩ := Bool.and_eq_true_iff.1 hcond
        obtain ⟨text, htext, rfl⟩ := Option.map_eq_some_iff.1 h
        refine ⟨rfl, ⟨hnumeral, by simpa using hhead, ?_⟩, behind, hcut.symm, htext⟩
        rintro rfl
        simpa using hopened
      · cases h
  · rintro ⟨rfl, hmark, behind, rfl, htext⟩
    have hfront : ∀ c ∈ raw.numeral, (!isCloser c) = true :=
      fun c hc => isCloser_of_isNumeral hmark.numeral hc
    have htake : (raw.numeral ++ raw.closer :: behind).takeWhile (!isCloser ·) = raw.numeral := by
      rw [List.takeWhile_append_of_pos hfront, List.takeWhile_cons_of_neg (by simp [hmark.closer]),
        List.append_nil]
    have hdrop : (raw.numeral ++ raw.closer :: behind).dropWhile (!isCloser ·)
        = raw.closer :: behind := by
      rw [List.dropWhile_append_of_pos hfront, List.dropWhile_cons_of_neg (by simp [hmark.closer])]
    have hopened : (!raw.opened || decide (raw.closer = ')')) = true := by
      cases ho : raw.opened with
      | false => rfl
      | true => simpa using hmark.opened ho
    simp only [readInner?, htake, hdrop, hmark.numeral, hopened, htext, Bool.and_self, if_true,
      Option.map_some]

/-- A line starts with a mark when it is the mark and what is set off behind it. -/
theorem RawEnumerator.read?_eq_some {line : Text} {raw : RawEnumerator} :
    RawEnumerator.read? line = some raw ↔ raw.IsMark ∧ ∃ behind,
      line = raw.mark ++ behind ∧ behindMark? behind = some raw.text := by
  have hplain (h : ∀ inner, line ≠ '(' :: inner) : read? line = readInner? false line := by
    unfold read?
    split
    · next inner => exact absurd rfl (h inner)
    · rfl
  constructor
  · intro h
    unfold read? at h
    split at h
    · next inner =>
      obtain ⟨hopened, hmark, behind, rfl, htext⟩ := readInner?_eq_some.1 h
      exact ⟨hmark, behind, by simp [mark, hopened], htext⟩
    · obtain ⟨hopened, hmark, behind, rfl, htext⟩ := readInner?_eq_some.1 h
      exact ⟨hmark, behind, by simp [mark, hopened], htext⟩
  · rintro ⟨hmark, behind, rfl, htext⟩
    cases hopened : raw.opened with
    | true =>
      have hline : raw.mark ++ behind = '(' :: (raw.numeral ++ raw.closer :: behind) := by
        simp [mark, hopened]
      rw [hline]
      exact readInner?_eq_some.2 ⟨hopened, hmark, behind, rfl, htext⟩
    | false =>
      have hline : raw.mark ++ behind = raw.numeral ++ raw.closer :: behind := by
        simp [mark, hopened]
      rw [hplain, hline]
      · exact readInner?_eq_some.2 ⟨hopened, hmark, behind, rfl, htext⟩
      · -- neither a numeral nor a closer begins with the parenthesis
        intro inner heq
        rw [hline] at heq
        cases hnumeral : raw.numeral with
        | nil =>
          have hempty := hmark.numeral
          simp [hnumeral, isNumeral] at hempty
        | cons c cs =>
          rw [hnumeral, List.cons_append] at heq
          exact ne_of_isNumeral hmark.numeral (hnumeral ▸ List.mem_cons_self) (by decide)
            (List.cons.inj heq).1

theorem Enumerator.precedes_iff {previous next : Enumerator} : previous.precedes next = true ↔
    previous.opened = next.opened ∧ previous.closer = next.closer
      ∧ (previous.ordinal = none ∧ next.ordinal = none
        ∨ ∃ p, previous.ordinal = some p ∧ p < maxOrdinal ∧ next.ordinal = some (p + 1)) := by
  rw [precedes, Bool.and_eq_true, Bool.and_eq_true, and_assoc, decide_eq_true_iff,
    decide_eq_true_iff]
  refine and_congr_right fun _ => and_congr_right fun _ => ?_
  cases previous.ordinal with
  | none => cases next.ordinal <;> simp
  | some p => cases next.ordinal <;> simp

theorem Numbering.value?_sign (numbering : Numbering) : numbering.value? ['#'] = none := by
  cases numbering <;> decide

theorem Numbering.ordinal?_eq_some {numbering : Numbering} {numeral : Text}
    {ordinal : Option Nat} : numbering.ordinal? numeral = some ordinal ↔
      numeral = ['#'] ∧ ordinal = none
        ∨ ∃ n, numbering.value? numeral = some n ∧ ordinal = some n := by
  by_cases hsign : numeral = ['#']
  · simp [ordinal?, hsign, value?_sign, eq_comm]
  · simp only [ordinal?, hsign, if_false, Option.map_eq_some_iff, false_and, false_or]
    exact exists_congr fun n => and_congr_right fun _ => eq_comm

theorem Enumerator.readIn?_eq_some {numbering : Text → Numbering} {line : Text} {e : Enumerator} :
    Enumerator.readIn? numbering line = some e ↔ ∃ raw ordinal,
      RawEnumerator.read? line = some raw
        ∧ (numbering raw.numeral).ordinal? raw.numeral = some ordinal
        ∧ e = ⟨numbering raw.numeral, ordinal, raw.opened, raw.closer, raw.text⟩ := by
  simp only [Enumerator.readIn?, Option.bind_eq_bind, Option.bind_eq_some_iff, Option.pure_def,
    Option.some.injEq]
  constructor
  · rintro ⟨raw, hraw, ordinal, hordinal, rfl⟩
    exact ⟨raw, ordinal, hraw, hordinal, rfl⟩
  · rintro ⟨raw, ordinal, hraw, hordinal, rfl⟩
    exact ⟨raw, hraw, ordinal, hordinal, rfl⟩

/-! ### What follows a mark -/

theorem isSome_behindMark? (text : Text) :
    (behindMark? text).isSome = text.head?.all isBlank := by
  cases text with
  | nil => rfl
  | cons c cs =>
    rw [behindMark?, List.head?_cons, Option.all_some]
    cases isBlank c <;> rfl

theorem suffix_behindMark? {behind text : Text} (h : behindMark? behind = some text) :
    text <:+ behind := by
  cases behind with
  | nil =>
    rw [behindMark?, Option.some.injEq] at h
    exact h ▸ List.suffix_refl _
  | cons c cs =>
    rw [behindMark?] at h
    split at h
    · rw [Option.some.injEq] at h
      exact h ▸ (List.dropWhile_suffix _).trans (List.suffix_cons c cs)
    · cases h

/-- What follows the mark is the end of the line. -/
theorem RawEnumerator.suffix_read? {line : Text} {raw : RawEnumerator}
    (h : RawEnumerator.read? line = some raw) : raw.text <:+ line ∧ raw.text.length < line.length := by
  obtain ⟨-, behind, rfl, htext⟩ := RawEnumerator.read?_eq_some.1 h
  have hsuffix := suffix_behindMark? htext
  refine ⟨hsuffix.trans (List.suffix_append _ _), ?_⟩
  have hlength := hsuffix.length_le
  simp only [mark, List.length_append, List.length_singleton]
  omega

theorem Enumerator.suffix_readIn? {numbering : Text → Numbering} {line : Text} {e : Enumerator}
    (h : Enumerator.readIn? numbering line = some e) :
    e.text <:+ line ∧ e.text.length < line.length := by
  obtain ⟨raw, ordinal, hraw, -, rfl⟩ := Enumerator.readIn?_eq_some.1 h
  exact RawEnumerator.suffix_read? hraw

end Testbook.Markup
