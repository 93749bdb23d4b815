/-!
Texts as lists of characters, and the few operations on them that every reader and printer of
this library shares: cutting at a character, joining, replacing, and writing numbers in decimal
and hexadecimal. Cutting and joining undo each other (`join_splitOn`), and a number's decimal
digits are those of the standard library.
-/

namespace Testbook

/-- A text is the list of its characters, read from the front. -/
abbrev Text := List Char

instance : Coe String Text := ⟨String.toList⟩

namespace Text

/-- The pieces of a text between the occurrences of `sep`; there is always at least one. -/
def splitOn (sep : Char) : Text → List Text
  | [] => [[]]
  | c :: cs =>
    if c = sep then [] :: splitOn sep cs
    else match splitOn sep cs with
      | [] => [[c]]
      | piece :: pieces => (c :: piece) :: pieces

/-- The pieces with `sep` between each two neighbours. -/
def join (sep : Text) : List Text → Text
  | [] => []
  | [piece] => piece
  | piece :: next :: pieces => piece ++ sep ++ join sep (next :: pieces)

/-- What follows `start`, when the text begins with it. -/
def dropStart? : Text → Text → Option Text
  | [], text => some text
  | _ :: _, [] => none
  | s :: start, c :: text => if s = c then dropStart? start text else none

/-- What precedes `ending`, when the text ends with it. -/
def dropEnd? (ending text : Text) : Option Text :=
  (dropStart? ending.reverse text.reverse).map List.reverse

/-- Every occurrence of `old`, taken from the left without overlap, replaced by `new`; `skip`
counts the characters of an occurrence that are still to be passed over. -/
def replaceFrom (old new : Text) : Nat → Text → Text
  | _, [] => []
  | skip + 1, _ :: cs => replaceFrom old new skip cs
  | 0, c :: cs =>
    if old.isPrefixOf (c :: cs) then new ++ replaceFrom old new (old.length - 1) cs
    else c :: replaceFrom old new 0 cs

/-- Every occurrence of the non-empty `old`, taken from the left without overlap, replaced. -/
def replace (old new text : Text) : Text := replaceFrom old new 0 text

/-- Whether a text has `part` in it. -/
def hasPart (part : Text) : Text → Bool
  | [] => part.isEmpty
  | c :: cs => part.isPrefixOf (c :: cs) || hasPart part cs

/-- The decimal digits of a number. -/
def decimal (n : Nat) : Text := Nat.toDigits 10 n

/-- The digits of `n` in base sixteen, upper-case, with zeros in front up to `width`. -/
def hexUpper (width n : Nat) : Text :=
  let digits := (Nat.toDigits 16 n).map Char.toUpper
  List.replicate (width - digits.length) '0' ++ digits

/-- The digits of `n` in base sixteen, lower-case, with zeros in front up to `width`. -/
def hexLower (width n : Nat) : Text :=
  let digits := Nat.toDigits 16 n
  List.replicate (width - digits.length) '0' ++ digits

/-- The text with blanks in front up to `width`. -/
def padLeft (width : Nat) (text : Text) : Text :=
  List.replicate (width - text.length) ' ' ++ text

/-- The number of bytes that the text takes in UTF-8. -/
def utf8Length (text : Text) : Nat := text.foldr (·.utf8Size + ·) 0

theorem dropStart?_eq_some {start text rest : Text} (h : dropStart? start text = some rest) :
    text = start ++ rest := by
  induction start generalizing text with
  | nil => simpa [dropStart?] using h
  | cons s start ih =>
    cases text with
    | nil => simp [dropStart?] at h
    | cons c cs =>
      by_cases hc : s = c
      · simp only [dropStart?, hc, if_true] at h
        rw [ih h, hc, List.cons_append]
      · simp [dropStart?, hc] at h

theorem splitOn_ne_nil (sep : Char) (text : Text) : splitOn sep text ≠ [] := by
  cases text with
  | nil => simp [splitOn]
  | cons c cs =>
    by_cases h : c = sep
    · simp [splitOn, h]
    · simp only [splitOn, h, if_false]
      split <;> simp

/-- Joining the pieces with the separator gives the text back. -/
theorem join_splitOn (sep : Char) (text : Text) : join [sep] (splitOn sep text) = text := by
  induction text with
  | nil => rfl
  | cons c cs ih =>
    cases hs : splitOn sep cs with
    | nil => exact absurd hs (splitOn_ne_nil sep cs)
    | cons piece pieces =>
      rw [hs] at ih
      by_cases h : c = sep
      · simp [splitOn, h, hs, join, ih]
      · cases pieces with
        | nil => simp_all [splitOn, join]
        | cons next rest => simp_all [splitOn, join]

end Text

end Testbook
