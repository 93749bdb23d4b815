import Testbook.Text.Blank

/-!
The lines of a structured text. Reading a text expands its tabs, removes blanks at the ends of
lines and numbers the lines from one; a text with a control character is refused, since no
markup can hold one. The weight of a sequence of lines is the number of its characters: cutting
a nested body out of a sequence makes it lighter, which is why nested reading ends.
-/

namespace Testbook.Markup

open Testbook.Text

/-- A line of a structured text: its number in the whole text, and what it holds. -/
structure Line where
  number : Nat
  text : Text
  deriving DecidableEq, Repr

namespace Line

/-- Whether the line holds nothing but blanks. -/
def isBlank (l : Line) : Bool := isAllBlank l.text

/-- The number of spaces in front. -/
def indent (l : Line) : Nat := (l.text.takeWhile (· = ' ')).length

/-- Whether the line can belong to an indented block: it is blank or starts with a space. -/
def isInner (l : Line) : Bool := l.isBlank || 0 < l.indent

/-- Whether the line can belong to a paragraph: it is not blank and starts at the margin. -/
def isFlush (l : Line) : Bool := !l.isBlank && l.indent = 0

/-- The line without its first `n` characters, as far as these are indentation. -/
def dedent (n : Nat) (l : Line) : Line := ⟨l.number, l.text.drop (min n l.indent)⟩

end Line

/-- The lines up to the last that is not blank. -/
def trimBlankEnd (lines : List Line) : List Line :=
  (lines.reverse.dropWhile Line.isBlank).reverse

/-- The least indentation of the lines that are not blank. -/
def minIndent (lines : List Line) : Nat :=
  ((lines.filter (!·.isBlank)).map Line.indent).min?.getD 0

/-- The lines without blank lines at the end, moved to the margin together. -/
def flushed (lines : List Line) : List Line :=
  let kept := trimBlankEnd lines
  kept.map (Line.dedent (minIndent kept))

/-- The number of characters in the lines. -/
def weight (lines : List Line) : Nat := lines.foldr (·.text.length + ·) 0

/-- The pieces of a text that end with a line feed, and a last piece that does not, if any. -/
def rawLines (text : Text) : List Text :=
  let pieces := splitOn '\n' text
  if pieces.getLast? = some [] then pieces.dropLast else pieces

/-- The lines of a text: tabs expanded, no blanks at the ends, numbered from one. -/
def readLines (text : Text) : List Line :=
  (rawLines text).mapIdx fun i raw => ⟨i + 1, trimEnd (expandTabs 0 raw)⟩

/-- A character that no structured text may hold, with the number of its line. -/
structure BadCharacter where
  line : Nat
  char : Char
  deriving DecidableEq, Repr

/-- What is said of a character that is refused: its code point in hexadecimal. -/
def BadCharacter.message (bad : BadCharacter) : Text :=
  "invalid character U+" ++ hexUpper 4 bad.char.toNat

/-- Whether a character may not stand in a structured text. -/
def isForbidden (c : Char) : Bool := isControl c && c != '\t' && c != '\r'

/-- The first forbidden character, the lines counted from `number`. -/
def findBadCharacter (number : Nat) : List Text → Option BadCharacter
  | [] => none
  | line :: lines =>
    match line.find? isForbidden with
    | some c => some ⟨number, c⟩
    | none => findBadCharacter (number + 1) lines

/-! ### Cutting makes lines lighter -/

theorem weight_nil : weight [] = 0 := rfl

theorem weight_cons (l : Line) (ls : List Line) : weight (l :: ls) = l.text.length + weight ls := by
  simp [weight]

theorem weight_sublist {a b : List Line} (h : a.Sublist b) : weight a ≤ weight b := by
  induction h with
  | slnil => exact Nat.le_refl _
  | cons l _ ih => rw [weight_cons]; omega
  | cons_cons l _ ih => rw [weight_cons, weight_cons]; omega

theorem trimBlankEnd_sublist (lines : List Line) : (trimBlankEnd lines).Sublist lines := by
  have h := (List.dropWhile_sublist (l := lines.reverse) Line.isBlank).reverse
  simpa [trimBlankEnd] using h

theorem length_dedent_le (n : Nat) (l : Line) : (l.dedent n).text.length ≤ l.text.length := by
  simp [Line.dedent]

theorem weight_map_dedent_le (n : Nat) (lines : List Line) :
    weight (lines.map (Line.dedent n)) ≤ weight lines := by
  induction lines with
  | nil => exact Nat.le_refl _
  | cons l ls ih =>
    rw [List.map_cons, weight_cons, weight_cons]
    have := length_dedent_le n l
    omega

theorem weight_flushed_le (lines : List Line) : weight (flushed lines) ≤ weight lines :=
  Nat.le_trans (weight_map_dedent_le _ _) (weight_sublist (trimBlankEnd_sublist lines))

theorem trimBlankEnd_cons {l : Line} {ls : List Line} (h : l.isBlank = false) :
    trimBlankEnd (l :: ls) = l :: trimBlankEnd ls := by
  simp only [trimBlankEnd, List.reverse_cons, List.dropWhile_append]
  split <;> simp_all

/-- The least indentation is that of some line. -/
theorem exists_minIndent {lines : List Line} (h : ∃ l ∈ lines, l.isBlank = false) :
    ∃ l ∈ lines, l.isBlank = false ∧ l.indent = minIndent lines := by
  rw [minIndent]
  cases hmin : ((lines.filter (!·.isBlank)).map Line.indent).min? with
  | none =>
    obtain ⟨l, hl, hb⟩ := h
    rw [List.min?_eq_none_iff, List.map_eq_nil_iff, List.filter_eq_nil_iff] at hmin
    exact absurd (hmin l hl) (by simp [hb])
  | some n =>
    obtain ⟨l, hl, hn⟩ := List.mem_map.1 (List.min?_mem hmin)
    obtain ⟨hmem, hb⟩ := List.mem_filter.1 hl
    exact ⟨l, hmem, by simpa using hb, hn⟩

theorem minIndent_pos {lines : List Line} (hne : ∃ l ∈ lines, l.isBlank = false)
    (h : ∀ l ∈ lines, l.isInner = true) : 0 < minIndent lines := by
  obtain ⟨l, hl, hb, hindent⟩ := exists_minIndent hne
  have hinner := h l hl
  rw [Line.isInner, hb, Bool.false_or, decide_eq_true_iff] at hinner
  exact hindent ▸ hinner

theorem length_indent_le (l : Line) : l.indent ≤ l.text.length := by
  unfold Line.indent
  exact (List.takeWhile_sublist (l := l.text) (· = ' ')).length_le

/-- An indented block that starts with a line that is not blank grows lighter at the margin. -/
theorem weight_flushed_lt {l : Line} {ls : List Line} (hb : l.isBlank = false)
    (h : ∀ k ∈ l :: ls, k.isInner = true) : weight (flushed (l :: ls)) < weight (l :: ls) := by
  have hsub : (l :: trimBlankEnd ls).Sublist (l :: ls) := (trimBlankEnd_sublist ls).cons_cons l
  have hpos : 0 < minIndent (l :: trimBlankEnd ls) :=
    minIndent_pos ⟨l, List.mem_cons_self .., hb⟩ fun k hk => h k (hsub.subset hk)
  simp only [flushed, trimBlankEnd_cons hb]
  generalize minIndent (l :: trimBlankEnd ls) = n at hpos ⊢
  have hin : 0 < l.indent := by
    have := h l (List.mem_cons_self ..)
    simpa [Line.isInner, hb] using this
  have hlen := length_indent_le l
  have h1 : (l.dedent n).text.length < l.text.length := by
    simp only [Line.dedent, List.length_drop]
    omega
  have h2 := weight_map_dedent_le n (trimBlankEnd ls)
  have h3 := weight_sublist (trimBlankEnd_sublist ls)
  simp only [List.map_cons, weight_cons]
  omega

end Testbook.Markup
