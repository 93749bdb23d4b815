import Testbook.Text.Ranges
import Testbook.Text.Basic

/-!
White space and control characters. Blank characters are those with the Unicode property
`White_Space`; trimming removes them from the ends of a text, and what is left starts with another
character (`head?_trimStart`). Tabs stand at every eighth column.
-/

namespace Testbook.Text

/-- The code points with the property `White_Space` beyond ASCII. -/
def wideBlanks : Ranges := [
  (0x85, 0x85), (0xA0, 0xA0), (0x1680, 0x1680), (0x2000, 0x200A), (0x2028, 0x2029),
  (0x202F, 0x202F), (0x205F, 0x205F), (0x3000, 0x3000)]

/-- Whether a character is white space. -/
def isBlank (c : Char) : Bool :=
  if c.toNat < 0x80 then c = ' ' || (9 ≤ c.toNat && c.toNat ≤ 13) else wideBlanks.contains c

/-- Whether a character is white space in ASCII, where the vertical tab does not count. -/
def isAsciiBlank (c : Char) : Bool :=
  c = ' ' || c = '\t' || c = '\n' || c = '\r' || c = '\x0c'

/-- Whether a character is a control character (general category `Cc`). -/
def isControl (c : Char) : Bool :=
  c.toNat < 0x20 || (0x7F ≤ c.toNat && c.toNat < 0xA0)

/-- The text without the blank characters in front. -/
def trimStart (text : Text) : Text := text.dropWhile isBlank

/-- The text without the blank characters behind. -/
def trimEnd (text : Text) : Text := (text.reverse.dropWhile isBlank).reverse

/-- The text without the blank characters at both ends. -/
def trim (text : Text) : Text := trimEnd (trimStart text)

/-- Whether a text holds blank characters only. -/
def isAllBlank (text : Text) : Bool := text.all isBlank

/-- The text with each tab replaced by spaces up to the next multiple of eight columns, the
first character standing in column `column`. -/
def expandTabs (column : Nat) : Text → Text
  | [] => []
  | c :: cs =>
    if c = '\t' then
      let width := 8 - column % 8
      List.replicate width ' ' ++ expandTabs (column + width) cs
    else c :: expandTabs (column + 1) cs

theorem head?_trimStart {text : Text} {c : Char} (h : (trimStart text).head? = some c) :
    isBlank c = false := by
  induction text with
  | nil => simp [trimStart] at h
  | cons d ds ih =>
    by_cases hd : isBlank d = true
    · exact ih (by simpa [trimStart, List.dropWhile_cons, hd] using h)
    · simp [trimStart, hd] at h
      simpa [h] using hd

end Testbook.Text
