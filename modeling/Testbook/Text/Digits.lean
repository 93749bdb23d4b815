import Testbook.Text.Basic

/-!
Digits and the numerals they make up, in bases up to sixteen, and the characters that numbers name.
-/

namespace Testbook.Text

/-- Whether a character is an octal digit. -/
def isOctalDigit (c : Char) : Bool := '0' ≤ c && c ≤ '7'

/-- Whether a character is a binary digit. -/
def isBinaryDigit (c : Char) : Bool := c = '0' || c = '1'

/-- Whether a character is a hexadecimal digit in either case. -/
def isHexDigit (c : Char) : Bool :=
  c.isDigit || ('a' ≤ c && c ≤ 'f') || ('A' ≤ c && c ≤ 'F')

/-- The value of a digit in any base up to sixteen. -/
def digitValue (c : Char) : Nat :=
  if c.isDigit then c.toNat - '0'.toNat else c.toLower.toNat - 'a'.toNat + 10

/-- The value of a numeral in base `base`. -/
def numeralValue (base : Nat) (digits : Text) : Nat :=
  digits.foldl (fun n c => n * base + digitValue c) 0

/-- The character with a code point, when there is one. -/
def charOf? (code : Nat) : Option Char :=
  if code.isValidChar then some (Char.ofNat code) else none

/-- The digits of a base at the front of a text; one underscore may stand before each. -/
def spanBased (isDigit : Char → Bool) : Text → Text × Text
  | [] => ([], [])
  | c :: cs =>
    if isDigit c || (c = '_' && cs.head?.any isDigit) then
      let (digits, rest) := spanBased isDigit cs
      (c :: digits, rest)
    else ([], c :: cs)

end Testbook.Text
