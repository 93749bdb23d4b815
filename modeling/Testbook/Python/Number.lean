import Testbook.Number.Numeral
import Testbook.Number.Shortest
import Testbook.Text.Digits

/-!
Number literals, normalised. An integer is written in decimal as long as it fits into 128 bits,
and otherwise as in the source without its underscores; so are imaginary numbers and the long
integers of old. A float is written with the fewest digits that read back, positionally from
`1e-4` up to below `1e16` and with a two-digit exponent beyond.
-/

namespace Testbook.Python

open Testbook.Text Testbook.Number

/-- The greatest integer that is written in decimal. -/
def maxInteger : Nat := twoTo 128 - 1

/-- A numeral without the underscores between its digits. -/
def withoutUnderscores (numeral : Text) : Text := numeral.filter (· != '_')

/-- Whether a numeral is imaginary. -/
def isImaginary (numeral : Text) : Bool := numeral.getLast?.any fun c => c = 'j' || c = 'J'

/-- The base of an integer literal and its digits. -/
def integerBase : Text → Nat × Text
  | '0' :: 'x' :: digits | '0' :: 'X' :: digits => (16, digits)
  | '0' :: 'o' :: digits | '0' :: 'O' :: digits => (8, digits)
  | '0' :: 'b' :: digits | '0' :: 'B' :: digits => (2, digits)
  | digits => (10, digits)

/-- The value of digits in a base, when all of them are digits of it. -/
def valueIn? (base : Nat) (digits : Text) : Option Nat :=
  if !digits.isEmpty && digits.all (fun c => isHexDigit c && digitValue c < base) then
    some (numeralValue base digits)
  else none

/-- An integer literal in normal form. -/
def writeInteger (literal : Text) : Text :=
  let numeral := withoutUnderscores literal
  if isImaginary numeral then numeral
  else
    let (base, digits) := integerBase numeral
    match valueIn? base digits with
    | some value => if value ≤ maxInteger then decimal value else numeral
    | none => numeral

/-- The overflowing numeral that stands for infinity. -/
def infinityText : Text := "1e309"

/-- The digits of a decimal written positionally. -/
def writePositional (d : Digits) : Text :=
  if d.exponent < 0 then
    "0." ++ List.replicate (-d.exponent - 1).toNat '0' ++ d.digits
  else
    let places := d.exponent.toNat + 1
    let whole := d.digits.take places ++ List.replicate (places - d.digits.length) '0'
    let fraction := d.digits.drop places
    whole ++ '.' :: (if fraction.isEmpty then ['0'] else fraction)

/-- The digits of a decimal written with an exponent. -/
def writeScientific (d : Digits) : Text :=
  let fraction := d.digits.drop 1
  let digits := decimal d.exponent.natAbs
  d.digits.take 1 ++ (if fraction.isEmpty then [] else '.' :: fraction)
    ++ ['e', if d.exponent < 0 then '-' else '+']
    ++ List.replicate (2 - digits.length) '0' ++ digits

/-- A floating-point number. -/
def writeFloat : Binary64 → Text
  | .nan => "nan"
  | .infinite negative => (if negative then ['-'] else []) ++ infinityText
  | .finite negative m q =>
    (if negative then ['-'] else []) ++
      if m = 0 then "0.0".toList
      else
        let d := shortestDigits m q
        if -4 ≤ d.exponent && d.exponent < 16 then writePositional d else writeScientific d

/-- A float literal in normal form. -/
def writeFloatLiteral (literal : Text) : Text :=
  let numeral := withoutUnderscores literal
  if isImaginary numeral then numeral else writeFloat (.ofNumeral numeral)

end Testbook.Python
