import Testbook.Number.Binary64
import Testbook.Text.Digits

/-!
Decimal numerals with a fraction and an exponent, read as floating-point numbers.
-/

namespace Testbook.Number

open Testbook.Text

/-- The number nearest to what a decimal numeral stands for: digits with a point among or beside
them, and a power of ten behind the letter `e`. -/
def Binary64.ofNumeral (numeral : Text) : Binary64 :=
  let mantissa := numeral.takeWhile fun c => c != 'e' && c != 'E'
  let whole := mantissa.takeWhile (· != '.')
  let fraction := (mantissa.dropWhile (· != '.')).drop 1
  let power : Int := match numeral.drop (mantissa.length + 1) with
    | '-' :: digits => -(numeralValue 10 digits : Int)
    | '+' :: digits => numeralValue 10 digits
    | digits => numeralValue 10 digits
  Binary64.ofDecimal (numeralValue 10 (whole ++ fraction)) (power - fraction.length)

end Testbook.Number
