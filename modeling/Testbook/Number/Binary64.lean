/-!
Floating-point numbers of 64 bits in exact arithmetic. A finite number is `m * 2^q` with `m` below
`2^53`, normalised so that `m` is at least `2^52` unless `q` is the least exponent. A decimal
numeral is read as the nearest such number, and a tie goes to the even `m`.
-/

namespace Testbook.Number

/-- A power of two. -/
def twoTo (n : Nat) : Nat := Nat.pow 2 n

/-- A power of ten. -/
def tenTo (n : Nat) : Nat := Nat.pow 10 n

/-- A number of the binary format of 64 bits. -/
inductive Binary64 where
  | finite (negative : Bool) (m : Nat) (q : Int)
  | infinite (negative : Bool)
  | nan
  deriving DecidableEq, Repr

namespace Binary64

/-- The least exponent. -/
def minExponent : Int := -1074

/-- The greatest exponent. -/
def maxExponent : Int := 971

/-- The number with a given representation. -/
def ofBits (bits : Nat) : Binary64 :=
  let negative := bits / twoTo 63 % 2 = 1
  let exponent : Nat := bits / twoTo 52 % twoTo 11
  let fraction : Nat := bits % twoTo 52
  if exponent = 2047 then if fraction = 0 then .infinite negative else .nan
  else if exponent = 0 then .finite negative fraction minExponent
  else .finite negative (fraction + twoTo 52) ((exponent : Int) - 1075)

/-- The quotient rounded to the nearest integer, a tie to the even one. -/
def roundedQuotient (num den : Nat) : Nat :=
  let t := num / den
  let twice := 2 * (num % den)
  if twice < den || (twice = den && t % 2 = 0) then t else t + 1

/-- The numerator and denominator of `num * 2^-q / den`. -/
def scaled (num den : Nat) (q : Int) : Nat × Nat :=
  (num * twoTo (-q).toNat, den * twoTo q.toNat)

/-- The number nearest to the positive quotient `num / den`. -/
def nearest (num den : Nat) : Binary64 :=
  let guess : Int := num.log2 - den.log2 - 53
  let (n, d) := scaled num den guess
  let q := max minExponent (if n / d < twoTo 53 then guess else guess + 1)
  let (n, d) := scaled num den q
  let m := roundedQuotient n d
  let (m, q) := if m = twoTo 53 then (twoTo 52, q + 1) else (m, q)
  if maxExponent < q then .infinite false else .finite false m q

/-- The number nearest to `digits * 10^exponent`. The bounds on the exponent leave out what is
certainly infinite or zero, so that no power grows beyond need. -/
def ofDecimal (digits : Nat) (exponent : Int) : Binary64 :=
  let size : Int := (Nat.toDigits 10 digits).length + exponent
  if digits = 0 || size < -400 then .finite false 0 minExponent
  else if 400 < size then .infinite false
  else nearest (digits * tenTo exponent.toNat) (tenTo (-exponent).toNat)

end Binary64

end Testbook.Number
