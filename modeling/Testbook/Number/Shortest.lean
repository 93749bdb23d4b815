import Testbook.Number.Binary64

/-!
The shortest decimal that reads back as a given number. The reals that round to `m * 2^q` form an
interval, with its ends if `m` is even. Of all decimals in it those with the fewest digits are
taken, among them the one nearest to the number, and of two equally near ones the greater.
-/

namespace Testbook.Number

/-- A positive decimal `0.d₁d₂d₃… * 10^(exponent + 1)`: `exponent` is the place of the first
digit, zero for the ones. -/
structure Digits where
  digits : List Char
  exponent : Int
  deriving DecidableEq, Repr

/-- The interval of reals that round to `m * 2^q`, in units of `2^(q-2)`: below a power of two the
neighbours lie closer. -/
structure Interval where
  low : Nat
  value : Nat
  high : Nat
  closed : Bool

/-- The interval around `m * 2^q`. -/
def Interval.around (m : Nat) (q : Int) : Interval where
  low := if m = twoTo 52 && Binary64.minExponent < q then 4 * m - 1 else 4 * m - 2
  value := 4 * m
  high := 4 * m + 2
  closed := m % 2 = 0

/-- The place of the first decimal digit of the positive quotient `num / den`. -/
def firstPlace (num den : Nat) : Int :=
  if den ≤ num then (Nat.toDigits 10 (num / den)).length - 1
  else
    let length := (Nat.toDigits 10 (den / num)).length
    if den ≤ num * tenTo (length - 1) then 1 - (length : Int) else -(length : Int)

/-- The multiple of `10^place` in the interval that is nearest to its value; the unit of the
interval is `2^unit`. -/
def Interval.multiple? (i : Interval) (unit place : Int) : Option Nat :=
  let grid := tenTo place.toNat * twoTo (-unit).toNat
  let scale := twoTo unit.toNat * tenTo (-place).toNat
  let below := i.value * scale / grid
  let inside (t : Nat) : Bool :=
    (i.low * scale < t * grid && t * grid < i.high * scale)
      || (i.closed && (t * grid = i.low * scale || t * grid = i.high * scale))
  let isNearer := i.value * scale - below * grid < (below + 1) * grid - i.value * scale
  if inside below && (isNearer || !inside (below + 1)) then some below
  else if inside (below + 1) then some (below + 1)
  else none

/-- The decimal with the fewest digits, tried from the place `place` downwards. -/
def Interval.shortest (i : Interval) (unit : Int) : Nat → Int → Nat × Int
  | 0, place => (i.value, place)
  | steps + 1, place =>
    match i.multiple? unit place with
    | some t => (t, place)
    | none => i.shortest unit steps (place - 1)

/-- The digits of `t * 10^place`, without zeros at the end. -/
def Digits.ofMultiple (t : Nat) (place : Int) : Digits :=
  let digits := Nat.toDigits 10 t
  ⟨(digits.reverse.dropWhile (· = '0')).reverse, place + digits.length - 1⟩

/-- The shortest decimal that reads back as the positive number `m * 2^q`. Seventeen digits are
always enough. -/
def shortestDigits (m : Nat) (q : Int) : Digits :=
  let unit := q - 2
  let first := firstPlace (m * twoTo q.toNat) (twoTo (-q).toNat)
  let (t, place) := (Interval.around m q).shortest unit 18 first
  Digits.ofMultiple t place

end Testbook.Number
