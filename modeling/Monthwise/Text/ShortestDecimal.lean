import Monthwise.Text.Decimal

/-! # The shortest decimal of a floating-point number

A double-precision number stands for every real number that rounds to it. Of the
decimals in that interval the shortest is taken, and of the shortest the nearest.
The search is done in whole numbers: the n-th grid holds the decimals with n
significant digits, and only the two neighbours of the number on it matter.
-/

namespace Monthwise

/-- The decimal `significand * 10 ^ exponent`. -/
structure ShortDecimal where
  significand : Nat
  exponent : Int
deriving DecidableEq, Repr

namespace ShortDecimal

/-- The real numbers that round to a double, as fractions over one denominator. -/
structure Interval where
  low : Nat
  middle : Nat
  high : Nat
  denominator : Nat
  /-- The ends round to the number, too. -/
  closed : Bool

/-- The interval of a positive, finite number from its bits. A number at the bottom of its binade
has its lower neighbour at half the distance. -/
def Interval.ofBits (bits : Nat) : Interval :=
  let fraction : Nat := bits % Nat.pow 2 52
  let biased : Nat := bits / Nat.pow 2 52 % Nat.pow 2 11
  let mantissa := if biased = 0 then fraction else fraction + Nat.pow 2 52
  let power : Int := (if biased = 0 then 1 else (biased : Int)) - 1075 - 2
  let below := if fraction = 0 ∧ 1 < biased then 1 else 2
  let scale := Nat.pow 2 power.toNat
  { low := (4 * mantissa - below) * scale
    middle := 4 * mantissa * scale
    high := (4 * mantissa + 2) * scale
    denominator := Nat.pow 2 (-power).toNat
    closed := mantissa % 2 = 0 }

/-- The decimal lies in the interval. -/
def inInterval (d : ShortDecimal) (r : Interval) : Bool :=
  let value := d.significand * Nat.pow 10 d.exponent.toNat * r.denominator
  let up := Nat.pow 10 (-d.exponent).toNat
  if r.closed then r.low * up ≤ value && value ≤ r.high * up
  else r.low * up < value && value < r.high * up

/-- The number of places before the point of a fraction, counted down below one: the least `k`
with `numerator / denominator < 10 ^ k`, searched for in at most `fuel` steps. -/
def magnitude (numerator denominator : Nat) : (fuel : Nat) → Int
  | 0 => 0
  | fuel + 1 =>
    if denominator ≤ numerator then magnitude numerator (10 * denominator) fuel + 1
    else if denominator ≤ 10 * numerator then 0
    else magnitude (10 * numerator) denominator fuel - 1

/-- The better of the two neighbours of the number on the grid with this exponent, if one of them
lies in the interval. -/
def onGrid? (r : Interval) (exponent : Int) : Option ShortDecimal :=
  let up := Nat.pow 10 (-exponent).toNat
  let unit := Nat.pow 10 exponent.toNat * r.denominator
  let below : ShortDecimal := ⟨r.middle * up / unit, exponent⟩
  let above : ShortDecimal := ⟨r.middle * up / unit + 1, exponent⟩
  let rest := r.middle * up % unit
  match below.inInterval r, above.inInterval r with
  | true, true =>
    if 2 * rest < unit || (2 * rest == unit && below.significand % 2 == 0) then some below
    else some above
  | true, false => some below
  | false, true => some above
  | false, false => none

/-- Moves zeros at the end of the significand into the exponent, at most `fuel` of them. -/
def stripZeros (d : ShortDecimal) : (fuel : Nat) → ShortDecimal
  | 0 => d
  | fuel + 1 =>
    if d.significand % 10 = 0 ∧ d.significand ≠ 0 then
      stripZeros ⟨d.significand / 10, d.exponent + 1⟩ fuel
    else d

/-- The shortest decimal of a positive, finite number. Seventeen digits always suffice. -/
def ofBits (bits : Nat) : ShortDecimal :=
  let r := Interval.ofBits bits
  let k := magnitude r.middle r.denominator 400
  let found := (List.range 17).findSome? fun n => onGrid? r (k - (n + 1 : Nat))
  (found.getD ⟨0, 0⟩).stripZeros 20

end ShortDecimal

end Monthwise
