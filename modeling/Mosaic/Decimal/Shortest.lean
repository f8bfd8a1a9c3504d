/-!
The shortest decimal that reads back to a given binary number.

A finite positive binary number is an integer times a power of two.  The reals
that round to it form an interval around it, whose ends belong to it exactly
when the integer is even.  Decimals of one, two, three … digits are tried on
their grids; on each grid only the two neighbours of the number itself can lie
in the interval, the first grid with a hit gives the length, and of two hits
the nearer one is taken.  All comparisons are between natural numbers.
-/

namespace Mosaic
namespace Decimal

/-- The positive number `mantissa * 2 ^ exponent`. -/
structure Dyadic where
  mantissa : Nat
  exponent : Int
  deriving DecidableEq, Repr

/-- The decimal number `significand * 10 ^ exponent`. -/
structure Digits where
  significand : Nat
  exponent : Int
  deriving DecidableEq, Repr

/-- Which of two equally near decimals of the same length is taken. -/
inductive TieRule where
  | up
  | toEven
  deriving DecidableEq, Repr

/-! ## The number in its bits -/

/-- The lower fifty-two bits. -/
def fractionBits (number : Float) : Nat :=
  number.toBits.toNat % Nat.pow 2 52

/-- The eleven bits that encode the power of two. -/
def exponentBits (number : Float) : Nat :=
  number.toBits.toNat / Nat.pow 2 52 % Nat.pow 2 11

def isNegative (number : Float) : Bool :=
  Nat.pow 2 63 ≤ number.toBits.toNat

/-- The magnitude of a finite number; its mantissa is zero only for the two
zeros. -/
def magnitude (number : Float) : Dyadic :=
  if exponentBits number = 0 then ⟨fractionBits number, -1074⟩
  else ⟨Nat.pow 2 52 + fractionBits number, (exponentBits number : Int) - 1075⟩

namespace Dyadic

/-! ## The interval and the grids

Everything is counted in quarters of the last binary place: the number is
`4 * mantissa` of them, and the interval ends lie one or two of them away. -/

/-- Is the next smaller binary number only half as far away as the next larger
one?  So it is above a power of two, the smallest one excepted. -/
def gapHalvesBelow (number : Dyadic) : Bool :=
  number.mantissa = Nat.pow 2 52 && number.exponent ≠ -1074

def lowerQuarters (number : Dyadic) : Nat :=
  4 * number.mantissa - (if number.gapHalvesBelow then 1 else 2)

def upperQuarters (number : Dyadic) : Nat :=
  4 * number.mantissa + 2

/-- What one quarter of the last binary place counts in a comparison with the
grid `10 ^ grid`, once denominators are cleared. -/
def binaryScale (number : Dyadic) (grid : Int) : Nat :=
  Nat.pow 2 (number.exponent - 2).toNat * Nat.pow 10 (-grid).toNat

/-- What one step of the grid `10 ^ grid` counts in the same comparison. -/
def gridStep (number : Dyadic) (grid : Int) : Nat :=
  Nat.pow 2 (2 - number.exponent).toNat * Nat.pow 10 grid.toNat

/-- Does `point` times the grid step round to the number? -/
def roundsTo (number : Dyadic) (grid : Int) (point : Nat) : Bool :=
  let position := point * number.gridStep grid
  let lower := number.lowerQuarters * number.binaryScale grid
  let upper := number.upperQuarters * number.binaryScale grid
  if number.mantissa % 2 = 0 then lower ≤ position && position ≤ upper
  else lower < position && position < upper

/-- The last point of the grid that is not above the number. -/
def pointBelow (number : Dyadic) (grid : Int) : Nat :=
  4 * number.mantissa * number.binaryScale grid / number.gridStep grid

/-- Of the two neighbouring points `below` and `below + 1`, the one nearer to
the number; an exact tie goes by the rule. -/
def nearer (number : Dyadic) (tie : TieRule) (grid : Int) (below : Nat) : Nat :=
  let doubled := 2 * (4 * number.mantissa * number.binaryScale grid)
  let middle := (2 * below + 1) * number.gridStep grid
  if doubled < middle then below
  else if middle < doubled then below + 1
  else
    match tie with
    | .up => below + 1
    | .toEven => if below % 2 = 0 then below else below + 1

/-- The grid point that stands for the number, if one rounds to it. -/
def pointOn? (number : Dyadic) (tie : TieRule) (grid : Int) : Option Nat :=
  let below := number.pointBelow grid
  match number.roundsTo grid below, number.roundsTo grid (below + 1) with
  | true, true => some (number.nearer tie grid below)
  | true, false => some below
  | false, true => some (below + 1)
  | false, false => none

/-- How many decimal places stand before the point: the number lies in
`[10 ^ (k - 1), 10 ^ k)` for the answer `k`, which is negative for small
fractions. -/
def wholePlaces (number : Dyadic) : Int :=
  let numerator := number.mantissa * Nat.pow 2 number.exponent.toNat
  let denominator := Nat.pow 2 (-number.exponent).toNat
  let places : Int :=
    (Nat.toDigits 10 numerator).length - (Nat.toDigits 10 denominator).length
  if numerator * Nat.pow 10 (-places).toNat < denominator * Nat.pow 10 places.toNat then places
  else places + 1

/-- Try the grids from `grid` on downwards, at most `tries` finer ones.  The
last grid is taken as it is. -/
def firstHit (number : Dyadic) (tie : TieRule) (grid : Int) : Nat → Digits
  | 0 => ⟨number.pointBelow grid, grid⟩
  | tries + 1 =>
    match number.pointOn? tie grid with
    | some point => ⟨point, grid⟩
    | none => number.firstHit tie (grid - 1) tries

end Dyadic

/-- The same number without zeros at the end of its significand. -/
def Digits.withoutTrailingZeros (digits : Digits) : Digits :=
  if 0 < digits.significand ∧ digits.significand % 10 = 0 then
    Digits.withoutTrailingZeros ⟨digits.significand / 10, digits.exponent + 1⟩
  else digits
termination_by digits.significand
decreasing_by omega

/-- The shortest digits that read back to a positive number.  Seventeen digits
always suffice. -/
def Dyadic.shortest (number : Dyadic) (tie : TieRule) : Digits :=
  (number.firstHit tie (number.wholePlaces - 1) 17).withoutTrailingZeros

end Decimal
end Mosaic
