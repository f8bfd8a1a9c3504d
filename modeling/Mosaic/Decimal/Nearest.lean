/-!
The binary number nearest to a positive quotient of natural numbers.

The size of the quotient decides how much the last of fifty-three bits counts,
and the quotient is rounded to a multiple of that, a tie going to the even one.
Counting on from the smallest numbers upwards, exponent and mantissa make up the
bits of the result by addition alone: a mantissa that is rounded up past its last
bit moves the exponent by itself, and a number past the range becomes infinite.
-/

namespace Mosaic
namespace Decimal

/-- A quotient rounded to the nearest natural number; a tie goes to the even one. -/
def roundedQuotient (numerator denominator : Nat) : Nat :=
  let below := numerator / denominator
  let doubled := 2 * (numerator % denominator)
  if doubled < denominator then below
  else if denominator < doubled then below + 1
  else below + below % 2

/-- The exponent of the largest power of two that is not above the quotient. -/
def leadingPlace (numerator denominator : Nat) : Int :=
  let place : Int := (numerator.log2 : Int) - denominator.log2
  if numerator * Nat.pow 2 (-place).toNat < denominator * Nat.pow 2 place.toNat then place - 1
  else place

/-- The exponent of what the last bit counts in a binary number of this size. -/
def lastPlace (numerator denominator : Nat) : Int :=
  max (leadingPlace numerator denominator - 52) (-1074)

def infinityBits : Nat := 2047 * Nat.pow 2 52

/-- The bits of the binary number nearest to a positive quotient. -/
def nearestBits (numerator denominator : Nat) : Nat :=
  let place := lastPlace numerator denominator
  let mantissa :=
    roundedQuotient (numerator * Nat.pow 2 (-place).toNat) (denominator * Nat.pow 2 place.toNat)
  min ((place + 1074).toNat * Nat.pow 2 52 + mantissa) infinityBits

end Decimal
end Mosaic
