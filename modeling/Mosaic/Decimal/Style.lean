import Mosaic.Decimal.Shortest

/-!
Laying out digits as text.  Which digits are written is settled by the shortest
decimal; a style only says how they are set out, and which way an exact tie
between two shortest decimals goes.
-/

namespace Mosaic
namespace Decimal

/-- The choices a number format makes. -/
structure Style where
  /-- Which of two equally near digit strings is written. -/
  tie : TieRule
  /-- Is a number whose leading digit counts `10 ^ place` written without an
  exponent? -/
  positional : (place : Int) → Bool
  /-- What follows the digits of a whole number. -/
  wholeMark : String
  /-- What stands before an exponent that is not negative. -/
  exponentMark : String

def digitsOf (number : Nat) : List Char :=
  Nat.toDigits 10 number

def natText (number : Nat) : String :=
  String.ofList (digitsOf number)

/-- Digits with the point at its place and no exponent. -/
def positionalText (style : Style) (digits : Digits) : String :=
  let shown := digitsOf digits.significand
  let whole : Int := shown.length + digits.exponent
  if 0 ≤ digits.exponent then
    String.ofList (shown ++ List.replicate digits.exponent.toNat '0') ++ style.wholeMark
  else if 0 < whole then
    String.ofList (shown.take whole.toNat ++ '.' :: shown.drop whole.toNat)
  else
    "0." ++ String.ofList (List.replicate (-whole).toNat '0' ++ shown)

/-- Digits with the point after the first one, and an exponent. -/
def exponentText (style : Style) (digits : Digits) : String :=
  let shown := digitsOf digits.significand
  let place : Int := shown.length + digits.exponent - 1
  let rest := shown.drop 1
  let leading := String.ofList (if rest.isEmpty then shown else shown.take 1 ++ '.' :: rest)
  let exponent :=
    if 0 ≤ place then style.exponentMark ++ natText place.toNat
    else "-" ++ natText (-place).toNat
  leading ++ "e" ++ exponent

def magnitudeText (style : Style) (digits : Digits) : String :=
  let place : Int := (digitsOf digits.significand).length + digits.exponent - 1
  if style.positional place then positionalText style digits else exponentText style digits

/-- A finite number in the given style; the sign of a zero is written. -/
def finiteText (style : Style) (number : Float) : String :=
  let size := magnitude number
  let unsigned :=
    if size.mantissa = 0 then "0" ++ style.wholeMark
    else magnitudeText style (size.shortest style.tie)
  if isNegative number then "-" ++ unsigned else unsigned

def text (style : Style) (number : Float) : String :=
  if number.isNaN then "NaN"
  else if number.isInf then (if isNegative number then "-inf" else "inf")
  else finiteText style number

end Decimal
end Mosaic
