import Mosaic.Decimal.Nearest
import Mosaic.Decimal.Style

/-!
Reading numbers from text.  A real number has digits with at most one point
among them and may have an exponent; the value is the binary number nearest to
what is written.  Infinities and not-a-number have names in letters of either
case.
-/

namespace Mosaic
namespace Decimal

def isDigit (glyph : Char) : Bool :=
  '0' ≤ glyph && glyph ≤ '9'

def digitValue (glyph : Char) : Nat :=
  glyph.toNat - '0'.toNat

def digitsValue (digits : List Char) : Nat :=
  digits.foldl (fun value glyph => 10 * value + digitValue glyph) 0

/-- The largest count that fits a machine word. -/
def largestWord : Nat := UInt64.size - 1

/-- A count: digits, with a plus sign allowed before them, that fit a machine
word. -/
def count? (text : List Char) : Option Nat :=
  let digits := match text with
    | '+' :: rest => rest
    | _ => text
  if digits.isEmpty || !digits.all isDigit then none
  else if digitsValue digits ≤ largestWord then some (digitsValue digits)
  else none

def infinity : Float :=
  Float.ofBits (UInt64.ofNat infinityBits)

def notANumber : Float :=
  Float.ofBits 0x7FF8000000000000

/-- The binary number nearest to `significand * 10 ^ exponent`.  Numbers beyond
the range are infinite or zero whatever their digits. -/
def nearest (significand : Nat) (exponent : Int) : Float :=
  let place : Int := (digitsOf significand).length + exponent
  if significand = 0 then Float.ofBits 0
  else if 310 < place then infinity
  else if place < -330 then Float.ofBits 0
  else
    Float.ofBits (UInt64.ofNat
      (nearestBits (significand * Nat.pow 10 exponent.toNat) (Nat.pow 10 (-exponent).toNat)))

/-- An exponent: a sign or none, then at least one digit. -/
def signedDigits? (text : List Char) : Option Int :=
  let (negative, digits) := match text with
    | '-' :: rest => (true, rest)
    | '+' :: rest => (false, rest)
    | _ => (false, text)
  if digits.isEmpty || !digits.all isDigit then none
  else some (if negative then -(digitsValue digits : Int) else digitsValue digits)

/-- What may follow the digits of a number: nothing, or an exponent. -/
def exponent? : List Char → Option Int
  | [] => some 0
  | mark :: rest => if mark = 'e' ∨ mark = 'E' then signedDigits? rest else none

/-- A number without a sign: digits, perhaps a point and digits, at least one
digit in all, and perhaps an exponent. -/
def unsigned? (text : List Char) : Option Float :=
  let whole := text.takeWhile isDigit
  let afterWhole := text.dropWhile isDigit
  let (fraction, rest) := match afterWhole with
    | '.' :: more => (more.takeWhile isDigit, more.dropWhile isDigit)
    | _ => ([], afterWhole)
  if whole.isEmpty && fraction.isEmpty then none
  else
    (exponent? rest).map fun exponent =>
      nearest (digitsValue (whole ++ fraction)) (exponent - fraction.length)

/-- The numbers that are written as words. -/
def named? (text : List Char) : Option Float :=
  let word := String.ofList (text.map Char.toLower)
  if word = "inf" ∨ word = "infinity" then some infinity
  else if word = "nan" then some notANumber
  else none

/-- A number with an optional sign. -/
def number? (text : List Char) : Option Float :=
  let unsigned (rest : List Char) : Option Float := (named? rest).or (unsigned? rest)
  match text with
  | '-' :: rest => (unsigned rest).map (- ·)
  | '+' :: rest => unsigned rest
  | _ => unsigned text

end Decimal
end Mosaic
