import Mosaic.Decimal.Reading

/-!
A JSON text as it was written.  Numbers keep their digits and strings their
escapes, because what they stand for is asked only where it matters: a member
that nobody reads may hold a number out of range or half of a surrogate pair.
-/

namespace Mosaic
namespace Json

/-! ## Strings -/

/-- One unit of a string between its quotes: a character, written out or by a
short escape, or a code unit written by its number. -/
inductive StringUnit where
  | glyph (value : Char)
  | code (value : Nat)
  deriving DecidableEq, Repr

/-- Is `code` the first half of a surrogate pair? -/
def isLeadingHalf (code : Nat) : Bool :=
  0xD800 ≤ code && code ≤ 0xDBFF

/-- Is `code` the second half of a surrogate pair? -/
def isTrailingHalf (code : Nat) : Bool :=
  0xDC00 ≤ code && code ≤ 0xDFFF

/-- The character that a surrogate pair stands for. -/
def pairedGlyph (leading trailing : Nat) : Char :=
  Char.ofNat (0x10000 + (leading - 0xD800) * 0x400 + (trailing - 0xDC00))

/-- The text of a string.  A surrogate must have its other half beside it. -/
def textOfUnits? : List StringUnit → Option (List Char)
  | [] => some []
  | .glyph value :: rest => (textOfUnits? rest).map (value :: ·)
  | .code leading :: .code trailing :: rest =>
    if isLeadingHalf leading then
      if isTrailingHalf trailing then
        (textOfUnits? rest).map (pairedGlyph leading trailing :: ·)
      else none
    else if isTrailingHalf leading then none
    else (textOfUnits? (.code trailing :: rest)).map (Char.ofNat leading :: ·)
  | .code code :: rest =>
    if isLeadingHalf code || isTrailingHalf code then none
    else (textOfUnits? rest).map (Char.ofNat code :: ·)

/-! ## Numbers -/

/-- An exponent as written: its sign and its digits. -/
structure ExponentLiteral where
  negative : Bool
  digits : List Char
  deriving DecidableEq, Repr

/-- A number as written.  A fraction without digits is no fraction. -/
structure NumberLiteral where
  negative : Bool
  whole : List Char
  fraction : List Char
  exponent : Option ExponentLiteral
  deriving DecidableEq, Repr

/-- A number as a value: an integer, or a finite real. -/
inductive Number where
  | integer (value : Int)
  | real (value : Float)
  deriving DecidableEq, Repr

/-- A significand under construction, and the power of ten it counts. -/
structure Scaled where
  significand : Nat
  exponent : Int
  deriving DecidableEq, Repr

namespace Scaled

/-- Append one digit, unless the significand would outgrow a machine word. -/
def append? (scaled : Scaled) (digit : Char) : Option Nat :=
  let grown := 10 * scaled.significand + Decimal.digitValue digit
  if grown ≤ Decimal.largestWord then some grown else none

/-- Take in the digits before the point.  From the first digit that does not
fit on, each digit only raises the exponent. -/
def takeWhole (scaled : Scaled) : List Char → Scaled
  | [] => scaled
  | digit :: digits =>
    match scaled.append? digit with
    | some grown => takeWhole ⟨grown, scaled.exponent⟩ digits
    | none => ⟨scaled.significand, scaled.exponent + (digit :: digits).length⟩

/-- Take in the digits after the point, up to the first that does not fit. -/
def takeFraction (scaled : Scaled) : List Char → Scaled
  | [] => scaled
  | digit :: digits =>
    match scaled.append? digit with
    | some grown => takeFraction ⟨grown, scaled.exponent - 1⟩ digits
    | none => scaled

/-- The exponents that one multiplication or division can reach. -/
def largestPower : Nat := 308

/-- Divide by a power of ten, in steps of the largest representable power. -/
def divideBy (value : Float) (power : Nat) : Float :=
  if power ≤ largestPower then value / Float.ofScientific 1 false power
  else if value == 0 then value
  else divideBy (value / Float.ofScientific 1 false largestPower) (power - largestPower)
termination_by power
decreasing_by
  have positive : 0 < largestPower := by decide
  omega

/-- The real number: the significand, rounded, times or divided by one rounded
power of ten.  There is none beyond the finite range. -/
def value? (scaled : Scaled) : Option Float :=
  let significand := Float.ofNat scaled.significand
  if scaled.exponent < 0 then some (divideBy significand scaled.exponent.natAbs)
  else if scaled.exponent ≤ largestPower then
    let value := significand * Float.ofScientific 1 false scaled.exponent.toNat
    if value.isFinite then some value else none
  else if scaled.significand = 0 then some significand
  else none

end Scaled

/-- Exponents of this size and above are not looked into. -/
def exponentLimit : Nat := 0x80000000

namespace NumberLiteral

/-- The digits of the number as significand and exponent. -/
def scaled (literal : NumberLiteral) : Scaled :=
  (Scaled.takeWhole ⟨0, 0⟩ literal.whole).takeFraction literal.fraction

def magnitude? (literal : NumberLiteral) : Option Float :=
  match literal.exponent with
  | none => literal.scaled.value?
  | some exponent =>
    let size := Decimal.digitsValue exponent.digits
    let base := literal.scaled
    if exponentLimit ≤ size then
      if base.significand ≠ 0 && !exponent.negative then none else some 0
    else if exponent.negative then Scaled.value? ⟨base.significand, base.exponent - size⟩
    else Scaled.value? ⟨base.significand, base.exponent + size⟩

def real? (literal : NumberLiteral) : Option Float :=
  literal.magnitude?.map fun size => if literal.negative then -size else size

def isWhole (literal : NumberLiteral) : Bool :=
  literal.fraction.isEmpty && literal.exponent.isNone

/-- The value of a number.  A whole number is an integer as far as machine
words reach, unsigned or signed; negative zero and all others are reals. -/
def value? (literal : NumberLiteral) : Option Number :=
  let size := Decimal.digitsValue literal.whole
  if literal.isWhole && !literal.negative && size ≤ Decimal.largestWord then
    some (.integer size)
  else if literal.isWhole && literal.negative && 0 < size && size ≤ 0x8000000000000000 then
    some (.integer (-size))
  else literal.real?.map .real

end NumberLiteral

/-- The value of a number where a real is wanted: integers are rounded. -/
def Number.toFloat : Number → Float
  | .integer value => if value < 0 then -Float.ofNat value.natAbs else Float.ofNat value.natAbs
  | .real value => value

/-! ## Documents -/

/-- A JSON text as written. -/
inductive Document where
  | null
  | bool (value : Bool)
  | number (literal : NumberLiteral)
  | string (units : List StringUnit)
  | array (items : List Document)
  | object (members : List (List StringUnit × Document))
  deriving Repr

end Json
end Mosaic
