/-!
The figure that is drawn on: its size, the boxes laid out on it, and the
arithmetic those need.  Boxes are formed by formulas over any numbers with the
four operations; the program runs them on machine reals, and the laws of the
formulas hold over exact ones.  The counts in the formulas are of the same kind
as the numbers: they are added up in machine words beside machine reals, and
exactly beside exact ones.
-/

namespace Mosaic

/-- Numbers in which lengths are measured. -/
class Scalar (α : Type) extends Add α, Sub α, Mul α, Div α where
  /-- A count as a length. -/
  ofCount : Nat → α
  /-- What counts beside such lengths add up to. -/
  sum : List Nat → Nat

/-- The sum of counts in machine words.  It starts again from zero where it gets
too large for a word. -/
def wordSum (counts : List Nat) : Nat :=
  (counts.foldl (fun total count => total + UInt64.ofNat count) 0).toNat

instance : Scalar Float where
  ofCount := Float.ofNat
  sum := wordSum

/-- The loop of `power`: multiply `result` by `base` to the given exponent,
squaring the base once for each binary digit. -/
def powerFrom {α : Type} [Mul α] (result base : α) (exponent : Nat) : α :=
  let next := if exponent % 2 = 1 then result * base else result
  if exponent / 2 = 0 then next else powerFrom next (base * base) (exponent / 2)
termination_by exponent
decreasing_by omega

def power {α : Type} [Scalar α] (base : α) (exponent : Nat) : α :=
  powerFrom (Scalar.ofCount 1) base exponent

structure FigureSize (α : Type) where
  width : α
  height : α
  deriving DecidableEq, Repr

/-- A box on a figure, in fractions of its size from the lower left corner. -/
structure FigureBox (α : Type) where
  left : α
  bottom : α
  right : α
  top : α
  deriving DecidableEq, Repr

namespace FigureBox

variable {α : Type} [Scalar α]

def width (box : FigureBox α) : α :=
  box.right - box.left

def height (box : FigureBox α) : α :=
  box.top - box.bottom

end FigureBox
end Mosaic
