/-!
Rectangles of character cells.  Rows count downwards and columns to the right;
all four sides name cells that belong to the rectangle.
-/

namespace Mosaic

/-- A rectangle of cells, its four sides included. -/
structure CellRect where
  top : Nat
  left : Nat
  bottom : Nat
  right : Nat
  deriving DecidableEq, Repr, Inhabited

/-- A direction in which a rectangle is cut into pieces. -/
inductive Orientation where
  /-- Vertical cuts: the pieces stand side by side. -/
  | columns
  /-- Horizontal cuts: the pieces lie below one another. -/
  | rows
  deriving DecidableEq, Repr

/-- A run of rows or columns, both ends included. -/
structure Span where
  first : Nat
  last : Nat
  deriving DecidableEq, Repr

def Span.size (span : Span) : Nat :=
  span.last - span.first + 1

namespace CellRect

/-- The rectangle of all cells of a grid with at least one row and column. -/
def full (rows cols : Nat) : CellRect :=
  ⟨0, 0, rows - 1, cols - 1⟩

def width (rect : CellRect) : Nat :=
  rect.right - rect.left + 1

def height (rect : CellRect) : Nat :=
  rect.bottom - rect.top + 1

def area (rect : CellRect) : Nat :=
  rect.width * rect.height

def containsCell (rect : CellRect) (row col : Nat) : Bool :=
  rect.top ≤ row && row ≤ rect.bottom && (rect.left ≤ col && col ≤ rect.right)

def contains (rect other : CellRect) : Bool :=
  rect.top ≤ other.top && rect.left ≤ other.left && other.bottom ≤ rect.bottom &&
    other.right ≤ rect.right

/-- The same rows, over other columns. -/
def withCols (rect : CellRect) (left right : Nat) : CellRect :=
  { rect with left, right }

/-- The same columns, over other rows. -/
def withRows (rect : CellRect) (top bottom : Nat) : CellRect :=
  { rect with top, bottom }

/-! ## Containment -/

theorem containsCell_iff {rect : CellRect} {row col : Nat} :
    rect.containsCell row col = true ↔
      (rect.top ≤ row ∧ row ≤ rect.bottom) ∧ (rect.left ≤ col ∧ col ≤ rect.right) := by
  simp [containsCell]

theorem contains_iff {rect other : CellRect} :
    rect.contains other = true ↔
      rect.top ≤ other.top ∧ rect.left ≤ other.left ∧ other.bottom ≤ rect.bottom ∧
        other.right ≤ rect.right := by
  simp [contains, and_assoc]

theorem containsCell_of_contains {rect other : CellRect} {row col : Nat}
    (inside : rect.contains other = true) (member : other.containsCell row col = true) :
    rect.containsCell row col = true := by
  rw [contains_iff] at inside
  rw [containsCell_iff] at member ⊢
  omega

/-! ## Along one direction -/

/-- The columns of a rectangle that is cut into columns, or its rows. -/
def along (rect : CellRect) : Orientation → Span
  | .columns => ⟨rect.left, rect.right⟩
  | .rows => ⟨rect.top, rect.bottom⟩

/-- The part of the rectangle over a run of its columns or rows. -/
def slice (rect : CellRect) (orientation : Orientation) (span : Span) : CellRect :=
  match orientation with
  | .columns => rect.withCols span.first span.last
  | .rows => rect.withRows span.first span.last

/-- A slice has the run that it was cut to. -/
theorem along_slice (rect : CellRect) (orientation : Orientation) (span : Span) :
    (rect.slice orientation span).along orientation = span := by
  cases orientation <;> rfl

/-! ## Text -/

def describe (rect : CellRect) : String :=
  s!"rows {rect.top}..={rect.bottom} cols {rect.left}..={rect.right}"

end CellRect
end Mosaic
