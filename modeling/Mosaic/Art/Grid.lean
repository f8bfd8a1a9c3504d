import Mosaic.CellRect

/-!
A drawing as a grid of cells.  Every cell holds a label or is blank, and the
grid lists its labels with the rectangles they fill.
-/

namespace Mosaic

/-- One cell of a drawing. -/
inductive Cell where
  /-- The cell belongs to the plot of this name. -/
  | label (name : Char)
  /-- Empty space that receives no plot. -/
  | blank
  deriving DecidableEq, Repr

def Cell.label? : Cell → Option Char
  | label name => some name
  | blank => none

/-- A label together with the rectangle it fills. -/
structure LabelRegion where
  label : Char
  bounds : CellRect
  deriving DecidableEq, Repr

/-- A rectangular drawing.  The labels are listed in the order in which they
are first met, row by row from the upper left. -/
structure ArtGrid where
  cells : List (List Cell)
  rows : Nat
  cols : Nat
  labels : List LabelRegion
  deriving DecidableEq, Repr

/-- The cell at `row` and `col` of a list of rows. -/
def cellAt? (cells : List (List Cell)) (row col : Nat) : Option Cell :=
  cells[row]? >>= fun across => across[col]?

namespace ArtGrid

def bounds (grid : ArtGrid) : CellRect :=
  CellRect.full grid.rows grid.cols

/-- The cell at `row` and `col`; there is none outside the drawing. -/
def cell? (grid : ArtGrid) (row col : Nat) : Option Cell :=
  cellAt? grid.cells row col

def regionOf? (grid : ArtGrid) (label : Char) : Option LabelRegion :=
  grid.labels.find? fun region => region.label = label

end ArtGrid
end Mosaic
