import Mosaic.Table
import Mosaic.Tree.Walk

/-!
What figures are drawn on.  A canvas makes figures, grids of cells, and axes;
grids and axes are placed on the figure itself or in a cell of a grid that the
canvas has made before.  It has a state of its own and may refuse any call.
Nothing is assumed about a canvas, so what is shown for all of them holds
whatever they do.
-/

namespace Mosaic

/-- The grid that is wanted for one split. -/
structure GridRequest (α : Type) where
  nrows : Nat
  ncols : Nat
  heightRatios : List Nat
  widthRatios : List Nat
  wspace : Option α
  hspace : Option α
  deriving DecidableEq, Repr

def meanExtent {α : Type} [Scalar α] (extents : List Nat) : α :=
  Scalar.ofCount (Scalar.sum α extents) / Scalar.ofCount extents.length

/-- The grid for a split.  A tree measures spacing in cells of the drawing, and
a canvas in average rows and columns of the grid. -/
def GridRequest.ofCut {α : Type} [Scalar α] (cut : Cut α) (childCount : Nat) : GridRequest α where
  nrows := (cut.shape childCount).1
  ncols := (cut.shape childCount).2
  heightRatios := cut.heightRatios
  widthRatios := cut.widthRatios
  wspace := cut.spacing.wspace.map fun space => space / meanExtent cut.widthRatios
  hspace := cut.spacing.hspace.map fun space => space / meanExtent cut.heightRatios

/-- The calls that a canvas answers.  A missing parent stands for the figure
itself; otherwise it is a grid and the index of one of its cells. -/
structure Canvas (α σ Figure Grid Axis : Type) where
  figure : FigureSize α → (dpi : α) → EStateM Fault σ Figure
  grid : Figure → (parent : Option (Grid × Nat)) → GridRequest α → EStateM Fault σ Grid
  axis : Figure → (parent : Option (Grid × Nat)) → EStateM Fault σ Axis

/-- Everything that one drawing has made. -/
structure Bundle (Figure Grid Axis : Type) where
  figure : Figure
  /-- The axis of each label. -/
  axes : Table Char Axis
  /-- The grid of each split, by its name. -/
  grids : Table String Grid
  deriving Repr

/-- The grid and cell that a slot stands for, among the grids made so far. -/
def parentOf? {Grid : Type} (grids : Table String Grid) :
    Slot → Except CanvasFault (Option (Grid × Nat))
  | .figure => .ok none
  | .cell grid index =>
    match grids.get? grid with
    | some parent => .ok (some (parent, index))
    | none => .error (.unbuiltGrid grid)

end Mosaic
