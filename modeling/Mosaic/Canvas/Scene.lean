import Mosaic.Canvas.Basic

/-!
A canvas that keeps the boxes of everything drawn on it.  Each grid divides its
box into rows and columns: tracks that share the extent in proportion to their
ratios, apart from gaps that are a multiple of the average track.
-/

namespace Mosaic

/-- The margins of a figure, as fractions of its size. -/
structure Margins (α : Type) where
  left : α
  right : α
  bottom : α
  top : α
  deriving DecidableEq, Repr

def Margins.default : Margins Float := ⟨0.125, 0.9, 0.11, 0.88⟩

structure SceneFigure (α : Type) where
  size : FigureSize α
  dpi : α
  deriving DecidableEq, Repr

/-- A grid on the scene: its box, and how the box is divided. -/
structure SceneGrid (α : Type) where
  bounds : FigureBox α
  request : GridRequest α
  deriving DecidableEq, Repr

/-- The number of a grid, in the order of making. -/
structure GridHandle where
  index : Nat
  deriving DecidableEq, Repr

/-- The number of an axis, in the order of making. -/
structure AxisHandle where
  index : Nat
  deriving DecidableEq, Repr

/-- Everything drawn so far. -/
structure Scene (α : Type) where
  margins : Margins α
  figures : List (SceneFigure α)
  grids : List (SceneGrid α)
  axes : List (FigureBox α)
  deriving Repr

/-! ## Tracks -/

section Tracks

variable {α : Type} [Scalar α]

/-- The gap between tracks, in average tracks, where a grid gives none. -/
def standardGap : α :=
  Scalar.ofCount 1 / Scalar.ofCount 5

/-- Lay tracks one after the other from `start` on: each is as long as its ratio
times `unit`, with `gap` after it. -/
def tracksFrom (unit gap start : α) : List Nat → List (α × α)
  | [] => []
  | ratio :: ratios =>
    let stop := start + Scalar.ofCount ratio * unit
    (start, stop) :: tracksFrom unit gap (stop + gap) ratios

/-- Start and end of every track along an extent of `total`, with gaps of
`space` average tracks between them. -/
def trackOffsets (total : α) (ratios : List Nat) (space : α) : List (α × α) :=
  let count : α := Scalar.ofCount ratios.length
  let average := total / (count + space * (count - Scalar.ofCount 1))
  let unit := average * count / Scalar.ofCount (Scalar.sum α ratios)
  tracksFrom unit (space * average) (Scalar.ofCount 0) ratios

end Tracks

namespace SceneGrid

variable {α : Type} [Scalar α]

/-- The tracks of the rows, from the top edge down. -/
def rowTracks (grid : SceneGrid α) : List (α × α) :=
  trackOffsets grid.bounds.height grid.request.heightRatios
    (grid.request.hspace.getD standardGap)

/-- The tracks of the columns, from the left edge. -/
def columnTracks (grid : SceneGrid α) : List (α × α) :=
  trackOffsets grid.bounds.width grid.request.widthRatios
    (grid.request.wspace.getD standardGap)

/-- The box of a cell; cells are numbered row by row.  The number of cells is taken
to be a machine word.  It is the product of the lengths of two lists of ratios, and
below `2 ^ 64` unless the two have `2 ^ 33` entries between them. -/
def cellBox (grid : SceneGrid α) (index : Nat) : Except CanvasFault (FigureBox α) :=
  let outside := CanvasFault.outsideGrid index grid.request.nrows grid.request.ncols
  if grid.request.nrows * grid.request.ncols ≤ index then .error outside
  else
    match grid.rowTracks[index / grid.request.ncols]?,
        grid.columnTracks[index % grid.request.ncols]? with
    | some row, some column =>
      .ok {
        left := grid.bounds.left + column.1
        bottom := grid.bounds.top - row.2
        right := grid.bounds.left + column.2
        top := grid.bounds.top - row.1 }
    | _, _ => .error outside

end SceneGrid

/-- Does every row and column of the wanted grid have a positive ratio? -/
def GridRequest.fits {α : Type} (request : GridRequest α) : Bool :=
  request.heightRatios.length = request.nrows && request.widthRatios.length = request.ncols &&
    !request.heightRatios.contains 0 && !request.widthRatios.contains 0

namespace Scene

variable {α : Type}

def empty (margins : Margins α) : Scene α := ⟨margins, [], [], []⟩

def gridBox? (scene : Scene α) (grid : GridHandle) : Option (FigureBox α) :=
  scene.grids[grid.index]?.map SceneGrid.bounds

def axisBox? (scene : Scene α) (axis : AxisHandle) : Option (FigureBox α) :=
  scene.axes[axis.index]?

def outerBox (scene : Scene α) : FigureBox α :=
  ⟨scene.margins.left, scene.margins.bottom, scene.margins.right, scene.margins.top⟩

variable [Scalar α]

/-- The box that a parent stands for. -/
def placementBox (scene : Scene α) (parent : Option (GridHandle × Nat)) :
    Except CanvasFault (FigureBox α) :=
  match parent with
  | none => .ok scene.outerBox
  | some (handle, index) =>
    match scene.grids[handle.index]? with
    | none => .error (.unknownGrid handle.index)
    | some grid => grid.cellBox index

end Scene

/-! ## The canvas -/

section Calls

variable {α : Type}

def addFigure (size : FigureSize α) (dpi : α) : EStateM Fault (Scene α) (SceneFigure α) := do
  let figure : SceneFigure α := { size, dpi }
  modify fun scene => { scene with figures := scene.figures ++ [figure] }
  return figure

variable [Scalar α]

def addGrid (parent : Option (GridHandle × Nat)) (request : GridRequest α) :
    EStateM Fault (Scene α) GridHandle := do
  let scene ← get
  if request.fits then
    match scene.placementBox parent with
    | .error cause => throw (.canvas cause)
    | .ok bounds =>
      set { scene with grids := scene.grids ++ [SceneGrid.mk bounds request] }
      return ⟨scene.grids.length⟩
  else
    throw (.canvas
      (.ratiosDoNotFit request.heightRatios request.widthRatios request.nrows request.ncols))

def addAxis (parent : Option (GridHandle × Nat)) : EStateM Fault (Scene α) AxisHandle := do
  let scene ← get
  match scene.placementBox parent with
  | .error cause => throw (.canvas cause)
  | .ok bounds =>
    set { scene with axes := scene.axes ++ [bounds] }
    return ⟨scene.axes.length⟩

/-- A scene as a canvas.  Its figures share its margins. -/
def Canvas.scene (α : Type) [Scalar α] :
    Canvas α (Scene α) (SceneFigure α) GridHandle AxisHandle where
  figure := addFigure
  grid _ parent request := addGrid parent request
  axis _ parent := addAxis parent

end Calls

end Mosaic
