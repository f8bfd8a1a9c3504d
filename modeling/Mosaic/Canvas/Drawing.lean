import Mosaic.Canvas.Basic

/-!
Drawing a tree on a canvas: one call for the figure, then, in the order of the
tree, one call for each split and each leaf.  Blank regions are left out.
-/

namespace Mosaic

/-- A drawing under way: the state of the canvas, and what it has made. -/
structure Drawing (σ Grid Axis : Type) where
  canvas : σ
  axes : Table Char Axis
  grids : Table String Grid

namespace Drawing

variable {σ Grid Axis β : Type}

def start (canvas : σ) : Drawing σ Grid Axis := ⟨canvas, [], []⟩

def call (action : EStateM Fault σ β) : EStateM Fault (Drawing σ Grid Axis) β :=
  fun drawing =>
    match action drawing.canvas with
    | .ok value canvas => .ok value { drawing with canvas }
    | .error fault canvas => .error fault { drawing with canvas }

def parent (slot : Slot) : EStateM Fault (Drawing σ Grid Axis) (Option (Grid × Nat)) := do
  let drawing ← get
  match parentOf? drawing.grids slot with
  | .ok parent => return parent
  | .error cause => throw (.canvas cause)

end Drawing

variable {α σ Figure Grid Axis : Type} [Scalar α]

/-- The visitor that draws each node on `figure`. -/
def Canvas.painter (canvas : Canvas α σ Figure Grid Axis) (figure : Figure) :
    Visitor α (Drawing σ Grid Axis) where
  onSplit cut children slot := do
    let parent ← Drawing.parent slot
    let grid ← Drawing.call (canvas.grid figure parent (GridRequest.ofCut cut children.length))
    modify fun drawing => { drawing with grids := drawing.grids.put cut.id grid }
  onLeaf leaf slot := do
    let parent ← Drawing.parent slot
    let axis ← Drawing.call (canvas.axis figure parent)
    modify fun drawing => { drawing with axes := drawing.axes.put leaf.label axis }
  onBlank _ _ := return ()

def PartitionTree.drawSized (tree : PartitionTree α) (size : FigureSize α) (dpi : α)
    (canvas : Canvas α σ Figure Grid Axis) : EStateM Fault σ (Bundle Figure Grid Axis) := do
  let figure ← canvas.figure size dpi
  let state ← get
  match tree.walk (canvas.painter figure) (Drawing.start state) with
  | .ok () drawing =>
    set drawing.canvas
    return { figure, axes := drawing.axes, grids := drawing.grids }
  | .error fault drawing =>
    set drawing.canvas
    throw fault

/-- Draw a tree on a new figure as the settings ask. -/
def PartitionTree.draw {σ Figure Grid Axis : Type} (tree : PartitionTree Float)
    (settings : Settings) (canvas : Canvas Float σ Figure Grid Axis) :
    EStateM Fault σ (Bundle Figure Grid Axis) :=
  tree.drawSized (settings.figureSize tree.rows tree.cols) settings.dpi canvas

end Mosaic
