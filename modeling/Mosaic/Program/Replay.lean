import Mosaic.Canvas.Drawing
import Mosaic.Program.Statement

/-!
Carrying out a program on a canvas.  Each statement is carried out as soon as
its line is read, and the first fault ends the run: nothing after the faulty
line has any effect.  A fault names the line of its statement, which for a
block is the first one.
-/

namespace Mosaic
namespace Program

/-- A run under way. -/
structure Replay (σ Figure Grid Axis : Type) where
  drawing : Drawing σ Grid Axis
  /-- The latest figure. -/
  figure : Option Figure
  /-- The block that is open, with the number of its first line. -/
  block : Option (Nat × GridBlock)

namespace Replay

variable {σ Figure Grid Axis β : Type}

def start (canvas : σ) : Replay σ Figure Grid Axis :=
  ⟨Drawing.start canvas, none, none⟩

def onDrawing (action : EStateM Fault (Drawing σ Grid Axis) β) :
    EStateM Fault (Replay σ Figure Grid Axis) β :=
  fun replay =>
    match action replay.drawing with
    | .ok value drawing => .ok value { replay with drawing }
    | .error fault drawing => .error fault { replay with drawing }

/-- A fault of the canvas, blamed on the statement that starts at `line`. -/
def blamed (line : Nat) : Fault → Fault
  | .canvas cause => .statement line (.canvas cause)
  | fault => fault

/-- Do something to the drawing for the statement at `line`. -/
def forStatement (line : Nat) (action : EStateM Fault (Drawing σ Grid Axis) β) :
    EStateM Fault (Replay σ Figure Grid Axis) β :=
  onDrawing (EStateM.adaptExcept (blamed line) action)

/-- What has been read from the statement at `line`. -/
def expect (line : Nat) : Except StatementFault β → EStateM Fault (Replay σ Figure Grid Axis) β
  | .ok value => return value
  | .error cause => throw (.statement line cause)

def currentFigure (line : Nat) : EStateM Fault (Replay σ Figure Grid Axis) Figure := do
  let replay ← get
  match replay.figure with
  | some figure => return figure
  | none => throw (.statement line .noFigure)

variable (canvas : Canvas Float σ Figure Grid Axis)

/-- Make a figure; it is the one drawn on from now on. -/
def makeFigure (size : FigureSize Float) (dpi : Float) :
    EStateM Fault (Replay σ Figure Grid Axis) Unit := do
  let figure ← onDrawing (Drawing.call (canvas.figure size dpi))
  modify fun replay => { replay with figure := some figure }

/-- Make the grid of a block that starts at `line`. -/
def makeGrid (line : Nat) (block : GridBlock) :
    EStateM Fault (Replay σ Figure Grid Axis) Unit := do
  let (request, slot) ← expect line block.finish
  let figure ← currentFigure line
  forStatement line do
    let parent ← Drawing.parent slot
    let grid ← Drawing.call (canvas.grid figure parent request)
    modify fun drawing => { drawing with grids := drawing.grids.put block.id grid }

def makeAxis (line : Nat) (label : Char) (slot : Slot) :
    EStateM Fault (Replay σ Figure Grid Axis) Unit := do
  let figure ← currentFigure line
  forStatement line do
    let parent ← Drawing.parent slot
    let axis ← Drawing.call (canvas.axis figure parent)
    modify fun drawing => { drawing with axes := drawing.axes.put label axis }

/-- Carry out a statement that stands on line `line`. -/
def carryOut (line : Nat) : Statement → EStateM Fault (Replay σ Figure Grid Axis) Unit
  | .nothing => return ()
  | .figure size dpi => makeFigure canvas size dpi
  | .openGrid id => modify fun replay => { replay with block := some (line, .opened id) }
  | .axis label slot => makeAxis canvas line label slot

/-- Read one line.  Inside a block it is an argument, or closes the block. -/
def readLine (number : Nat) (raw : List Char) :
    EStateM Fault (Replay σ Figure Grid Axis) Unit := do
  let replay ← get
  match replay.block with
  | some (first, block) =>
    let line := Text.trim raw
    if line = [')'] then do
      set { replay with block := none }
      makeGrid canvas first block
    else do
      let grown ← expect number (block.takeLine line)
      set { replay with block := some (first, grown) }
  | none => do
    let statement ← expect number (readStatement raw)
    carryOut canvas number statement

/-- Read lines, the first of which has the given number. -/
def readLines (number : Nat) : List (List Char) → EStateM Fault (Replay σ Figure Grid Axis) Unit
  | [] => return ()
  | raw :: rest => do
    readLine canvas number raw
    readLines (number + 1) rest

/-- What a run has made, when all lines are read. -/
def result (replay : Replay σ Figure Grid Axis) : Except Fault (Bundle Figure Grid Axis) :=
  match replay.block with
  | some (first, block) => .error (.statement first (.neverClosed block.id))
  | none =>
    match replay.figure with
    | none => .error (.canvas .neverCreated)
    | some figure =>
      .ok { figure, axes := replay.drawing.axes, grids := replay.drawing.grids }

end Replay

/-- Carry out a program on a canvas. -/
def replay {σ Figure Grid Axis : Type} (source : List Char)
    (canvas : Canvas Float σ Figure Grid Axis) : EStateM Fault σ (Bundle Figure Grid Axis) :=
  fun state =>
    match Replay.readLines canvas 1 (Text.lines source) (Replay.start state) with
    | .error fault replay => .error fault replay.drawing.canvas
    | .ok () replay =>
      match replay.result with
      | .ok bundle => .ok bundle replay.drawing.canvas
      | .error fault => .error fault replay.drawing.canvas

end Program
end Mosaic
