import Mosaic.Proofs.Canvas.Traced
import Mosaic.Proofs.Program.Replay

/-!
# Keeping the calls of a program

Carrying out a program on a traced canvas does what it does on the canvas itself.
Each part of a run only hands the drawing on, so this goes through line by line.
-/

namespace Mosaic
namespace Program
namespace Replay

variable {σ Figure Grid Axis β : Type}

/-- A run under way with the calls made so far. -/
def attach (replay : Replay σ Figure Grid Axis) (calls : List (TracedCall Figure Grid)) :
    Replay (σ × List (TracedCall Figure Grid)) Figure Grid Axis :=
  ⟨replay.drawing.attach calls, replay.figure, replay.block⟩

/-- A part of a run does the same beside the calls. -/
abbrev Keeps (plain : EStateM Fault (Replay σ Figure Grid Axis) β)
    (traced : EStateM Fault (Replay (σ × List (TracedCall Figure Grid)) Figure Grid Axis) β) :
    Prop :=
  Traces attach plain traced

theorem keeps_onDrawing {plain : EStateM Fault (Drawing σ Grid Axis) β}
    {traced : EStateM Fault (Drawing (σ × List (TracedCall Figure Grid)) Grid Axis) β}
    (traces : Traces Drawing.attach plain traced) :
    Keeps (onDrawing plain) (onDrawing traced) := by
  intro replay calls
  rcases traces replay.drawing calls with ⟨more, same⟩
  refine ⟨more, ?_⟩
  unfold onDrawing
  dsimp only [attach]
  rw [same]
  cases plain replay.drawing <;> rfl

theorem keeps_forStatement {plain : EStateM Fault (Drawing σ Grid Axis) β}
    {traced : EStateM Fault (Drawing (σ × List (TracedCall Figure Grid)) Grid Axis) β}
    (line : Nat) (traces : Traces Drawing.attach plain traced) :
    Keeps (forStatement line plain) (forStatement line traced) := by
  refine keeps_onDrawing fun drawing calls => ?_
  rcases traces drawing calls with ⟨more, same⟩
  refine ⟨more, ?_⟩
  unfold EStateM.adaptExcept
  rw [same]
  cases plain drawing <;> rfl

theorem keeps_expect (line : Nat) (outcome : Except StatementFault β) :
    Keeps (expect line outcome : EStateM Fault (Replay σ Figure Grid Axis) β)
      (expect line outcome) := by
  cases outcome with
  | ok value => exact Traces.ofPure value
  | error cause => exact Traces.ofThrow (.statement line cause)

theorem keeps_currentFigure (line : Nat) :
    Keeps (currentFigure line : EStateM Fault (Replay σ Figure Grid Axis) Figure)
      (currentFigure line) := by
  refine Traces.get_bind fun replay calls => ?_
  dsimp only [attach]
  cases replay.figure with
  | some figure => exact Traces.ofPure figure
  | none => exact Traces.ofThrow (.statement line .noFigure)

variable (canvas : Canvas Float σ Figure Grid Axis)

theorem keeps_makeFigure (size : FigureSize Float) (dpi : Float) :
    Keeps (makeFigure canvas size dpi) (makeFigure canvas.traced size dpi) := by
  refine (keeps_onDrawing (Traces.call (Traces.noted _ _))).bind fun figure => ?_
  exact Traces.modify fun _ _ => rfl

theorem keeps_makeGrid (line : Nat) (block : GridBlock) :
    Keeps (makeGrid canvas line block) (makeGrid canvas.traced line block) := by
  refine (keeps_expect line block.finish).bind fun requested => ?_
  refine (keeps_currentFigure line).bind fun figure => ?_
  refine keeps_forStatement line ?_
  refine (Traces.parent requested.2).bind fun parent => ?_
  refine (Traces.call (Traces.noted _ _)).bind fun grid => ?_
  exact Traces.modify fun _ _ => rfl

theorem keeps_makeAxis (line : Nat) (label : Char) (slot : Slot) :
    Keeps (makeAxis canvas line label slot) (makeAxis canvas.traced line label slot) := by
  refine (keeps_currentFigure line).bind fun figure => ?_
  refine keeps_forStatement line ?_
  refine (Traces.parent slot).bind fun parent => ?_
  refine (Traces.call (Traces.noted _ _)).bind fun axis => ?_
  exact Traces.modify fun _ _ => rfl

theorem keeps_carryOut (line : Nat) (statement : Statement) :
    Keeps (carryOut canvas line statement) (carryOut canvas.traced line statement) := by
  cases statement with
  | nothing => exact Traces.ofPure ()
  | figure size dpi => exact keeps_makeFigure canvas size dpi
  | openGrid id => exact Traces.modify fun _ _ => rfl
  | axis label slot => exact keeps_makeAxis canvas line label slot

theorem keeps_readLine (number : Nat) (raw : List Char) :
    Keeps (readLine canvas number raw) (readLine canvas.traced number raw) := by
  rintro ⟨drawing, figure, block⟩ calls
  cases block with
  | none =>
    exact (keeps_expect number (readStatement raw)).bind
      (keeps_carryOut canvas number) ⟨drawing, figure, none⟩ calls
  | some opened =>
    rcases opened with ⟨first, block⟩
    dsimp only [attach]
    rw [readLine_inBlock, readLine_inBlock]
    by_cases closing : Text.trim raw = [')']
    · rw [if_pos closing, if_pos closing]
      exact keeps_makeGrid canvas first block ⟨drawing, figure, none⟩ calls
    · rw [if_neg closing, if_neg closing]
      refine ⟨[], ?_⟩
      rw [List.append_nil]
      cases block.takeLine (Text.trim raw) <;> rfl

theorem keeps_readLines (number : Nat) (raws : List (List Char)) :
    Keeps (readLines canvas number raws) (readLines canvas.traced number raws) := by
  induction raws generalizing number with
  | nil => exact Traces.ofPure ()
  | cons raw raws ih =>
    exact (keeps_readLine canvas number raw).bind fun _ => ih (number + 1)

/-- Keeping the calls does not change what a program does. -/
theorem traces_replay (source : List Char) :
    Traces Prod.mk (replay source canvas) (replay source canvas.traced) := by
  intro state calls
  rcases keeps_readLines canvas 1 (Text.lines source) (start state) calls with ⟨more, same⟩
  refine ⟨more, ?_⟩
  have beside : readLines canvas.traced 1 (Text.lines source) (start (state, calls)) = _ := same
  unfold replay
  rw [beside]
  cases readLines canvas 1 (Text.lines source) (start state) with
  | error fault after => rfl
  | ok nothing after =>
    dsimp only [onState]
    have made : (attach after (calls ++ more)).result = after.result := rfl
    rw [made]
    cases after.result <;> rfl

end Replay
end Program
end Mosaic
