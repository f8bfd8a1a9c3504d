import Mosaic.Canvas.Basic

/-!
# Calls with their answers

A run on a canvas is told by the calls that succeed, each with what the canvas made
for it.  The answers belong to the calls: that something is placed in a grid which
was made before is a statement about two calls of the list.  A canvas that notes its
answers gives the same ones, so what is noted during a drawing is its run.
-/

namespace Mosaic

variable {α σ Figure Grid Axis β : Type}

/-- A call that succeeded, with what was made. -/
inductive AnsweredCall (α Figure Grid Axis : Type) where
  | figure (size : FigureSize α) (dpi : α) (made : Figure)
  | grid (figure : Figure) (parent : Option (Grid × Nat)) (request : GridRequest α) (made : Grid)
  | axis (figure : Figure) (parent : Option (Grid × Nat)) (made : Axis)

def AnsweredCall.axis? : AnsweredCall α Figure Grid Axis → Option Axis
  | figure .. => none
  | grid .. => none
  | axis _ _ made => some made

/-- Make a call, and note it with its answer if it succeeds. -/
def answering (note : β → AnsweredCall α Figure Grid Axis) (action : EStateM Fault σ β) :
    EStateM Fault (σ × List (AnsweredCall α Figure Grid Axis)) β :=
  fun state =>
    match action state.1 with
    | .ok made after => .ok made (after, state.2 ++ [note made])
    | .error fault after => .error fault (after, state.2)

namespace Canvas

/-- The same canvas, with a list of the calls that have succeeded on it. -/
def answered (canvas : Canvas α σ Figure Grid Axis) :
    Canvas α (σ × List (AnsweredCall α Figure Grid Axis)) Figure Grid Axis where
  figure size dpi := answering (.figure size dpi) (canvas.figure size dpi)
  grid figure parent request :=
    answering (.grid figure parent request) (canvas.grid figure parent request)
  axis figure parent := answering (.axis figure parent) (canvas.axis figure parent)

variable (canvas : Canvas α σ Figure Grid Axis)

/-- Does the canvas answer a call in this way? -/
inductive Answers : σ → AnsweredCall α Figure Grid Axis → σ → Prop
  | figure {before after : σ} {size : FigureSize α} {dpi : α} {made : Figure}
      (called : canvas.figure size dpi before = .ok made after) :
      Answers before (.figure size dpi made) after
  | grid {before after : σ} {figure : Figure} {parent : Option (Grid × Nat)}
      {request : GridRequest α} {made : Grid}
      (called : canvas.grid figure parent request before = .ok made after) :
      Answers before (.grid figure parent request made) after
  | axis {before after : σ} {figure : Figure} {parent : Option (Grid × Nat)} {made : Axis}
      (called : canvas.axis figure parent before = .ok made after) :
      Answers before (.axis figure parent made) after

/-- Does the canvas answer several calls in this way, one after the other? -/
inductive Runs : σ → List (AnsweredCall α Figure Grid Axis) → σ → Prop
  | nil {state : σ} : Runs state [] state
  | cons {before between after : σ} {call : AnsweredCall α Figure Grid Axis}
      {calls : List (AnsweredCall α Figure Grid Axis)} (first : canvas.Answers before call between)
      (later : Runs between calls after) : Runs before (call :: calls) after

variable {canvas}

namespace Runs

variable {before between after : σ} {calls others : List (AnsweredCall α Figure Grid Axis)}

theorem append (first : canvas.Runs before calls between) (later : canvas.Runs between others after) :
    canvas.Runs before (calls ++ others) after := by
  induction first with
  | nil => exact later
  | cons answer _ ih => exact .cons answer (ih later)

theorem of_append (runs : canvas.Runs before (calls ++ others) after) :
    ∃ between, canvas.Runs before calls between ∧ canvas.Runs between others after := by
  induction calls generalizing before with
  | nil => exact ⟨before, .nil, runs⟩
  | cons call calls ih =>
    cases runs with
    | cons first later =>
      rcases ih later with ⟨between, own, rest⟩
      exact ⟨between, .cons first own, rest⟩

/-- What holds at first and is kept by every answer holds at last. -/
theorem invariant (runs : canvas.Runs before calls after) (Holds : σ → Prop)
    (kept : ∀ {before call after}, canvas.Answers before call after → Holds before → Holds after)
    (holds : Holds before) : Holds after := by
  induction runs with
  | nil => exact holds
  | cons first _ ih => exact ih (kept first holds)

end Runs

theorem Answers.answered {before after : σ} {call : AnsweredCall α Figure Grid Axis}
    (answers : canvas.Answers before call after) (noted : List (AnsweredCall α Figure Grid Axis)) :
    canvas.answered.Answers (before, noted) call (after, noted ++ [call]) := by
  cases answers with
  | figure called =>
    apply Answers.figure
    dsimp only [Canvas.answered, answering]
    rw [called]
  | grid called =>
    apply Answers.grid
    dsimp only [Canvas.answered, answering]
    rw [called]
  | axis called =>
    apply Answers.axis
    dsimp only [Canvas.answered, answering]
    rw [called]

/-- The same run is noted in full. -/
theorem Runs.answered {before after : σ} {calls : List (AnsweredCall α Figure Grid Axis)}
    (runs : canvas.Runs before calls after) (noted : List (AnsweredCall α Figure Grid Axis)) :
    canvas.answered.Runs (before, noted) calls (after, noted ++ calls) := by
  induction runs generalizing noted with
  | nil =>
    rw [List.append_nil]
    exact .nil
  | @cons _ _ _ call _ first _ ih =>
    have rest := ih (noted ++ [call])
    rw [List.append_assoc] at rest
    exact .cons (first.answered noted) rest

end Canvas
end Mosaic
