import Mosaic.Canvas.Drawing
import Mosaic.Proofs.Tree.Visits

/-!
# Drawing a tree by its visits

Drawing a tree makes a figure and then paints the visits of its walk one after the
other.  A drawing that is stopped has painted all visits before one of them.
-/

namespace Mosaic
/-- A drawing is one call for the figure and then a walk over the tree.  What was made is handed
over only at the end. -/
theorem PartitionTree.drawSized_apply {α σ Figure Grid Axis : Type} [Scalar α]
    (tree : PartitionTree α) (size : FigureSize α) (dpi : α)
    (canvas : Canvas α σ Figure Grid Axis) (state : σ) :
    tree.drawSized size dpi canvas state =
      match canvas.figure size dpi state with
      | .error fault after => .error fault after
      | .ok figure started =>
        match tree.walk (canvas.painter figure) (Drawing.start started) with
        | .ok () drawing => .ok ⟨figure, drawing.axes, drawing.grids⟩ drawing.canvas
        | .error fault drawing => .error fault drawing.canvas := by
  unfold drawSized
  change EStateM.bind _ _ _ = _
  unfold EStateM.bind
  cases canvas.figure size dpi state with
  | error fault after => rfl
  | ok figure started =>
    change (match tree.walk (canvas.painter figure) (Drawing.start started) with
      | .ok () drawing => _
      | .error fault drawing => _ : EStateM Fault σ (Bundle Figure Grid Axis)) started = _
    dsimp only
    cases tree.walk (canvas.painter figure) (Drawing.start started) <;> rfl

namespace Canvas

variable {σ Figure Grid Axis : Type} (canvas : Canvas Float σ Figure Grid Axis)

def paint (figure : Figure) (entries : List (Node Float × Slot)) :
    EStateM Fault (Drawing σ Grid Axis) Unit :=
  forM entries fun entry => entry.1.visit (canvas.painter figure) entry.2

theorem paint_cons (figure : Figure) (entry : Node Float × Slot)
    (entries : List (Node Float × Slot)) (drawing : Drawing σ Grid Axis) :
    canvas.paint figure (entry :: entries) drawing =
      match entry.1.visit (canvas.painter figure) entry.2 drawing with
      | .ok () after => canvas.paint figure entries after
      | .error fault after => .error fault after := by
  unfold paint
  rw [List.forM_cons]
  change EStateM.bind _ _ _ = _
  unfold EStateM.bind
  cases entry.1.visit (canvas.painter figure) entry.2 drawing <;> rfl

/-- A drawing that is stopped has drawn the visits up to one that is refused. -/
structure StopsAt (figure : Figure) (drawing : Drawing σ Grid Axis)
    (entries before : List (Node Float × Slot)) (entry : Node Float × Slot) (fault : Fault)
    (after : Drawing σ Grid Axis) : Prop where
  place : ∃ later, entries = before ++ entry :: later
  refused : ∃ reached, canvas.paint figure before drawing = .ok () reached ∧
    entry.1.visit (canvas.painter figure) entry.2 reached = .error fault after

/-- A drawing is one call for the figure and then its visits. -/
theorem draw_eq (tree : PartitionTree Float) (settings : Settings) (state : σ) :
    tree.draw settings canvas state =
      match canvas.figure (settings.figureSize tree.rows tree.cols) settings.dpi state with
      | .error fault after => .error fault after
      | .ok figure started =>
        match canvas.paint figure (tree.root.visits .figure) (Drawing.start started) with
        | .ok () drawing => .ok ⟨figure, drawing.axes, drawing.grids⟩ drawing.canvas
        | .error fault drawing => .error fault drawing.canvas := by
  unfold PartitionTree.draw
  rw [PartitionTree.drawSized_apply]
  cases canvas.figure (settings.figureSize tree.rows tree.cols) settings.dpi state with
  | error fault after => rfl
  | ok figure started =>
    have walked : tree.walk (canvas.painter figure) (Drawing.start started) =
        canvas.paint figure (tree.root.visits .figure) (Drawing.start started) := by
      unfold PartitionTree.walk paint
      rw [Node.walk_eq_forM]
    dsimp only
    rw [walked]

end Canvas
end Mosaic
