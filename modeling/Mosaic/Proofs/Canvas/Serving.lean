import Mosaic.Canvas.Scene
import Mosaic.Proofs.Canvas.Drawn

/-!
# Canvases that refuse no call of a drawing

A drawing places things only in grids that it was given before, and in cells which
those have.  So a canvas need not take every call: it is enough that it takes those
whose parent it has issued, and that it goes on doing so.  On such a canvas every tree
is drawn whose splits ask for grids that fit.
-/

namespace Mosaic

variable {α σ Figure Grid Axis : Type}

/-- Is the parent the figure itself, or a cell of a grid that was issued?  Grids are
listed with the number of their cells. -/
def IsIssued (issued : List (Grid × Nat)) : Option (Grid × Nat) → Prop
  | none => True
  | some (grid, index) => ∃ cellCount, (grid, cellCount) ∈ issued ∧ index < cellCount

/-- A canvas that takes every call whose parent was issued, while something holds of its
state and what was issued, and that keeps this so. -/
structure Canvas.Serves (canvas : Canvas α σ Figure Grid Axis)
    (Holds : σ → List (Grid × Nat) → Prop) : Prop where
  figure : ∀ {state issued} size dpi, Holds state issued →
    ∃ made after, canvas.figure size dpi state = .ok made after ∧ Holds after issued
  grid : ∀ {state issued parent request} figure, Holds state issued → IsIssued issued parent →
    request.fits = true → ∃ made after, canvas.grid figure parent request state = .ok made after ∧
      Holds after ((made, request.nrows * request.ncols) :: issued)
  axis : ∀ {state issued parent} figure, Holds state issued → IsIssued issued parent →
    ∃ made after, canvas.axis figure parent state = .ok made after ∧ Holds after issued

/-- Do all splits of a node ask for grids that fit? -/
def Node.Fits [Scalar α] (node : Node α) : Prop :=
  ∀ split ∈ node.splits, (GridRequest.ofCut split.1 split.2).fits = true

/-- A split asks for one cell for each child. -/
theorem GridRequest.cellCount_ofCut [Scalar α] (cut : Cut α) (childCount : Nat) :
    (ofCut cut childCount).nrows * (ofCut cut childCount).ncols = childCount := by
  unfold ofCut Cut.shape
  cases cut.orientation with
  | columns => exact Nat.one_mul childCount
  | rows => exact Nat.mul_one childCount

namespace DrawnNode

variable [Scalar α] {canvas : Canvas α σ Figure Grid Axis} {Holds : σ → List (Grid × Nat) → Prop}

mutual

/-- A node that asks for grids which fit is drawn in any place that was issued. -/
theorem exists_runs {state : σ} {issued : List (Grid × Nat)} {parent : Option (Grid × Nat)}
    (serves : canvas.Serves Holds) (figure : Figure) (node : Node α) (fits : node.Fits)
    (holds : Holds state issued) (placed : IsIssued issued parent) :
    ∃ (drawn : DrawnNode α Grid Axis) (after : σ) (more : List (Grid × Nat)),
      drawn.node = node ∧ canvas.Runs state (drawn.calls figure parent) after ∧
        Holds after (more ++ issued) := by
  cases node with
  | leaf contents =>
    rcases serves.axis figure holds placed with ⟨made, after, called, kept⟩
    exact ⟨.leaf contents made, after, [], rfl, .cons (.axis called) .nil, kept⟩
  | blank region => exact ⟨.blank region, state, [], rfl, .nil, holds⟩
  | split cut children =>
    rw [Node.Fits, Node.splits_split, List.forall_mem_cons] at fits
    rcases serves.grid figure holds placed fits.1 with ⟨made, between, called, kept⟩
    rw [GridRequest.cellCount_ofCut] at kept
    have inside : 0 + children.length ≤ children.length := by omega
    rcases exists_runs_of_all serves figure children (fun child member split listed =>
      fits.2 split (List.mem_flatMap.2 ⟨child, member, listed⟩)) kept List.mem_cons_self inside with
      ⟨drawn, after, more, same, runs, still⟩
    have length : drawn.length = children.length := by
      rw [← same, length_nodesOfAll]
    refine ⟨.split cut made drawn, after, more ++ [(made, children.length)], ?_, ?_, ?_⟩
    · rw [DrawnNode.node, same]
    · rw [calls, length]
      exact .cons (.grid called) runs
    · rw [List.append_assoc]
      exact still

/-- Several nodes are drawn in the cells of a grid that has enough of them. -/
theorem exists_runs_of_all {state : σ} {issued : List (Grid × Nat)} {grid : Grid}
    {index cellCount : Nat} (serves : canvas.Serves Holds) (figure : Figure)
    (children : List (Node α)) (fits : ∀ child ∈ children, child.Fits) (holds : Holds state issued)
    (listed : (grid, cellCount) ∈ issued) (inside : index + children.length ≤ cellCount) :
    ∃ (drawn : List (DrawnNode α Grid Axis)) (after : σ) (more : List (Grid × Nat)),
      nodesOfAll drawn = children ∧ canvas.Runs state (callsOfAll figure grid index drawn) after ∧
        Holds after (more ++ issued) := by
  cases children with
  | nil => exact ⟨[], state, [], rfl, .nil, holds⟩
  | cons child children =>
    rw [List.length_cons] at inside
    rw [List.forall_mem_cons] at fits
    have placed : IsIssued issued (some (grid, index)) := ⟨cellCount, listed, by omega⟩
    rcases exists_runs serves figure child fits.1 holds placed with
      ⟨first, between, more, same, own, kept⟩
    have insideLater : index + 1 + children.length ≤ cellCount := by omega
    rcases exists_runs_of_all serves figure children fits.2 kept
      (List.mem_append_right more listed) insideLater with
      ⟨drawn, after, others, rest, runs, still⟩
    refine ⟨first :: drawn, after, others ++ more, ?_, own.append runs, ?_⟩
    · rw [nodesOfAll, same, rest]
    · rw [List.append_assoc]
      exact still

end

/-- A tree whose splits have different names is drawn as a whole, and the calls that are
noted are those of the drawn tree. -/
theorem exists_drawing {state : σ} (serves : canvas.Serves Holds) (tree : PartitionTree α)
    (size : FigureSize α) (dpi : α) (fits : tree.root.Fits)
    (distinct : (tree.root.splits.map fun split => split.1.id).Nodup) (holds : Holds state []) :
    ∃ (figure : Figure) (drawn : DrawnNode α Grid Axis) (after : σ),
      drawn.node = tree.root ∧
        canvas.Runs state (.figure size dpi figure :: drawn.calls figure none) after ∧
        tree.drawSized size dpi canvas state =
          .ok ⟨figure, Table.putAll [] drawn.axes, Table.putAll [] drawn.grids⟩ after ∧
        tree.drawSized size dpi canvas.answered (state, []) =
          .ok ⟨figure, Table.putAll [] drawn.axes, Table.putAll [] drawn.grids⟩
            (after, .figure size dpi figure :: drawn.calls figure none) := by
  rcases serves.figure size dpi holds with ⟨figure, started, called, ready⟩
  have placed : IsIssued ([] : List (Grid × Nat)) none := trivial
  rcases exists_runs serves figure tree.root fits ready placed with
    ⟨drawn, after, more, same, runs, -⟩
  have names : (drawn.grids.map Prod.fst).Nodup := by
    rw [map_fst_grids, same]
    exact distinct
  refine ⟨figure, drawn, after, same, .cons (.figure called) runs,
    drawSized_eq same called runs names, ?_⟩
  have noted := (Canvas.Answers.figure called).answered []
  cases noted with
  | figure called => exact drawSized_eq same called (runs.answered _) names

end DrawnNode
end Mosaic
