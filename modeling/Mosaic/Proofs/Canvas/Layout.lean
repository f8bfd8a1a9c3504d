import Mosaic.Proofs.Canvas.Tracks
import Mosaic.Proofs.Tree.Lineage

/-!
# Where the boxes of a drawing lie

On a scene each split is drawn in the box of the cell that it was placed in, and so is
each leaf.  This is read off the calls, going down the tree.  Over exact numbers each
cell lies in the box of its grid, so everything lies in the box of the split above it.
Two different leaves lie below different children of some split, in two of its cells.
Hence their boxes are apart, however deep the leaves are.
-/

namespace Mosaic

variable {α : Type}

/-! ## Boxes of nodes -/

namespace Scene

/-- What was made for a tree that was drawn on a scene. -/
abbrev Handles (α : Type) : Type :=
  Bundle (SceneFigure α) GridHandle AxisHandle

def gridOf? (scene : Scene α) (handles : Handles α) (cut : Cut α) : Option (SceneGrid α) :=
  (handles.grids.get? cut.id).bind fun handle => scene.grids[handle.index]?

/-- The box of the grid or axis that was made for a node. -/
def nodeBox? (scene : Scene α) (handles : Handles α) : Node α → Option (FigureBox α)
  | .leaf contents => (handles.axes.get? contents.label).bind scene.axisBox?
  | .split cut _ => (handles.grids.get? cut.id).bind scene.gridBox?
  | .blank _ => none

/-- A scene to which nothing or something was added. -/
structure Extends (scene other : Scene α) : Prop where
  grids : scene.grids <+: other.grids
  axes : scene.axes <+: other.axes

variable {scene other third : Scene α}

theorem Extends.refl (scene : Scene α) : scene.Extends scene :=
  ⟨List.prefix_refl _, List.prefix_refl _⟩

theorem Extends.trans (first : scene.Extends other) (second : other.Extends third) :
    scene.Extends third :=
  ⟨first.grids.trans second.grids, first.axes.trans second.axes⟩

theorem Extends.grid (grown : scene.Extends other) {index : Nat} {grid : SceneGrid α}
    (found : scene.grids[index]? = some grid) : other.grids[index]? = some grid := by
  rcases grown.grids with ⟨more, same⟩
  rw [← same, List.getElem?_append_left (List.getElem?_eq_some_iff.1 found).1, found]

theorem Extends.axis (grown : scene.Extends other) {index : Nat} {box : FigureBox α}
    (found : scene.axes[index]? = some box) : other.axes[index]? = some box := by
  rcases grown.axes with ⟨more, same⟩
  rw [← same, List.getElem?_append_left (List.getElem?_eq_some_iff.1 found).1, found]

/-- Calls only add to a scene. -/
theorem extends_of_runs [Scalar α] {calls : List (AnsweredCall α (SceneFigure α) GridHandle AxisHandle)}
    (runs : (Canvas.scene α).Runs scene calls other) : scene.Extends other := by
  refine runs.invariant scene.Extends ?_ (Extends.refl scene)
  intro before call after answer earlier
  refine earlier.trans ?_
  cases answer with
  | figure called =>
    cases called
    exact ⟨List.prefix_refl _, List.prefix_refl _⟩
  | grid called =>
    rcases addGrid_ok_iff.1 called with ⟨-, box, -, -, rfl⟩
    exact ⟨List.prefix_append _ _, List.prefix_refl _⟩
  | axis called =>
    rcases addAxis_ok_iff.1 called with ⟨box, -, -, rfl⟩
    exact ⟨List.prefix_refl _, List.prefix_append _ _⟩

end Scene

namespace Node

variable [Scalar α]

mutual

/-- Is a node drawn in this box, and each child of a split in its cell? -/
def LiesIn (scene : Scene α) (handles : Scene.Handles α) (box : FigureBox α) : Node α → Prop
  | leaf contents => scene.nodeBox? handles (leaf contents) = some box
  | split cut children =>
    scene.gridOf? handles cut = some ⟨box, GridRequest.ofCut cut children.length⟩ ∧
      AllLieIn scene handles ⟨box, GridRequest.ofCut cut children.length⟩ 0 children
  | blank _ => True

/-- Are several nodes drawn in the cells of a grid from `index` on? -/
def AllLieIn (scene : Scene α) (handles : Scene.Handles α) (grid : SceneGrid α) (index : Nat) :
    List (Node α) → Prop
  | [] => True
  | child :: children =>
    (∃ cell, grid.cellBox index = .ok cell ∧ child.LiesIn scene handles cell) ∧
      AllLieIn scene handles grid (index + 1) children

end

variable {scene : Scene α} {handles : Scene.Handles α} {box : FigureBox α}

theorem AllLieIn.exists_cell {grid : SceneGrid α} {start index : Nat} {children : List (Node α)}
    (lie : AllLieIn scene handles grid start children) {child : Node α}
    (found : children[index]? = some child) :
    ∃ cell, grid.cellBox (start + index) = .ok cell ∧ child.LiesIn scene handles cell := by
  induction children generalizing start index with
  | nil => cases found
  | cons first children ih =>
    rw [AllLieIn] at lie
    cases index with
    | zero =>
      cases found
      exact lie.1
    | succ index =>
      rcases ih lie.2 found with ⟨cell, known, inside⟩
      exact ⟨cell, by rw [← known]; congr 1; omega, inside⟩

theorem LiesIn.nodeBox? {node : Node α} (lies : node.LiesIn scene handles box) {id : String}
    (named : node.id? = some id) : scene.nodeBox? handles node = some box := by
  cases node with
  | leaf contents => exact lies
  | blank region => cases named
  | split cut children =>
    rw [LiesIn, Scene.gridOf?] at lies
    rcases Option.bind_eq_some_iff.1 lies.1 with ⟨handle, known, found⟩
    exact Option.bind_eq_some_iff.2 ⟨handle, known, by rw [Scene.gridBox?, found]; rfl⟩

end Node

/-! ## From the calls to the boxes -/

namespace DrawnNode

variable [Scalar α] {handles : Scene.Handles α} {final : Scene α} {figure : SceneFigure α}

mutual

/-- A node that was drawn lies in the box that its parent stands for. -/
theorem liesIn_of_runs {before after : Scene α} {parent : Option (GridHandle × Nat)}
    {box : FigureBox α} (drawn : DrawnNode α GridHandle AxisHandle)
    (runs : (Canvas.scene α).Runs before (drawn.calls figure parent) after)
    (later : after.Extends final) (placed : before.placementBox parent = .ok box)
    (axes : ∀ entry ∈ drawn.axes, handles.axes.get? entry.1 = some entry.2)
    (grids : ∀ entry ∈ drawn.grids, handles.grids.get? entry.1 = some entry.2) :
    drawn.node.LiesIn final handles box := by
  cases drawn with
  | blank region => trivial
  | leaf contents axis =>
    rw [calls] at runs
    cases runs with
    | cons first rest =>
      cases rest
      cases first with
      | axis called =>
        rcases addAxis_ok_iff.1 called with ⟨own, known, rfl, rfl⟩
        cases placed.symm.trans known
        exact Option.bind_eq_some_iff.2 ⟨_, axes _ List.mem_cons_self,
          later.axis List.getElem?_concat_length⟩
  | split cut grid children =>
    rw [calls] at runs
    cases runs with
    | cons first rest =>
      cases first with
      | grid called =>
        rcases addGrid_ok_iff.1 called with ⟨fits, own, known, rfl, rfl⟩
        cases placed.symm.trans known
        rw [node, Node.LiesIn, length_nodesOfAll]
        rw [DrawnNode.grids, List.forall_mem_cons] at grids
        have kept := ((Scene.extends_of_runs rest).trans later).grid List.getElem?_concat_length
        constructor
        · exact Option.bind_eq_some_iff.2 ⟨_, grids.1, kept⟩
        · refine allLieIn_of_runs children rest later List.getElem?_concat_length fits ?_ axes grids.2
          rw [GridRequest.cellCount_ofCut]
          omega

/-- Nodes that were drawn in the cells of a grid lie in their boxes. -/
theorem allLieIn_of_runs {before after : Scene α} {handle : GridHandle} {grid : SceneGrid α}
    {index : Nat} (children : List (DrawnNode α GridHandle AxisHandle))
    (runs : (Canvas.scene α).Runs before (callsOfAll figure handle index children) after)
    (later : after.Extends final) (found : before.grids[handle.index]? = some grid)
    (fits : grid.request.fits = true)
    (inside : index + children.length ≤ grid.request.nrows * grid.request.ncols)
    (axes : ∀ entry ∈ axesOfAll children, handles.axes.get? entry.1 = some entry.2)
    (grids : ∀ entry ∈ gridsOfAll children, handles.grids.get? entry.1 = some entry.2) :
    Node.AllLieIn final handles grid index (nodesOfAll children) := by
  cases children with
  | nil => trivial
  | cons child children =>
    rw [callsOfAll] at runs
    rcases runs.of_append with ⟨between, own, rest⟩
    rw [axesOfAll, List.forall_mem_append] at axes
    rw [gridsOfAll, List.forall_mem_append] at grids
    rw [List.length_cons] at inside
    have within : index < grid.request.nrows * grid.request.ncols := by omega
    rcases grid.exists_cellBox fits within with ⟨cell, known⟩
    have placed : before.placementBox (some (handle, index)) = .ok cell :=
      (Scene.placementBox_cell found index).trans known
    rw [nodesOfAll, Node.AllLieIn]
    exact ⟨⟨cell, known, liesIn_of_runs child own ((Scene.extends_of_runs rest).trans later) placed
        axes.1 grids.1⟩,
      allLieIn_of_runs children rest later ((Scene.extends_of_runs own).grid found) fits (by omega)
        axes.2 grids.2⟩

end

end DrawnNode

/-- A tree that has names and labels of its own for all nodes, and whose grids fit, is drawn on
every scene, with its root in the box within the margins. -/
theorem PartitionTree.exists_liesIn [Scalar α] (tree : PartitionTree α) (fits : tree.root.Fits)
    (names : (tree.root.splits.map fun split => split.1.id).Nodup)
    (labels : (tree.root.leaves.map Leaf.label).Nodup) (size : FigureSize α) (dpi : α)
    (scene : Scene α) :
    ∃ handles after, tree.drawSized size dpi (Canvas.scene α) scene = .ok handles after ∧
      tree.root.LiesIn after handles scene.outerBox := by
  have empty : scene.Keeps [] := fun handle cellCount listed => nomatch listed
  rcases DrawnNode.exists_drawing Canvas.scene_serves tree size dpi fits names empty with
    ⟨figure, drawn, after, same, runs, drawing, -⟩
  refine ⟨_, after, drawing, ?_⟩
  cases runs with
  | cons first rest =>
    cases first with
    | figure called =>
      cases called
      rw [← same] at names labels ⊢
      rw [← DrawnNode.map_fst_axes] at labels
      rw [← DrawnNode.map_fst_grids] at names
      have axes : (Table.putAll [] drawn.axes).Perm drawn.axes := Table.perm_putAll labels
      have grids : (Table.putAll [] drawn.grids).Perm drawn.grids := Table.perm_putAll names
      have placed : scene.placementBox none = .ok scene.outerBox := rfl
      refine DrawnNode.liesIn_of_runs drawn rest (Scene.Extends.refl after) placed ?_ ?_
      · exact fun entry member => (Table.get?_eq_some_iff
          ((axes.map Prod.fst).nodup_iff.2 labels)).2 (axes.mem_iff.2 member)
      · exact fun entry member => (Table.get?_eq_some_iff
          ((grids.map Prod.fst).nodup_iff.2 names)).2 (grids.mem_iff.2 member)

end Mosaic
