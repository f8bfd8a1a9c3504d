import Mosaic.Proofs.Canvas.Answers
import Mosaic.Proofs.Canvas.Painting
import Mosaic.Proofs.Table
import Mosaic.Proofs.Tree.Terminals

/-!
# Trees as they are drawn

A drawn tree keeps with every split the grid that was made for it, and with every
leaf its axis.  The calls that make them are read off the drawn tree: each names the
grid that the split above it keeps.  Drawing looks this grid up by name instead.  As
long as no two splits share a name, what is looked up is the grid of the split above,
and drawing a tree is carrying out the calls of a drawn one.
-/

namespace Mosaic

variable {α σ Figure Grid Axis : Type}

/-- A tree with what was made for its nodes. -/
inductive DrawnNode (α Grid Axis : Type) where
  | leaf (contents : Leaf) (axis : Axis)
  | split (cut : Cut α) (grid : Grid) (children : List (DrawnNode α Grid Axis))
  | blank (region : CellRect)

namespace DrawnNode

mutual

/-- The tree that was drawn. -/
def node : DrawnNode α Grid Axis → Node α
  | leaf contents _ => .leaf contents
  | split cut _ children => .split cut (nodesOfAll children)
  | blank region => .blank region

def nodesOfAll : List (DrawnNode α Grid Axis) → List (Node α)
  | [] => []
  | child :: children => child.node :: nodesOfAll children

end

mutual

/-- The axes that were made, under their labels. -/
def axes : DrawnNode α Grid Axis → List (Char × Axis)
  | leaf contents axis => [(contents.label, axis)]
  | split _ _ children => axesOfAll children
  | blank _ => []

/-- The axes of several drawn trees. -/
def axesOfAll : List (DrawnNode α Grid Axis) → List (Char × Axis)
  | [] => []
  | child :: children => child.axes ++ axesOfAll children

end

mutual

/-- The grids that were made, under the names of their splits. -/
def grids : DrawnNode α Grid Axis → List (String × Grid)
  | leaf _ _ => []
  | split cut grid children => (cut.id, grid) :: gridsOfAll children
  | blank _ => []

def gridsOfAll : List (DrawnNode α Grid Axis) → List (String × Grid)
  | [] => []
  | child :: children => child.grids ++ gridsOfAll children

end

variable [Scalar α]

mutual

/-- The calls that draw a node with the given parent, and everything below it. -/
def calls (figure : Figure) (parent : Option (Grid × Nat)) :
    DrawnNode α Grid Axis → List (AnsweredCall α Figure Grid Axis)
  | leaf _ axis => [.axis figure parent axis]
  | split cut grid children =>
    .grid figure parent (GridRequest.ofCut cut children.length) grid ::
      callsOfAll figure grid 0 children
  | blank _ => []

/-- The calls that draw several nodes, which lie in the cells of a grid from `index` on. -/
def callsOfAll (figure : Figure) (grid : Grid) (index : Nat) :
    List (DrawnNode α Grid Axis) → List (AnsweredCall α Figure Grid Axis)
  | [] => []
  | child :: children =>
    child.calls figure (some (grid, index)) ++ callsOfAll figure grid (index + 1) children

end

end DrawnNode

/-! ## What was made -/

namespace DrawnNode

theorem nodesOfAll_eq_map (children : List (DrawnNode α Grid Axis)) :
    nodesOfAll children = children.map node := by
  induction children with
  | nil => rfl
  | cons child children ih => rw [nodesOfAll, ih, List.map_cons]

theorem length_nodesOfAll (children : List (DrawnNode α Grid Axis)) :
    (nodesOfAll children).length = children.length := by
  rw [nodesOfAll_eq_map, List.length_map]

mutual

theorem map_fst_axes (drawn : DrawnNode α Grid Axis) :
    drawn.axes.map Prod.fst = drawn.node.leaves.map Leaf.label := by
  cases drawn with
  | leaf contents axis =>
    rw [node, Node.leaves_leaf]
    rfl
  | split cut grid children =>
    rw [axes, node, Node.leaves_split]
    exact map_fst_axesOfAll children
  | blank region =>
    rw [node, Node.leaves_blank]
    rfl

theorem map_fst_axesOfAll (children : List (DrawnNode α Grid Axis)) :
    (axesOfAll children).map Prod.fst =
      ((nodesOfAll children).flatMap Node.leaves).map Leaf.label := by
  cases children with
  | nil => rfl
  | cons child children =>
    rw [axesOfAll, nodesOfAll, List.flatMap_cons, List.map_append, List.map_append,
      map_fst_axes child, map_fst_axesOfAll children]

end

mutual

theorem map_fst_grids (drawn : DrawnNode α Grid Axis) :
    drawn.grids.map Prod.fst = drawn.node.splits.map fun split => split.1.id := by
  cases drawn with
  | leaf contents axis =>
    rw [node, Node.splits_leaf]
    rfl
  | split cut grid children =>
    rw [grids, node, Node.splits_split, List.map_cons, List.map_cons,
      map_fst_gridsOfAll children]
  | blank region =>
    rw [node, Node.splits_blank]
    rfl

theorem map_fst_gridsOfAll (children : List (DrawnNode α Grid Axis)) :
    (gridsOfAll children).map Prod.fst =
      ((nodesOfAll children).flatMap Node.splits).map fun split => split.1.id := by
  cases children with
  | nil => rfl
  | cons child children =>
    rw [gridsOfAll, nodesOfAll, List.flatMap_cons, List.map_append, List.map_append,
      map_fst_grids child, map_fst_gridsOfAll children]

end

section Calls

variable [Scalar α]

mutual

/-- The calls make the axes of the tree, in its order. -/
theorem axes_of_calls (figure : Figure) (parent : Option (Grid × Nat))
    (drawn : DrawnNode α Grid Axis) :
    (drawn.calls figure parent).filterMap AnsweredCall.axis? = drawn.axes.map Prod.snd := by
  cases drawn with
  | leaf contents axis => rfl
  | blank region => rfl
  | split cut grid children =>
    rw [calls, axes, List.filterMap_cons_none rfl]
    exact axes_of_callsOfAll figure grid 0 children

theorem axes_of_callsOfAll (figure : Figure) (grid : Grid) (index : Nat)
    (children : List (DrawnNode α Grid Axis)) :
    (callsOfAll figure grid index children).filterMap AnsweredCall.axis? =
      (axesOfAll children).map Prod.snd := by
  cases children with
  | nil => rfl
  | cons child children =>
    rw [callsOfAll, axesOfAll, List.filterMap_append, List.map_append, axes_of_calls,
      axes_of_callsOfAll figure grid (index + 1) children]

end

end Calls

/-! ## Drawing is carrying out the calls -/

section Walk

variable [Scalar α] {canvas : Canvas α σ Figure Grid Axis} {figure : Figure}
  {state between after : σ} {axesSoFar : Table Char Axis} {gridsSoFar : Table String Grid}

/-- A leaf is painted by one call in the cell that its slot stands for. -/
private theorem onLeaf_eq {contents : Leaf} {slot : Slot} {parent : Option (Grid × Nat)} {axis : Axis}
    (placed : parentOf? gridsSoFar slot = .ok parent)
    (called : canvas.axis figure parent state = .ok axis after) :
    (canvas.painter figure).onLeaf contents slot ⟨state, axesSoFar, gridsSoFar⟩ =
      .ok () ⟨after, axesSoFar.put contents.label axis, gridsSoFar⟩ := by
  unfold Canvas.painter Drawing.parent Drawing.call
  dsimp only [bind, EStateM.bind, get, getThe, MonadStateOf.get, EStateM.get]
  rw [placed]
  dsimp only [pure, EStateM.pure]
  rw [called]
  rfl

/-- So is a split. -/
private theorem onSplit_eq {cut : Cut α} {children : List (Node α)} {slot : Slot}
    {parent : Option (Grid × Nat)} {grid : Grid}
    (placed : parentOf? gridsSoFar slot = .ok parent)
    (called : canvas.grid figure parent (GridRequest.ofCut cut children.length) state =
      .ok grid between) :
    (canvas.painter figure).onSplit cut children slot ⟨state, axesSoFar, gridsSoFar⟩ =
      .ok () ⟨between, axesSoFar, gridsSoFar.put cut.id grid⟩ := by
  unfold Canvas.painter Drawing.parent Drawing.call
  dsimp only [bind, EStateM.bind, get, getThe, MonadStateOf.get, EStateM.get]
  rw [placed]
  dsimp only [pure, EStateM.pure]
  rw [called]
  rfl

mutual

/-- Walking a tree carries out the calls of the drawn one.  The induction is on the tree.
What is made below a split never replaces its own grid in the table, so the grid is still
found when the next child is placed. -/
theorem walk_node {state after : σ} {gridsSoFar : Table String Grid}
    (drawn : DrawnNode α Grid Axis) (axesSoFar : Table Char Axis) {slot : Slot}
    {parent : Option (Grid × Nat)}
    (runs : canvas.Runs state (drawn.calls figure parent) after)
    (placed : parentOf? gridsSoFar slot = .ok parent)
    (distinct : (drawn.grids.map Prod.fst).Nodup) :
    drawn.node.walk (canvas.painter figure) slot ⟨state, axesSoFar, gridsSoFar⟩ =
      .ok () ⟨after, axesSoFar.putAll drawn.axes, gridsSoFar.putAll drawn.grids⟩ := by
  cases drawn with
  | leaf contents axis =>
    rw [calls] at runs
    cases runs with
    | cons first later =>
      cases later
      cases first with
      | axis called =>
        rw [node, Node.walk, onLeaf_eq placed called]
        rfl
  | blank region =>
    rw [calls] at runs
    cases runs
    rw [node, Node.walk]
    rfl
  | split cut grid children =>
    rw [calls] at runs
    cases runs with
    | cons first later =>
      cases first with
      | grid called =>
        have rest := walkAll_nodes children axesSoFar later
          (Table.get?_put_self gridsSoFar cut.id grid) distinct
        rw [← length_nodesOfAll children] at called
        rw [node, Node.walk]
        change EStateM.bind _ _ _ = _
        unfold EStateM.bind
        rw [onSplit_eq placed called]
        exact rest

/-- The same for several trees in the cells of a grid that is known by name. -/
theorem walkAll_nodes {state after : σ} {gridsSoFar : Table String Grid}
    (children : List (DrawnNode α Grid Axis)) (axesSoFar : Table Char Axis) {name : String}
    {grid : Grid} {index : Nat} (runs : canvas.Runs state (callsOfAll figure grid index children) after)
    (known : gridsSoFar.get? name = some grid)
    (distinct : (name :: (gridsOfAll children).map Prod.fst).Nodup) :
    Node.walkAll (canvas.painter figure) name index (nodesOfAll children)
        ⟨state, axesSoFar, gridsSoFar⟩ =
      .ok () ⟨after, axesSoFar.putAll (axesOfAll children),
        gridsSoFar.putAll (gridsOfAll children)⟩ := by
  cases children with
  | nil =>
    rw [callsOfAll] at runs
    cases runs
    rw [nodesOfAll, Node.walkAll]
    rfl
  | cons child children =>
    rw [callsOfAll] at runs
    rcases runs.of_append with ⟨between, own, later⟩
    rw [gridsOfAll, List.map_append, List.nodup_cons, List.mem_append, not_or,
      List.nodup_append] at distinct
    rcases distinct with ⟨⟨fresh, freshLater⟩, nodup, nodupLater, -⟩
    have placed : parentOf? gridsSoFar (.cell name index) = .ok (some (grid, index)) := by
      unfold parentOf?
      dsimp only
      rw [known]
    have first := walk_node child axesSoFar own placed nodup
    have still : (gridsSoFar.putAll child.grids).get? name = some grid := by
      rw [Table.get?_putAll_of_not_mem fresh, known]
    have rest := walkAll_nodes children (axesSoFar.putAll child.axes) later still
      (List.nodup_cons.2 ⟨freshLater, nodupLater⟩)
    rw [axesOfAll, gridsOfAll, Table.putAll_append, Table.putAll_append, nodesOfAll, Node.walkAll]
    change EStateM.bind _ _ _ = _
    unfold EStateM.bind
    rw [first]
    exact rest

end

end Walk

/-- Drawing a tree is making a figure and carrying out the calls of a drawn tree, if these
calls succeed and no two splits have the same name. -/
theorem drawSized_eq [Scalar α] {canvas : Canvas α σ Figure Grid Axis} {state started after : σ}
    {size : FigureSize α} {dpi : α} {figure : Figure} {tree : PartitionTree α}
    {drawn : DrawnNode α Grid Axis} (same : drawn.node = tree.root)
    (figured : canvas.figure size dpi state = .ok figure started)
    (runs : canvas.Runs started (drawn.calls figure none) after)
    (distinct : (drawn.grids.map Prod.fst).Nodup) :
    tree.drawSized size dpi canvas state =
      .ok ⟨figure, Table.putAll [] drawn.axes, Table.putAll [] drawn.grids⟩ after := by
  have placed : parentOf? ([] : Table String Grid) .figure = .ok none := rfl
  have walked := walk_node drawn [] runs placed distinct
  rw [same] at walked
  rw [PartitionTree.drawSized_apply, figured]
  unfold PartitionTree.walk Drawing.start
  dsimp only
  rw [walked]

end DrawnNode
end Mosaic
