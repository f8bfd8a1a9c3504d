import Mosaic.Art.Grid
import Mosaic.Settings.Basic

/-!
Partition trees.  A node is a leaf that shows one label, an empty region, or a
region cut into children along one direction.  A tree also keeps the size and
the labels of the drawing it was made from.

Trees are built by cutting up a drawing, but nothing here relies on that: every
function is meant for any tree.
-/

namespace Mosaic

/-- A region that shows one label. -/
structure Leaf where
  id : String
  label : Char
  region : CellRect
  deriving DecidableEq, Repr

/-- How a region is cut: everything about a split but its children. -/
structure Cut (α : Type) where
  id : String
  orientation : Orientation
  region : CellRect
  /-- How many splits the region lies in. -/
  depth : Nat
  /-- The extent of each child along the direction, in cells. -/
  ratios : List Nat
  spacing : Spacing α
  deriving DecidableEq, Repr

/-- A node of a partition tree. -/
inductive Node (α : Type) where
  | leaf (leaf : Leaf)
  | split (cut : Cut α) (children : List (Node α))
  | blank (region : CellRect)
  deriving Repr

/-- The partition of a drawing. -/
structure PartitionTree (α : Type) where
  root : Node α
  rows : Nat
  cols : Nat
  labels : List LabelRegion
  deriving Repr

namespace Cut

variable {α : Type}

/-- The rows and columns of the grid that a split with this many children is
drawn as. -/
def shape (cut : Cut α) (childCount : Nat) : Nat × Nat :=
  match cut.orientation with
  | .columns => (1, childCount)
  | .rows => (childCount, 1)

/-- The relative heights of the rows of that grid. -/
def heightRatios (cut : Cut α) : List Nat :=
  match cut.orientation with
  | .columns => [cut.region.height]
  | .rows => cut.ratios

def widthRatios (cut : Cut α) : List Nat :=
  match cut.orientation with
  | .columns => cut.ratios
  | .rows => [cut.region.width]

end Cut

namespace Node

variable {α : Type}

def region : Node α → CellRect
  | leaf contents => contents.region
  | split cut _ => cut.region
  | blank region => region

/-- The name of the node; empty regions have none. -/
def id? : Node α → Option String
  | leaf contents => some contents.id
  | split cut _ => some cut.id
  | blank _ => none

def children : Node α → List (Node α)
  | split _ children => children
  | _ => []

/-- What holds of a split when it holds of its children holds of every node. -/
@[elab_as_elim]
theorem induct {motive : Node α → Prop} (leaf : ∀ contents, motive (leaf contents))
    (blank : ∀ region, motive (blank region))
    (split : ∀ cut children, (∀ child ∈ children, motive child) → motive (split cut children))
    (node : Node α) : motive node := by
  match node with
  | .leaf contents => exact leaf contents
  | .blank region => exact blank region
  | .split cut children =>
    exact split cut children fun child member => induct leaf blank split child
termination_by sizeOf node
decreasing_by
  have smaller := List.sizeOf_lt_of_mem member
  simp only [Node.split.sizeOf_spec]
  omega

/-- Put nodes on a pile from the last to the first, so that the first one lies on top. -/
def pileUp (nodes pile : List (Node α)) : List (Node α) :=
  nodes.reverse.foldl (fun pile node => node :: pile) pile

theorem pileUp_eq_append (nodes pile : List (Node α)) : pileUp nodes pile = nodes ++ pile := by
  simp [pileUp]

theorem sizeOf_append (nodes pile : List (Node α)) :
    sizeOf (nodes ++ pile) + 1 = sizeOf nodes + sizeOf pile := by
  induction nodes with
  | nil => exact Nat.add_comm _ _
  | cons node nodes ih =>
    rw [List.cons_append, List.cons.sizeOf_spec, List.cons.sizeOf_spec]
    omega

theorem sizeOf_children_le (node : Node α) : sizeOf node.children ≤ sizeOf node := by
  cases node with
  | leaf contents => exact Nat.le_add_right 1 _
  | blank region => exact Nat.le_add_right 1 _
  | split cut nodes =>
    rw [children, split.sizeOf_spec]
    exact Nat.le_add_left _ _

/-- With the children of a node in its place there is less on a pile. -/
theorem sizeOf_pileUp_children_lt (node : Node α) (pile : List (Node α)) :
    sizeOf (pileUp node.children pile) < sizeOf (node :: pile) := by
  have together := sizeOf_append node.children pile
  have below := sizeOf_children_le node
  rw [pileUp_eq_append, List.cons.sizeOf_spec]
  omega

/-- The nodes of a pile in the order in which they are taken off it, when the children of
each are put in its place. -/
def unpile (pile : List (Node α)) : List (Node α) :=
  match pile with
  | [] => []
  | node :: pile => node :: unpile (pileUp node.children pile)
termination_by sizeOf pile
decreasing_by exact sizeOf_pileUp_children_lt node pile

/-- The node and everything below it, parents before children. -/
def descendants (node : Node α) : List (Node α) :=
  unpile [node]

/-- What lies on top is taken off with everything below it before the rest is reached. -/
theorem unpile_append (top pile : List (Node α)) :
    unpile (top ++ pile) = unpile top ++ unpile pile := by
  fun_induction unpile top with
  | case1 => rfl
  | case2 node top ih =>
    rw [List.cons_append, unpile, List.cons_append, ← ih, pileUp_eq_append, pileUp_eq_append,
      List.append_assoc]

theorem unpile_eq_flatMap (pile : List (Node α)) : unpile pile = pile.flatMap descendants := by
  induction pile with
  | nil => rw [unpile, List.flatMap_nil]
  | cons node pile ih =>
    rw [List.flatMap_cons, ← ih, descendants, ← unpile_append, List.singleton_append]

theorem descendants_eq (node : Node α) :
    node.descendants = node :: node.children.flatMap descendants := by
  rw [descendants, unpile, pileUp_eq_append, List.append_nil, unpile_eq_flatMap]

theorem descendants_leaf (contents : Leaf) :
    (leaf contents : Node α).descendants = [leaf contents] :=
  descendants_eq _

theorem descendants_blank (region : CellRect) :
    (blank region : Node α).descendants = [blank region] :=
  descendants_eq _

theorem descendants_split (cut : Cut α) (children : List (Node α)) :
    (split cut children).descendants = split cut children :: children.flatMap descendants :=
  descendants_eq _

def leaf? : Node α → Option Leaf
  | leaf contents => some contents
  | _ => none

/-- The cut of a node that is a split, with the number of its children. -/
def cut? : Node α → Option (Cut α × Nat)
  | split cut children => some (cut, children.length)
  | _ => none

end Node

namespace PartitionTree

variable {α : Type}

def leaves (tree : PartitionTree α) : List Leaf :=
  tree.root.descendants.filterMap Node.leaf?

/-- All splits, in the order of the tree, each with the number of its children. -/
def splits (tree : PartitionTree α) : List (Cut α × Nat) :=
  tree.root.descendants.filterMap Node.cut?

/-- How many levels of splits there are: one more than the depth of the deepest
split, and none for a single leaf. -/
def maxDepth (tree : PartitionTree α) : Nat :=
  (tree.splits.map fun split => split.1.depth + 1).foldl max 0

def find? (tree : PartitionTree α) (id : String) : Option (Node α) :=
  tree.root.descendants.find? fun node => node.id? = some id

end PartitionTree
end Mosaic
