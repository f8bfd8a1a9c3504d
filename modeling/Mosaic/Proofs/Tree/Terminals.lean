import Mosaic.Tree.Basic

/-!
# The ends of a partition tree

The nodes without children are the leaves and the empty regions.  Those of a split
are those of its children, one child after the other, and so are its leaves and the
splits below it.
-/

namespace Mosaic
namespace Node

variable {α : Type}

def isTerminal : Node α → Bool
  | leaf _ => true
  | split _ _ => false
  | blank _ => true

/-- The leaves and empty regions below a node, in the order of the tree. -/
def terminals (node : Node α) : List (Node α) :=
  node.descendants.filter isTerminal

/-- The leaves below a node, in the order of the tree. -/
def leaves (node : Node α) : List Leaf :=
  node.descendants.filterMap leaf?

/-- The splits below a node, in the order of the tree, each with the number of its
children. -/
def splits (node : Node α) : List (Cut α × Nat) :=
  node.descendants.filterMap cut?

/-- What a node shows in each cell of its region, if it shows one thing. -/
def cell? : Node α → Option Cell
  | leaf contents => some (.label contents.label)
  | split _ _ => none
  | blank _ => some .blank

theorem terminals_leaf (contents : Leaf) : (leaf contents : Node α).terminals = [leaf contents] := by
  rw [terminals, descendants_leaf]
  rfl

theorem terminals_blank (region : CellRect) : (blank region : Node α).terminals = [blank region] := by
  rw [terminals, descendants_blank]
  rfl

theorem terminals_split (cut : Cut α) (children : List (Node α)) :
    (split cut children).terminals = children.flatMap terminals := by
  unfold terminals
  rw [descendants_split, List.filter_cons_of_neg Bool.false_ne_true,
    List.filter_flatMap]

theorem leaves_leaf (contents : Leaf) : (leaf contents : Node α).leaves = [contents] := by
  rw [leaves, descendants_leaf]
  rfl

theorem leaves_blank (region : CellRect) : (blank region : Node α).leaves = [] := by
  rw [leaves, descendants_blank]
  rfl

theorem leaves_split (cut : Cut α) (children : List (Node α)) :
    (split cut children).leaves = children.flatMap leaves := by
  unfold leaves
  rw [descendants_split, List.filterMap_cons_none rfl,
    List.filterMap_flatMap]

theorem splits_leaf (contents : Leaf) : (leaf contents : Node α).splits = [] := by
  rw [splits, descendants_leaf]
  rfl

theorem splits_blank (region : CellRect) : (blank region : Node α).splits = [] := by
  rw [splits, descendants_blank]
  rfl

theorem splits_split (cut : Cut α) (children : List (Node α)) :
    (split cut children).splits = (cut, children.length) :: children.flatMap splits := by
  unfold splits
  rw [descendants_split, List.filterMap_cons, List.filterMap_flatMap]
  rfl

theorem mem_splits_iff {node : Node α} {cut : Cut α} {childCount : Nat} :
    (cut, childCount) ∈ node.splits ↔
      ∃ children, split cut children ∈ node.descendants ∧ children.length = childCount := by
  unfold splits
  rw [List.mem_filterMap]
  constructor
  · rintro ⟨other, member, found⟩
    cases other with
    | split known children =>
      cases found
      exact ⟨children, member, rfl⟩
    | leaf contents => cases found
    | blank region => cases found
  · rintro ⟨children, member, rfl⟩
    exact ⟨_, member, rfl⟩

end Node
end Mosaic
