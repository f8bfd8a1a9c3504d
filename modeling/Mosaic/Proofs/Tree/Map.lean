import Mosaic.Proofs.Tree.Terminals

/-!
# Trees with other spacing

The spacing of the splits is the only part of a tree that is measured in numbers of
some kind.  Reading it as other numbers leaves everything else as it is.
-/

namespace Mosaic

variable {α β : Type}

/-- The same spacing in other numbers. -/
def Spacing.map (value : α → β) (spacing : Spacing α) : Spacing β :=
  ⟨spacing.wspace.map value, spacing.hspace.map value⟩

/-- The same cut with its spacing in other numbers. -/
def Cut.map (value : α → β) (cut : Cut α) : Cut β where
  id := cut.id
  orientation := cut.orientation
  region := cut.region
  depth := cut.depth
  ratios := cut.ratios
  spacing := cut.spacing.map value

namespace Node

mutual

/-- The same node with all spacing in other numbers. -/
def map (value : α → β) : Node α → Node β
  | leaf contents => leaf contents
  | split cut children => split (cut.map value) (mapAll value children)
  | blank region => blank region

def mapAll (value : α → β) : List (Node α) → List (Node β)
  | [] => []
  | child :: children => child.map value :: mapAll value children

end

theorem mapAll_eq_map (value : α → β) (children : List (Node α)) :
    mapAll value children = children.map (map value) := by
  induction children with
  | nil => rfl
  | cons child children ih => rw [mapAll, ih, List.map_cons]

mutual

theorem leaves_map (value : α → β) (node : Node α) : (node.map value).leaves = node.leaves := by
  cases node with
  | leaf contents => rw [map, leaves_leaf, leaves_leaf]
  | blank region => rw [map, leaves_blank, leaves_blank]
  | split cut children =>
    rw [map, leaves_split, leaves_split]
    exact leaves_mapAll value children

theorem leaves_mapAll (value : α → β) (children : List (Node α)) :
    (mapAll value children).flatMap leaves = children.flatMap leaves := by
  cases children with
  | nil => rfl
  | cons child children =>
    rw [mapAll, List.flatMap_cons, List.flatMap_cons, leaves_map value child,
      leaves_mapAll value children]

end

mutual

theorem splits_map (value : α → β) (node : Node α) :
    (node.map value).splits = node.splits.map fun split => (split.1.map value, split.2) := by
  cases node with
  | leaf contents => rw [map, splits_leaf, splits_leaf, List.map_nil]
  | blank region => rw [map, splits_blank, splits_blank, List.map_nil]
  | split cut children =>
    have below := splits_mapAll value children
    rw [map, splits_split, splits_split, List.map_cons, below, mapAll_eq_map, List.length_map]

theorem splits_mapAll (value : α → β) (children : List (Node α)) :
    (mapAll value children).flatMap splits =
      (children.flatMap splits).map fun split => (split.1.map value, split.2) := by
  cases children with
  | nil => rfl
  | cons child children =>
    rw [mapAll, List.flatMap_cons, List.flatMap_cons, List.map_append, splits_map value child,
      splits_mapAll value children]

end

end Node

def PartitionTree.map (value : α → β) (tree : PartitionTree α) : PartitionTree β where
  root := tree.root.map value
  rows := tree.rows
  cols := tree.cols
  labels := tree.labels

end Mosaic
