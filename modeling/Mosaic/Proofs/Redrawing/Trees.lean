import Mosaic.Proofs.Partition.Determined
import Mosaic.Proofs.Redrawing.Regions

/-!
# Trees of a redrawn drawing

A tree is redrawn by moving the region of every node; where lines turn round, the children
of a split turn round as well.  Since a redrawn region has the moved cuts, the redrawn
partition of a region is the partition of the redrawn region.  A region that cannot be
cut is reached again too, so both drawings have a partition or neither has one.  Names
depend on the labels of a node and of its parent, not on what was named before, and so
they stay.
-/

namespace Mosaic

variable {α : Type}

/-- The same cut of the moved region. -/
def Cut.redrawn (change : Orientation → LineMap) (cut : Cut α) : Cut α where
  id := cut.id
  orientation := cut.orientation
  region := cut.region.redrawn change
  depth := cut.depth
  ratios := (change cut.orientation).arrange
    (cut.ratios.map fun ratio => ratio * (change cut.orientation).scale)
  spacing := cut.spacing

namespace Node

mutual

/-- The same tree over the moved regions, with the children of each split in their new
order. -/
def redrawn (change : Orientation → LineMap) : Node α → Node α
  | leaf contents => leaf { contents with region := contents.region.redrawn change }
  | split cut children =>
    split (cut.redrawn change) ((change cut.orientation).arrange (redrawnAll change children))
  | blank region => blank (region.redrawn change)

def redrawnAll (change : Orientation → LineMap) : List (Node α) → List (Node α)
  | [] => []
  | child :: children => child.redrawn change :: redrawnAll change children

end

variable (change : Orientation → LineMap)

theorem redrawnAll_eq_map (children : List (Node α)) :
    redrawnAll change children = children.map (redrawn change) := by
  induction children with
  | nil => rfl
  | cons child children ih => rw [redrawnAll, ih, List.map_cons]

theorem redrawn_split (cut : Cut α) (children : List (Node α)) :
    (split cut children).redrawn change =
      split (cut.redrawn change)
        ((change cut.orientation).arrange (children.map (redrawn change))) := by
  rw [redrawn, redrawnAll_eq_map]

theorem region_redrawn (node : Node α) :
    (node.redrawn change).region = node.region.redrawn change := by
  cases node <;> rfl

end Node

namespace Redraws

variable {change : Orientation → LineMap} {bounds region other : CellRect}
  {labels others members inner : List LabelRegion} {spacingAt : Nat → Spacing α}
  {parent : Option (List Char)} {depth : Nat}

/-! ## Splits -/

/-- Pieces of a region that is inside are inside. -/
private theorem piece_partOf (frames : Frames labels region members)
    (inside : bounds.contains region = true) {orientation : Orientation} {piece : Span}
    (member : piece ∈ region.pieces orientation members) :
    piece.PartOf (bounds.along orientation) := by
  have held := CellRect.contains_trans inside (frames.contains_piece member)
  have part := (frames.piece member).upright.partOf held orientation
  rwa [CellRect.along_slice] at part

/-- What is known about a split is known about the redrawn one. -/
theorem madeAt (redraws : Redraws change bounds labels others) {cut : Cut α}
    {children : List (Node α)} (made : cut.MadeAt spacingAt labels members depth children)
    (inside : bounds.contains cut.region = true) :
    (cut.redrawn change).MadeAt spacingAt others ((cut.region.redrawn change).membersIn others)
      depth ((change cut.orientation).arrange (children.map (Node.redrawn change))) := by
  have frames := made.frames
  have pieces := redraws.pieces_eq frames inside cut.orientation
  constructor
  · exact redraws.frames frames inside
  · exact (redraws.cutInto_iff frames inside).2 made.cutInto
  · exact made.level
  · exact made.spaced
  · change LineMap.arrange _ _ = ((cut.region.redrawn change).pieces cut.orientation _).map _
    rw [pieces, LineMap.map_arrange, made.ratios, List.map_map, List.map_map]
    congr 1
    apply List.map_congr_left
    intro piece member
    exact ((redraws.regular _).size_span (piece_partOf frames inside member)).symm
  · change _ = (cut.region.redrawn change).pieces cut.orientation _
    rw [pieces, ← made.spans, LineMap.map_arrange, List.map_map, List.map_map]
    congr 1
    apply List.map_congr_left
    intro child member
    change (child.redrawn change).region.along cut.orientation = _
    rw [Node.region_redrawn, CellRect.along_redrawn]
    rfl
  · intro child member
    rw [LineMap.mem_arrange] at member
    rcases List.mem_map.1 member with ⟨old, found, rfl⟩
    change _ = (cut.region.redrawn change).slice cut.orientation (CellRect.along _ cut.orientation)
    rw [Node.region_redrawn, CellRect.along_redrawn, ← CellRect.slice_redrawn]
    exact congrArg (CellRect.redrawn change) (made.across old found)

theorem sortedLabels_eq (redraws : Redraws change bounds labels others)
    (frames : Frames labels region members) (inside : bounds.contains region = true) :
    LabelRegion.sortedLabels ((region.redrawn change).membersIn others) =
      LabelRegion.sortedLabels members := by
  apply NodeName.sorted_eq_of_perm
  have same := (redraws.perm_membersIn frames inside).map LabelRegion.label
  rwa [List.map_map] at same

/-! ## Partitions -/

/-- A redrawn partition is the partition of the redrawn region. -/
theorem isPartition (redraws : Redraws change bounds labels others) {node : Node α}
    (partition : node.IsPartition spacingAt labels parent depth)
    (inside : bounds.contains node.region = true) :
    (node.redrawn change).IsPartition spacingAt others parent depth := by
  induction partition with
  | blank frames =>
    have framed := redraws.frames frames inside
    rw [List.perm_nil.1 (redraws.perm_membersIn frames inside)] at framed
    exact .blank framed
  | @leaf _ _ label frames =>
    have framed := redraws.frames frames inside
    rw [List.perm_singleton.1 (redraws.perm_membersIn frames inside)] at framed
    exact @Node.IsPartition.leaf _ _ _ _ _ (label.redrawn change) framed
  | @split _ _ members cut children made named below ih =>
    have kept := redraws.sortedLabels_eq made.frames inside
    rw [Node.redrawn_split]
    apply Node.IsPartition.split (redraws.madeAt made inside)
    · rw [kept]
      exact named
    · intro child member
      rw [LineMap.mem_arrange] at member
      rcases List.mem_map.1 member with ⟨old, found, rfl⟩
      have held := made.frames.contains_piece (made.mem_pieces found)
      rw [← made.across old found] at held
      rw [kept]
      exact ih old found (CellRect.contains_trans inside held)

/-- The regions that are reached are redrawn. -/
theorem reached (redraws : Redraws change bounds labels others)
    (frames : Frames labels region members) (inside : bounds.contains region = true)
    (reached : Reached region members other inner) :
    Reached (region.redrawn change) ((region.redrawn change).membersIn others)
      (other.redrawn change) ((other.redrawn change).membersIn others) := by
  induction reached with
  | here region members => exact .here _ _
  | @piece region other members inner orientation piece cutInto member deeper ih =>
    have moved : (change orientation).span piece ∈
        (region.redrawn change).pieces orientation ((region.redrawn change).membersIn others) := by
      rw [redraws.pieces_eq frames inside, LineMap.mem_arrange]
      exact List.mem_map_of_mem member
    have framed := (redraws.frames frames inside).piece moved
    have held := CellRect.contains_trans inside (frames.contains_piece member)
    apply Reached.piece ((redraws.cutInto_iff frames inside).2 cutInto) moved
    rw [framed.members_eq, ← CellRect.slice_redrawn]
    exact ih (frames.piece member) held

end Redraws

/-! ## Whole drawings -/

/-- Two drawings of which one is the other one redrawn. -/
structure ArtGrid.RedrawnAs (change : Orientation → LineMap) (grid other : ArtGrid) : Prop where
  solid : grid.Solid
  otherSolid : other.Solid
  redraws : Redraws change grid.bounds grid.labels other.labels
  bounds : other.bounds = grid.bounds.redrawn change

namespace ArtGrid.RedrawnAs

variable {change : Orientation → LineMap} {grid other : ArtGrid} {settings : Settings}

/-- The partition of a drawing, redrawn, is that of the redrawn drawing. -/
theorem partition_ok (drawn : grid.RedrawnAs change other) {tree : PartitionTree Float}
    (made : grid.partition settings = .ok tree) :
    other.partition settings = .ok
      { root := tree.root.redrawn change, rows := other.rows, cols := other.cols
        labels := other.labels } := by
  have valid := valid_of_partition_ok made
  rcases (drawn.solid.partition_eq_ok_iff valid).1 made with ⟨-, whole, partition⟩
  rw [drawn.otherSolid.partition_eq_ok_iff valid]
  refine ⟨⟨rfl, rfl, rfl⟩, ?_, ?_⟩
  · change (tree.root.redrawn change).region = _
    rw [Node.region_redrawn, whole, drawn.bounds]
  · exact drawn.redraws.isPartition partition (whole ▸ CellRect.contains_refl _)

/-- A drawing without partition has none when it is redrawn. -/
theorem exists_ok (drawn : grid.RedrawnAs change other) {tree : PartitionTree Float}
    (made : other.partition settings = .ok tree) : ∃ tree, grid.partition settings = .ok tree := by
  cases done : grid.partition settings with
  | ok old => exact ⟨old, rfl⟩
  | error fault =>
    rcases partition_error (valid_of_partition_ok made) done with
      ⟨region, members, reached, stuck, -⟩
    have frames := drawn.solid.frames
    have inside := CellRect.contains_refl grid.bounds
    have moved := drawn.redraws.reached frames inside reached
    rw [← drawn.bounds, ← drawn.otherSolid.frames.members_eq] at moved
    have stopped := (drawn.redraws.stuck_iff (frames.reached reached)
      (frames.contains_reached reached)).2 stuck
    exact absurd stopped (drawn.otherSolid.not_stuck_of_partition made moved)

theorem exists_ok_iff (drawn : grid.RedrawnAs change other) :
    (∃ tree, other.partition settings = .ok tree) ↔ ∃ tree, grid.partition settings = .ok tree :=
  ⟨fun ⟨_, made⟩ => drawn.exists_ok made, fun ⟨_, made⟩ => ⟨_, drawn.partition_ok made⟩⟩

end ArtGrid.RedrawnAs

/-- Drawings that have partitions under the same settings, and roots of which one is the other
one redrawn. -/
structure ArtGrid.PartitionedAlike (change : Orientation → LineMap) (grid other : ArtGrid) :
    Prop where
  exists_iff : ∀ settings, (∃ tree, other.partition settings = .ok tree) ↔
    ∃ tree, grid.partition settings = .ok tree
  root_eq : ∀ settings tree otherTree, grid.partition settings = .ok tree →
    other.partition settings = .ok otherTree → otherTree.root = tree.root.redrawn change

theorem ArtGrid.RedrawnAs.partitionedAlike {change : Orientation → LineMap} {grid other : ArtGrid}
    (drawn : grid.RedrawnAs change other) : grid.PartitionedAlike change other := by
  constructor
  · exact fun settings => drawn.exists_ok_iff
  · intro settings tree otherTree made otherMade
    rw [drawn.partition_ok made] at otherMade
    cases otherMade
    rfl

end Mosaic
