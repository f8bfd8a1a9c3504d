import Mosaic.Proofs.Redrawing.Cells

/-!
# Drawings in a mirror

The mirror image of a drawing is a drawing.  Each line goes where it has as many rows or
columns behind it as it had before it.  Nothing becomes longer, and so the partition of
the mirror image is the mirror image of the partition.
-/

namespace Mosaic

/-- Cells in a mirror: along columns left and right are exchanged, along rows top and
bottom. -/
def mirroredCells (direction : Orientation) (cells : List (List Cell)) : List (List Cell) :=
  match direction with
  | .columns => cells.map List.reverse
  | .rows => cells.reverse

namespace ArtGrid

variable {grid other : ArtGrid} {direction : Orientation}

/-- How many rows or columns the drawing has along a direction. -/
def extent (grid : ArtGrid) : Orientation → Nat
  | .columns => grid.cols
  | .rows => grid.rows

/-- The lines of one direction are mirrored, and those across it stay. -/
def mirroring (grid : ArtGrid) (direction orientation : Orientation) : LineMap :=
  if orientation = direction then .mirror (grid.extent orientation) else .stay

theorem mirroring_self (grid : ArtGrid) (direction : Orientation) :
    grid.mirroring direction direction = .mirror (grid.extent direction) :=
  if_pos rfl

theorem mirroring_across (grid : ArtGrid) (direction : Orientation) :
    grid.mirroring direction direction.across = .stay := by
  cases direction <;> rfl

theorem scale_mirroring (grid : ArtGrid) (direction orientation : Orientation) :
    (grid.mirroring direction orientation).scale = 1 := by
  unfold mirroring
  split <;> rfl

/-- The columns of a rectangle are counted from the other side. -/
theorem redrawn_mirroring_columns (grid : ArtGrid) (rect : CellRect) :
    rect.redrawn (grid.mirroring .columns) =
      ⟨rect.top, grid.cols - (rect.right + 1), rect.bottom, grid.cols - rect.left - 1⟩ :=
  rfl

/-- Or its rows are. -/
theorem redrawn_mirroring_rows (grid : ArtGrid) (rect : CellRect) :
    rect.redrawn (grid.mirroring .rows) =
      ⟨grid.rows - (rect.bottom + 1), rect.left, grid.rows - rect.top - 1, rect.right⟩ :=
  rfl

/-- The splits along the direction have their children and ratios in reverse order. -/
theorem redrawn_mirroring_split {α : Type} (grid : ArtGrid) {cut : Cut α}
    (along : cut.orientation = direction) (children : List (Node α)) :
    (Node.split cut children).redrawn (grid.mirroring direction) =
      .split { cut with
          region := cut.region.redrawn (grid.mirroring direction)
          ratios := cut.ratios.reverse }
        (children.map (Node.redrawn (grid.mirroring direction))).reverse := by
  subst along
  rw [Node.redrawn_split, Cut.redrawn, mirroring_self]
  simp [LineMap.mirror, LineMap.arrange]

/-- The splits across it have them in the same order. -/
theorem redrawn_mirroring_split_across {α : Type} (grid : ArtGrid) {cut : Cut α}
    (across : cut.orientation = direction.across) (children : List (Node α)) :
    (Node.split cut children).redrawn (grid.mirroring direction) =
      .split { cut with region := cut.region.redrawn (grid.mirroring direction) }
        (children.map (Node.redrawn (grid.mirroring direction))) := by
  rw [Node.redrawn_split, Cut.redrawn, across, mirroring_across, ← across]
  simp [LineMap.stay, LineMap.arrange]

/-! ## The mirrored cells -/

private theorem regular_mirroring (solid : grid.Solid) (direction orientation : Orientation) :
    (grid.mirroring direction orientation).Regular (grid.bounds.along orientation) := by
  unfold mirroring
  split
  · apply LineMap.regular_mirror
    have rows := solid.rows_pos
    have cols := solid.cols_pos
    cases orientation with
    | columns => exact Nat.sub_one_lt_of_lt cols
    | rows => exact Nat.sub_one_lt_of_lt rows
  · exact LineMap.regular_stay _

private theorem getElem?_reverse_sub {α : Type} {entries : List α} {index : Nat}
    (inside : index < entries.length) :
    entries.reverse[entries.length - 1 - index]? = entries[index]? := by
  rw [List.getElem?_reverse (by omega)]
  congr 1
  omega

/-- The mirrored cells show the cells at their mirrored places. -/
theorem Solid.cellsRedrawn_mirroring (solid : grid.Solid) (direction : Orientation) :
    grid.CellsRedrawn (grid.mirroring direction) (mirroredCells direction grid.cells) := by
  have rows := solid.rows_pos
  have cols := solid.cols_pos
  have rowCount := solid.rowCount
  cases direction with
  | columns =>
    constructor
    · exact regular_mirroring solid .columns
    · rfl
    · change grid.cols - (grid.cols - 1 + 1) = 0
      omega
    · change (grid.cells.map List.reverse).length = grid.rows - 1 + 1
      rw [List.length_map]
      omega
    · intro across member
      rcases List.mem_map.1 member with ⟨old, listed, rfl⟩
      change _ = grid.cols - 0 - 1 + 1
      rw [List.length_reverse, solid.colCount old listed]
      omega
    · intro row high col wide newRow newCol rowHas colHas
      rw [LineMap.has_stay_single.1 rowHas, (LineMap.has_mirror_single wide).1 colHas]
      change cellAt? (grid.cells.map List.reverse) row (grid.cols - 1 - col) = _
      unfold cell? cellAt?
      rw [List.getElem?_map, List.getElem?_eq_getElem (rowCount ▸ high)]
      have length := solid.colCount _ (List.getElem_mem (rowCount ▸ high))
      rw [← length]
      exact getElem?_reverse_sub (length ▸ wide)
  | rows =>
    constructor
    · exact regular_mirroring solid .rows
    · change grid.rows - (grid.rows - 1 + 1) = 0
      omega
    · rfl
    · change grid.cells.reverse.length = grid.rows - 0 - 1 + 1
      rw [List.length_reverse]
      omega
    · intro across member
      change _ = grid.cols - 1 + 1
      rw [solid.colCount across (List.mem_reverse.1 member)]
      omega
    · intro row high col wide newRow newCol rowHas colHas
      rw [(LineMap.has_mirror_single high).1 rowHas, LineMap.has_stay_single.1 colHas]
      change cellAt? grid.cells.reverse (grid.rows - 1 - row) col = _
      unfold cell? cellAt?
      rw [← rowCount, getElem?_reverse_sub (rowCount ▸ high)]

end ArtGrid

/-! ## Mirror images -/

/-- A drawing has mirror images in both directions.  They have a partition when the drawing has
one, which is then the mirror image of its partition. -/
theorem partition_mirrored {lines : List (List Char)} {blank : Char} {grid : ArtGrid}
    (read : ArtGrid.ofRows lines blank = .ok grid) (direction : Orientation) :
    (∃ otherLines otherBlank other, ArtGrid.ofLines otherLines otherBlank = .ok other ∧
        other.cells = mirroredCells direction grid.cells) ∧
      ∀ otherLines otherBlank other, ArtGrid.ofRows otherLines otherBlank = .ok other →
        other.cells = mirroredCells direction grid.cells →
          grid.PartitionedAlike (grid.mirroring direction) other := by
  have solid := ArtGrid.solid_of_ofRows read
  have redrawn := solid.cellsRedrawn_mirroring direction
  constructor
  · exact (redrawn.isArt solid).exists_ofLines
  · intro otherLines otherBlank other otherRead same
    rw [← same] at redrawn
    have drawn := redrawn.redrawnAs solid (ArtGrid.solid_of_ofRows otherRead)
      fun orientation => Or.inl (grid.scale_mirroring direction orientation)
    exact drawn.partitionedAlike

/-- Two plots behind an empty column. -/
def marginedLeft : ArtGrid where
  cells := [[.blank, .label 'A'], [.blank, .label 'B']]
  rows := 2
  cols := 2
  labels := [⟨'A', 0, 1, 0, 1⟩, ⟨'B', 1, 1, 1, 1⟩]

theorem ofRows_marginedLeft : ArtGrid.ofRows [['.', 'A'], ['.', 'B']] '.' = .ok marginedLeft :=
  ArtGrid.ofRows_eq_ok_iff.2 (by decide +kernel)

theorem partition_mirrored_margined :
    ArtGrid.ofRows [['A', '.'], ['B', '.']] '.' = .ok margined ∧
      ArtGrid.ofRows [['.', 'A'], ['.', 'B']] '.' = .ok marginedLeft ∧
      marginedLeft.cells = mirroredCells .columns margined.cells ∧
      margined.PartitionedAlike (margined.mirroring .columns) marginedLeft :=
  ⟨ofRows_margined, ofRows_marginedLeft, rfl,
    (partition_mirrored ofRows_margined .columns).2 _ _ _ ofRows_marginedLeft rfl⟩

end Mosaic
