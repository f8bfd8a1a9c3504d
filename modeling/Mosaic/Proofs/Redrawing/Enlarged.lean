import Mosaic.Proofs.Redrawing.Cells

/-!
# Drawings at a higher resolution

A drawing is enlarged by repeating every cell to a block of cells.  New lines lie inside
blocks.  When no cell is blank each of these lines is straddled by a label of every
region that it crosses, so no new cut appears, and the partition is the same in larger
regions.  Behind a blank cell it would not be: inside a block of blank cells nothing is
straddled.
-/

namespace Mosaic

def stretched {α : Type} (factor : Nat) (entries : List α) : List α :=
  entries.flatMap (List.replicate factor)

/-- Cells of which each is repeated to a block. -/
def enlargedCells (tall wide : Nat) (cells : List (List Cell)) : List (List Cell) :=
  stretched tall (cells.map (stretched wide))

/-- The lines around blocks. -/
def enlarging (tall wide : Nat) : Orientation → LineMap
  | .columns => .enlarge wide
  | .rows => .enlarge tall

/-- A rectangle of blocks. -/
theorem redrawn_enlarging (tall wide : Nat) (rect : CellRect) :
    rect.redrawn (enlarging tall wide) = ⟨rect.top * tall, rect.left * wide,
      rect.bottom * tall + tall - 1, rect.right * wide + wide - 1⟩ := by
  change CellRect.mk (rect.top * tall) (rect.left * wide) ((rect.bottom + 1) * tall - 1)
    ((rect.right + 1) * wide - 1) = _
  rw [Nat.succ_mul, Nat.succ_mul]

/-- The children of a split keep their order, and their extents are multiplied. -/
theorem redrawn_enlarging_split {α : Type} (tall wide : Nat) (cut : Cut α)
    (children : List (Node α)) :
    (Node.split cut children).redrawn (enlarging tall wide) =
      .split { cut with
          region := cut.region.redrawn (enlarging tall wide)
          ratios := cut.ratios.map fun ratio =>
            ratio * match cut.orientation with
              | .columns => wide
              | .rows => tall }
        (children.map (Node.redrawn (enlarging tall wide))) := by
  rw [Node.redrawn_split, Cut.redrawn]
  cases cut.orientation <;> rfl

/-! ## The cells of the blocks -/

section Stretched

variable {α : Type} {factor : Nat}

theorem length_stretched (factor : Nat) (entries : List α) :
    (stretched factor entries).length = entries.length * factor := by
  induction entries with
  | nil => exact (Nat.zero_mul factor).symm
  | cons entry entries ih =>
    rw [stretched, List.flatMap_cons, List.length_append, List.length_replicate, ← stretched, ih,
      List.length_cons, Nat.succ_mul, Nat.add_comm]

/-- An entry is found where its place is divided by the factor. -/
theorem getElem?_stretched (positive : 0 < factor) (entries : List α) (index : Nat) :
    (stretched factor entries)[index]? = entries[index / factor]? := by
  induction entries generalizing index with
  | nil => rfl
  | cons entry entries ih =>
    rw [stretched, List.flatMap_cons, ← stretched]
    rcases Nat.lt_or_ge index factor with here | later
    · rw [List.getElem?_append_left (by rwa [List.length_replicate]),
        List.getElem?_replicate_of_lt here, Nat.div_eq_of_lt here]
      rfl
    · have next : index / factor = (index - factor) / factor + 1 := by
        rw [← Nat.div_eq_sub_div positive later]
      rw [List.getElem?_append_right (by rwa [List.length_replicate]), List.length_replicate, ih,
        next, List.getElem?_cons_succ]

end Stretched

/-- A cell of a block is the cell that the block repeats. -/
theorem cellAt?_enlargedCells {tall wide : Nat} (tallPos : 0 < tall) (widePos : 0 < wide)
    (cells : List (List Cell)) (row col : Nat) :
    cellAt? (enlargedCells tall wide cells) row col = cellAt? cells (row / tall) (col / wide) := by
  unfold cellAt? enlargedCells
  rw [getElem?_stretched tallPos, List.getElem?_map]
  cases cells[row / tall]? with
  | none => rfl
  | some across => exact getElem?_stretched widePos across col

namespace ArtGrid

variable {grid other : ArtGrid} {tall wide : Nat}

/-- The cells of the blocks show the cells of the drawing. -/
theorem Solid.cellsRedrawn_enlarging (solid : grid.Solid) (tallPos : 0 < tall)
    (widePos : 0 < wide) :
    grid.CellsRedrawn (enlarging tall wide) (enlargedCells tall wide grid.cells) := by
  have rows : grid.rows - 1 + 1 = grid.rows := Nat.sub_add_cancel solid.rows_pos
  have cols : grid.cols - 1 + 1 = grid.cols := Nat.sub_add_cancel solid.cols_pos
  constructor
  · intro orientation
    cases orientation with
    | columns => exact LineMap.regular_enlarge widePos _
    | rows => exact LineMap.regular_enlarge tallPos _
  · exact Nat.zero_mul tall
  · exact Nat.zero_mul wide
  · change _ = (grid.rows - 1 + 1) * tall - 1 + 1
    rw [enlargedCells, length_stretched, List.length_map, solid.rowCount, rows,
      Nat.sub_add_cancel (Nat.mul_pos solid.rows_pos tallPos)]
  · intro across member
    change _ = (grid.cols - 1 + 1) * wide - 1 + 1
    rcases List.mem_flatMap.1 member with ⟨line, listed, repeated⟩
    rcases List.mem_map.1 listed with ⟨old, known, rfl⟩
    rw [List.eq_of_mem_replicate repeated, length_stretched, solid.colCount old known, cols,
      Nat.sub_add_cancel (Nat.mul_pos solid.cols_pos widePos)]
  · intro row _ col _ newRow newCol rowHas colHas
    rw [cellAt?_enlargedCells tallPos widePos, (LineMap.has_enlarge_single tallPos).1 rowHas,
      (LineMap.has_enlarge_single widePos).1 colHas]
    rfl

/-! ## Drawings without blank cells -/

/-- A label of a cell inside a region that no label crosses lies inside the region. -/
theorem Solid.exists_member_of_cell (solid : grid.Solid) {region : CellRect}
    {members : List LabelRegion} (frames : Frames grid.labels region members) {row col : Nat}
    {label : Char} (inside : region.containsCell row col = true)
    (found : grid.cell? row col = some (.label label)) :
    ∃ member ∈ members, member.bounds.containsCell row col = true := by
  rcases solid.covered row col label found with ⟨member, listed, rfl⟩
  have own := (solid.fills member listed row col).2 found
  refine ⟨member, frames.mem_iff.2 ⟨listed, ?_⟩, own⟩
  apply (frames.uncrossed member listed).resolve_right
  intro apart
  have outside := CellRect.not_containsCell_of_apart apart own
  rw [inside] at outside
  cases outside

/-- Without blank cells there is a label everywhere. -/
theorem Solid.crowded (solid : grid.Solid) (full : ∀ row col, grid.cell? row col ≠ some .blank)
    (orientation : Orientation) : Crowded grid.labels grid.bounds orientation := by
  have labelled : ∀ region members, Frames grid.labels region members →
      grid.bounds.contains region = true → ∀ row col, region.containsCell row col = true →
        ∃ member ∈ members, member.bounds.containsCell row col = true := by
    intro region members frames contained row col inside
    have rows := solid.rows_pos
    have cols := solid.cols_pos
    have within := CellRect.containsCell_iff.1 inside
    have held := CellRect.contains_iff.1 contained
    simp only [bounds, CellRect.full] at held
    rcases solid.exists_cell (by omega : row < grid.rows) (by omega : col < grid.cols) with
      ⟨cell, found⟩
    cases cell with
    | blank => exact absurd found (full row col)
    | label name => exact solid.exists_member_of_cell frames inside found
  intro region members frames contained place has
  have upright := frames.upright
  cases orientation with
  | columns =>
    have inside : region.containsCell region.top place = true :=
      CellRect.containsCell_iff_has.2 ⟨⟨Nat.le_refl _, upright.rows⟩, has⟩
    rcases labelled region members frames contained _ _ inside with ⟨member, found, own⟩
    exact ⟨member, found, (CellRect.containsCell_iff_has.1 own).2⟩
  | rows =>
    have inside : region.containsCell place region.left = true :=
      CellRect.containsCell_iff_has.2 ⟨has, Nat.le_refl _, upright.cols⟩
    rcases labelled region members frames contained _ _ inside with ⟨member, found, own⟩
    exact ⟨member, found, (CellRect.containsCell_iff_has.1 own).1⟩

end ArtGrid

/-- A drawing without blank cells can be enlarged.  It then has a partition when it had one
before, which is the same in the enlarged regions. -/
theorem partition_enlarged {lines : List (List Char)} {blank : Char} {grid : ArtGrid}
    (read : ArtGrid.ofRows lines blank = .ok grid)
    (full : ∀ row col, grid.cell? row col ≠ some .blank) {tall wide : Nat} (tallPos : 1 ≤ tall)
    (widePos : 1 ≤ wide) :
    (∃ otherLines otherBlank other, ArtGrid.ofLines otherLines otherBlank = .ok other ∧
        other.cells = enlargedCells tall wide grid.cells) ∧
      ∀ otherLines otherBlank other, ArtGrid.ofRows otherLines otherBlank = .ok other →
        other.cells = enlargedCells tall wide grid.cells →
          grid.PartitionedAlike (enlarging tall wide) other := by
  have solid := ArtGrid.solid_of_ofRows read
  have redrawn := solid.cellsRedrawn_enlarging tallPos widePos
  constructor
  · exact (redrawn.isArt solid).exists_ofLines
  · intro otherLines otherBlank other otherRead same
    rw [← same] at redrawn
    have drawn := redrawn.redrawnAs solid (ArtGrid.solid_of_ofRows otherRead)
      fun orientation => Or.inr (solid.crowded full orientation)
    exact drawn.partitionedAlike

/-- A plot beside two others. -/
def beside : ArtGrid where
  cells := [[.label 'A', .label 'B'], [.label 'A', .label 'C']]
  rows := 2
  cols := 2
  labels := [⟨'A', 0, 0, 1, 0⟩, ⟨'B', 0, 1, 0, 1⟩, ⟨'C', 1, 1, 1, 1⟩]

def besideWide : ArtGrid where
  cells := [[.label 'A', .label 'A', .label 'B', .label 'B'],
    [.label 'A', .label 'A', .label 'C', .label 'C']]
  rows := 2
  cols := 4
  labels := [⟨'A', 0, 0, 1, 1⟩, ⟨'B', 0, 2, 0, 3⟩, ⟨'C', 1, 2, 1, 3⟩]

theorem partition_enlarged_beside :
    ArtGrid.ofRows [['A', 'B'], ['A', 'C']] '.' = .ok beside ∧
      (∀ row col, beside.cell? row col ≠ some .blank) ∧ 1 ≤ 1 ∧ 1 ≤ 2 ∧
      ArtGrid.ofRows [['A', 'A', 'B', 'B'], ['A', 'A', 'C', 'C']] '.' = .ok besideWide ∧
      besideWide.cells = enlargedCells 1 2 beside.cells ∧
      beside.PartitionedAlike (enlarging 1 2) besideWide := by
  have read : ArtGrid.ofRows [['A', 'B'], ['A', 'C']] '.' = .ok beside :=
    ArtGrid.ofRows_eq_ok_iff.2 (by decide +kernel)
  have otherRead : ArtGrid.ofRows [['A', 'A', 'B', 'B'], ['A', 'A', 'C', 'C']] '.' =
      .ok besideWide :=
    ArtGrid.ofRows_eq_ok_iff.2 (by decide +kernel)
  have full : ∀ row col, beside.cell? row col ≠ some .blank := by
    intro row col found
    have inside := (ArtGrid.solid_of_ofRows read).bounds_of_cell? found
    have cells : ∀ row < 2, ∀ col < 2, beside.cell? row col ≠ some .blank := by decide
    exact cells row inside.1 col inside.2 found
  have same : besideWide.cells = enlargedCells 1 2 beside.cells := rfl
  exact ⟨read, full, Nat.le_refl 1, by decide, otherRead, same,
    (partition_enlarged read full (Nat.le_refl 1) (by decide)).2 _ _ _ otherRead same⟩

end Mosaic
