import Mosaic.Proofs.Art.Cells
import Mosaic.Proofs.Redrawing.Trees

/-!
# Cells of a redrawn drawing

A drawing is redrawn by showing each of its cells wherever its row and its column go.
The new cells can be read again.  The label of a new cell is the label of the cell that
it shows, so each label fills its moved rectangle.
-/

namespace Mosaic

/-- The new cells of a drawing whose grid lines are moved. -/
structure ArtGrid.CellsRedrawn (change : Orientation → LineMap) (grid : ArtGrid)
    (cells : List (List Cell)) : Prop where
  regular : ∀ orientation, (change orientation).Regular (grid.bounds.along orientation)
  top : (grid.bounds.redrawn change).top = 0
  left : (grid.bounds.redrawn change).left = 0
  rowCount : cells.length = (grid.bounds.redrawn change).bottom + 1
  colCount : ∀ across ∈ cells, across.length = (grid.bounds.redrawn change).right + 1
  shown : ∀ row < grid.rows, ∀ col < grid.cols, ∀ newRow newCol,
    ((change .rows).span (.single row)).Has newRow →
      ((change .columns).span (.single col)).Has newCol →
        cellAt? cells newRow newCol = grid.cell? row col

namespace ArtGrid.CellsRedrawn

variable {change : Orientation → LineMap} {grid other : ArtGrid} {cells : List (List Cell)}

/-- A new cell shows some cell of the drawing. -/
theorem exists_shown (redrawn : grid.CellsRedrawn change cells) (solid : grid.Solid)
    {newRow newCol : Nat} {cell : Cell} (found : cellAt? cells newRow newCol = some cell) :
    ∃ row col, ((change .rows).span (.single row)).Has newRow ∧
      ((change .columns).span (.single col)).Has newCol ∧ grid.cell? row col = some cell := by
  rcases Option.bind_eq_some_iff.1 found with ⟨across, here, own⟩
  have high := (List.getElem?_eq_some_iff.1 here).1
  have wide := (List.getElem?_eq_some_iff.1 own).1
  rw [redrawn.rowCount] at high
  rw [redrawn.colCount across (List.mem_of_getElem? here)] at wide
  have upright := solid.bounds_upright
  have part := fun orientation =>
    upright.partOf (CellRect.contains_refl grid.bounds) orientation
  have top : (grid.bounds.redrawn change).top ≤ newRow := redrawn.top ▸ Nat.zero_le _
  have left : (grid.bounds.redrawn change).left ≤ newCol := redrawn.left ▸ Nat.zero_le _
  rcases (redrawn.regular .rows).exists_has (part .rows) ⟨top, Nat.le_of_lt_succ high⟩ with
    ⟨row, rowMember, rowHas⟩
  rcases (redrawn.regular .columns).exists_has (part .columns) ⟨left, Nat.le_of_lt_succ wide⟩ with
    ⟨col, colMember, colHas⟩
  have rows := solid.rows_pos
  have cols := solid.cols_pos
  have lower : row < grid.rows := by
    have upper : row ≤ grid.rows - 1 := rowMember.2
    omega
  have inner : col < grid.cols := by
    have upper : col ≤ grid.cols - 1 := colMember.2
    omega
  exact ⟨row, col, rowHas, colHas,
    (redrawn.shown row lower col inner newRow newCol rowHas colHas).symm.trans found⟩

/-- A label fills its moved rectangle. -/
theorem fills (redrawn : grid.CellsRedrawn change cells) (solid : grid.Solid)
    {region : LabelRegion} (listed : region ∈ grid.labels) (newRow newCol : Nat) :
    (region.bounds.redrawn change).containsCell newRow newCol = true ↔
      cellAt? cells newRow newCol = some (.label region.label) := by
  have part := fun orientation =>
    (solid.upright region listed).partOf (solid.bounds_contains listed) orientation
  rw [CellRect.containsCell_iff_has, CellRect.along_redrawn, CellRect.along_redrawn]
  constructor
  · rintro ⟨rowHas, colHas⟩
    rcases (redrawn.regular .rows).exists_has (part .rows) rowHas with ⟨row, rowMember, rowSeen⟩
    rcases (redrawn.regular .columns).exists_has (part .columns) colHas with
      ⟨col, colMember, colSeen⟩
    have own := (solid.fills region listed row col).1
      (CellRect.containsCell_iff_has.2 ⟨rowMember, colMember⟩)
    have inside := solid.bounds_of_cell? own
    rw [redrawn.shown row inside.1 col inside.2 newRow newCol rowSeen colSeen, own]
  · intro found
    rcases redrawn.exists_shown solid found with ⟨row, col, rowSeen, colSeen, own⟩
    have member := CellRect.containsCell_iff_has.1 ((solid.fills region listed row col).2 own)
    exact ⟨(redrawn.regular .rows).has_of_has (part .rows) member.1 rowSeen,
      (redrawn.regular .columns).has_of_has (part .columns) member.2 colSeen⟩

theorem upright (redrawn : grid.CellsRedrawn change cells) (solid : grid.Solid)
    {region : LabelRegion} (listed : region ∈ grid.labels) :
    (region.bounds.redrawn change).Upright :=
  (solid.upright region listed).redrawn redrawn.regular (solid.bounds_contains listed)

theorem isArt (redrawn : grid.CellsRedrawn change cells) (solid : grid.Solid) : IsArt cells := by
  have listed : ∀ {newRow newCol label}, cellAt? cells newRow newCol = some (.label label) →
      ∃ region ∈ grid.labels, region.label = label := by
    intro newRow newCol label found
    rcases redrawn.exists_shown solid found with ⟨row, col, -, -, own⟩
    exact solid.covered row col label own
  constructor
  · apply List.ne_nil_of_length_pos
    rw [redrawn.rowCount]
    exact Nat.succ_pos _
  · exact ⟨_, Nat.succ_pos _, redrawn.colCount⟩
  · rcases List.exists_mem_of_ne_nil _ solid.nonempty with ⟨region, member⟩
    have corner := (redrawn.upright solid member).containsCell_corners.1
    exact ⟨_, _, region.label, (redrawn.fills solid member _ _).1 corner⟩
  · intro row col label found
    rcases listed found with ⟨region, member, rfl⟩
    exact solid.named region member
  · intro row col label found
    rcases listed found with ⟨region, member, rfl⟩
    exact ⟨region.bounds.redrawn change, redrawn.fills solid member⟩

variable (redrawn : grid.CellsRedrawn change other.cells) (solid : grid.Solid)
  (otherSolid : other.Solid)

include redrawn solid otherSolid

/-- The labels of the new drawing are the moved labels. -/
theorem mem_labels_iff (region : LabelRegion) :
    region ∈ other.labels ↔ region ∈ grid.labels.map (LabelRegion.redrawn change) := by
  have moved : ∀ old ∈ grid.labels, old.redrawn change ∈ other.labels := by
    intro old listed
    rw [otherSolid.mem_labels_iff_cells]
    exact ⟨redrawn.upright solid listed, redrawn.fills solid listed⟩
  rw [List.mem_map]
  constructor
  · intro member
    have corner := (otherSolid.fills region member _ _).1
      (otherSolid.upright region member).containsCell_corners.1
    rcases redrawn.exists_shown solid corner with ⟨row, col, -, -, own⟩
    rcases solid.covered row col region.label own with ⟨old, listed, same⟩
    exact ⟨old, listed, otherSolid.eq_of_label_eq (moved old listed) member same⟩
  · rintro ⟨old, listed, rfl⟩
    exact moved old listed

theorem redrawnAs
    (crowded : ∀ orientation, (change orientation).scale = 1 ∨
      Crowded grid.labels grid.bounds orientation) :
    grid.RedrawnAs change other := by
  refine ⟨solid, otherSolid, ⟨redrawn.regular, solid.upright,
    fun label listed => solid.bounds_contains listed, ?_, crowded⟩, ?_⟩
  · have different : (grid.labels.map (LabelRegion.redrawn change)).Nodup := by
      apply List.Nodup.of_map LabelRegion.label
      rw [List.map_map]
      exact solid.different
    rw [List.perm_ext_iff_of_nodup otherSolid.nodup_labels different]
    exact redrawn.mem_labels_iff solid otherSolid
  · have rows := redrawn.rowCount
    have cols : other.cols = (grid.bounds.redrawn change).right + 1 := by
      rcases List.exists_mem_of_length_pos (otherSolid.rowCount ▸ otherSolid.rows_pos) with
        ⟨across, member⟩
      rw [← otherSolid.colCount across member, redrawn.colCount across member]
    have top := redrawn.top
    have left := redrawn.left
    rw [otherSolid.rowCount] at rows
    unfold bounds at top left rows cols ⊢
    generalize (CellRect.full grid.rows grid.cols).redrawn change = whole at top left rows cols ⊢
    cases whole
    cases top
    cases left
    rw [rows, cols]
    rfl

end ArtGrid.CellsRedrawn
end Mosaic
