import Mosaic.Proofs.Art.Cells
import Mosaic.Proofs.Partition.Decomposable
import Mosaic.Proofs.Partition.Names

/-!
# Drawings with some plots left out

When the cells of some labels are turned blank the other labels keep their rectangles.
The new drawing may be cut along other lines and in another direction.  But a way to
take a rectangle apart still takes it apart, where a rectangle that was filled may now
be empty.  So a drawing that has a partition has one without some of its plots as well.
-/

namespace Mosaic

/-- A cell that is blank where it held one of the given labels. -/
def Cell.without (removed : List Char) : Cell → Cell
  | label name => if name ∈ removed then blank else label name
  | blank => blank

def cellsWithout (removed : List Char) (cells : List (List Cell)) : List (List Cell) :=
  cells.map (·.map (Cell.without removed))

theorem Cell.without_eq_label_iff {removed : List Char} {cell : Cell} {name : Char} :
    cell.without removed = label name ↔ cell = label name ∧ name ∉ removed := by
  cases cell with
  | blank => exact ⟨fun none => (nomatch none), fun none => (nomatch none.1)⟩
  | label own =>
    rw [without]
    split
    · next gone =>
      refine ⟨fun none => (nomatch none), ?_⟩
      rintro ⟨same, kept⟩
      cases same
      exact absurd gone kept
    · next kept =>
      refine ⟨?_, And.left⟩
      rintro same
      cases same
      exact ⟨rfl, kept⟩

/-- The labels that stay are found where they were. -/
theorem cellAt?_cellsWithout_eq_label_iff {removed : List Char} {cells : List (List Cell)}
    {row col : Nat} {name : Char} :
    cellAt? (cellsWithout removed cells) row col = some (.label name) ↔
      cellAt? cells row col = some (.label name) ∧ name ∉ removed := by
  have moved : cellAt? (cellsWithout removed cells) row col =
      (cellAt? cells row col).map (Cell.without removed) := by
    unfold cellAt? cellsWithout
    rw [List.getElem?_map]
    cases cells[row]? with
    | none => rfl
    | some across => exact List.getElem?_map
  rw [moved, Option.map_eq_some_iff]
  constructor
  · rintro ⟨cell, found, same⟩
    rcases Cell.without_eq_label_iff.1 same with ⟨rfl, kept⟩
    exact ⟨found, kept⟩
  · rintro ⟨found, kept⟩
    exact ⟨_, found, Cell.without_eq_label_iff.2 ⟨rfl, kept⟩⟩

/-- Cells of which some label stays can be drawn without the others. -/
theorem IsArt.without {cells : List (List Cell)} (art : IsArt cells) {removed : List Char}
    (some : ∃ row col name, cellAt? cells row col = some (.label name) ∧ name ∉ removed) :
    IsArt (cellsWithout removed cells) := by
  constructor
  · exact fun none => art.high (List.map_eq_nil_iff.1 none)
  · rcases art.even with ⟨cols, positive, even⟩
    refine ⟨cols, positive, fun line listed => ?_⟩
    rcases List.mem_map.1 listed with ⟨across, member, rfl⟩
    rw [List.length_map]
    exact even across member
  · rcases some with ⟨row, col, name, found⟩
    exact ⟨row, col, name, cellAt?_cellsWithout_eq_label_iff.2 found⟩
  · exact fun row col name found =>
      art.named row col name (cellAt?_cellsWithout_eq_label_iff.1 found).1
  · intro row col name found
    rcases cellAt?_cellsWithout_eq_label_iff.1 found with ⟨known, kept⟩
    rcases art.solid row col name known with ⟨rect, fills⟩
    refine ⟨rect, fun row col => ?_⟩
    rw [fills, cellAt?_cellsWithout_eq_label_iff]
    exact (and_iff_left kept).symm

/-! ## Fewer labels -/

variable {labels others : List LabelRegion} {region : CellRect}

/-- A rectangle is taken apart in the same way when some labels are left out. -/
theorem Decomposable.of_subset (laidOut : LaidOut labels) (fewer : others ⊆ labels)
    (decomposable : Decomposable labels region) : Decomposable others region := by
  induction decomposable with
  | empty free => exact .empty fun label listed => free label (fewer listed)
  | @filled label listed =>
    by_cases kept : label ∈ others
    · exact .filled kept
    · -- the label was the only one inside
      apply Decomposable.empty
      intro other member
      apply Bool.eq_false_iff.2
      intro contained
      have different : other ≠ label := fun same => kept (same ▸ member)
      have apart := laidOut.apart other (fewer member) label listed different
      exact CellRect.not_apart_of_contains (laidOut.upright other (fewer member)) contained
        apart.symm
  | cut orientation line inside clear before after beforeIH afterIH =>
    exact .cut orientation line inside (fun label listed => clear label (fewer listed)) beforeIH
      afterIH

namespace ArtGrid.Solid

variable {grid other : ArtGrid} {settings : Settings} {removed : List Char}

/-- A drawing that some order of cuts takes apart has a partition. -/
theorem exists_ok_of_decomposable (solid : grid.Solid) (valid : settings.validate = .ok ())
    (decomposable : Decomposable grid.labels grid.bounds) :
    ∃ tree, grid.partition settings = .ok tree := by
  cases made : grid.partition settings with
  | ok tree => exact ⟨tree, rfl⟩
  | error fault =>
    rcases partition_error valid made with ⟨region, members, reached, stuck, -⟩
    exact absurd stuck (decomposable.not_stuck_of_reached solid.laidOut reached solid.frames)

theorem decomposable (solid : grid.Solid) {tree : PartitionTree Float}
    (made : grid.partition settings = .ok tree) : Decomposable grid.labels grid.bounds := by
  rcases (partition_ok made).2.2.2 with ⟨after, done⟩
  exact decomposable_of_ok done solid.frames

theorem perm_shown (solid : grid.Solid) {tree : PartitionTree Float}
    (made : grid.partition settings = .ok tree) :
    (tree.root.leaves.map Leaf.shown).Perm grid.labels := by
  rcases (partition_ok made).2.2.2 with ⟨after, done⟩
  exact (fills_of_ok solid.laidOut done solid.frames).leaves

/-- The labels that stay keep their rectangles. -/
theorem perm_labels_without (solid : grid.Solid) (otherSolid : other.Solid)
    (same : other.cells = cellsWithout removed grid.cells) :
    other.labels.Perm (grid.labels.filter fun region => region.label ∉ removed) := by
  rw [List.perm_ext_iff_of_nodup otherSolid.nodup_labels (solid.nodup_labels.filter _)]
  intro region
  have cells : ∀ row col, other.cell? row col = some (.label region.label) ↔
      grid.cell? row col = some (.label region.label) ∧ region.label ∉ removed := by
    intro row col
    unfold cell?
    rw [same, cellAt?_cellsWithout_eq_label_iff]
  rw [List.mem_filter, decide_eq_true_eq, otherSolid.mem_labels_iff_cells,
    solid.mem_labels_iff_cells]
  constructor
  · rintro ⟨upright, fills⟩
    have kept := ((cells _ _).1 ((fills _ _).1 upright.containsCell_corners.1)).2
    refine ⟨⟨upright, fun row col => ?_⟩, kept⟩
    rw [fills, cells, and_iff_left kept]
  · rintro ⟨⟨upright, fills⟩, kept⟩
    refine ⟨upright, fun row col => ?_⟩
    rw [fills, cells, and_iff_left kept]

theorem bounds_eq_of_cellsWithout (solid : grid.Solid) (otherSolid : other.Solid)
    (same : other.cells = cellsWithout removed grid.cells) : other.bounds = grid.bounds := by
  have rows : other.rows = grid.rows := by
    rw [← otherSolid.rowCount, same, cellsWithout, List.length_map, solid.rowCount]
  have cols : other.cols = grid.cols := by
    rcases List.exists_mem_of_length_pos (solid.rowCount ▸ solid.rows_pos) with ⟨across, member⟩
    have moved : across.map (Cell.without removed) ∈ other.cells := by
      rw [same]
      exact List.mem_map_of_mem member
    rw [← otherSolid.colCount _ moved, List.length_map, solid.colCount across member]
  rw [bounds, bounds, rows, cols]

end ArtGrid.Solid

/-! ## Whole drawings -/

/-- A drawing with a partition can be drawn without some of its plots, as long as one is left.
Under the same settings it has a partition again, whose leaves are the other plots where
they were. -/
theorem partition_without {lines : List (List Char)} {blank : Char} {grid : ArtGrid}
    {settings : Settings} {tree : PartitionTree Float} {removed : List Char}
    (read : ArtGrid.ofRows lines blank = .ok grid) (made : grid.partition settings = .ok tree)
    (left : ∃ region ∈ grid.labels, region.label ∉ removed) :
    (∃ otherLines otherBlank other, ArtGrid.ofLines otherLines otherBlank = .ok other ∧
        other.cells = cellsWithout removed grid.cells) ∧
      ∀ otherLines otherBlank other, ArtGrid.ofRows otherLines otherBlank = .ok other →
        other.cells = cellsWithout removed grid.cells →
          ∃ otherTree, other.partition settings = .ok otherTree ∧
            (otherTree.root.leaves.map Leaf.shown).Perm
              (grid.labels.filter fun region => region.label ∉ removed) := by
  have solid := ArtGrid.solid_of_ofRows read
  constructor
  · rcases left with ⟨region, listed, kept⟩
    have corner := (solid.upright region listed).containsCell_corners.1
    have art := solid.isArt.without
      ⟨_, _, region.label, (solid.fills region listed _ _).1 corner, kept⟩
    exact art.exists_ofLines
  · intro otherLines otherBlank other otherRead same
    have otherSolid := ArtGrid.solid_of_ofRows otherRead
    have kept := solid.perm_labels_without otherSolid same
    have fewer : other.labels ⊆ grid.labels :=
      fun region listed => (List.mem_filter.1 (kept.mem_iff.1 listed)).1
    have apart := (solid.decomposable made).of_subset solid.laidOut fewer
    rw [← solid.bounds_eq_of_cellsWithout otherSolid same] at apart
    rcases otherSolid.exists_ok_of_decomposable (ArtGrid.valid_of_partition_ok made) apart with
      ⟨otherTree, otherMade⟩
    exact ⟨otherTree, otherMade, (otherSolid.perm_shown otherMade).trans kept⟩

theorem partition_without_margined :
    ArtGrid.ofRows [['A', '.'], ['B', '.']] '.' = .ok margined ∧
      margined.partition Settings.default = .ok marginedTree ∧
      (∃ region ∈ margined.labels, region.label ∉ ['A']) ∧
      (∃ otherLines otherBlank other, ArtGrid.ofLines otherLines otherBlank = .ok other ∧
        other.cells = cellsWithout ['A'] margined.cells) ∧
      ∀ otherLines otherBlank other, ArtGrid.ofRows otherLines otherBlank = .ok other →
        other.cells = cellsWithout ['A'] margined.cells →
          ∃ otherTree, other.partition Settings.default = .ok otherTree ∧
            (otherTree.root.leaves.map Leaf.shown).Perm
              (margined.labels.filter fun region => region.label ∉ ['A']) := by
  have left : ∃ region ∈ margined.labels, region.label ∉ ['A'] := by
    decide
  exact ⟨ofRows_margined, partition_margined, left,
    partition_without ofRows_margined partition_margined left⟩

end Mosaic
