import Mathlib
import Mosaic.Proofs.NodeName
import Mosaic.Proofs.Partition.Pinwheel

/-!
# What a refusal reports

A drawing is refused at a region that was reached by cutting, so no label crosses
that region, and the labels handed on with it are all that lie inside.  The refusal
names them in order.  No line of the region is free: each is straddled by a label
that the refusal names.
-/

namespace Mosaic

/-- A region of a drawing that cannot be cut, with the names of the labels inside. -/
structure ArtGrid.Inseparable (grid : ArtGrid) (names : String) (region : CellRect) : Prop where
  upright : region.Upright
  inside : grid.bounds.contains region = true
  uncrossed : ∀ label ∈ grid.labels, region.contains label.bounds = true ∨
    region.Apart label.bounds
  ordered : names.toList.Pairwise (· < ·)
  named : ∀ name, name ∈ names.toList ↔
    ∃ label ∈ grid.labels, region.contains label.bounds = true ∧ label.label = name
  straddled : ∀ orientation line, (region.along orientation).straddles line = true →
    region.Straddled grid.labels orientation line

theorem CellRect.Stuck.inseparable {grid : ArtGrid} {region : CellRect}
    {members : List LabelRegion} (stuck : region.Stuck members) (solid : grid.Solid)
    (reached : Reached grid.bounds grid.labels region members) :
    grid.Inseparable (String.ofList (NodeName.sorted (members.map LabelRegion.label))) region := by
  have frames := solid.frames.reached reached
  have distinct : (members.map LabelRegion.label).Nodup := by
    rw [frames.members_eq]
    exact solid.different.sublist (List.filter_sublist.map _)
  constructor
  · exact frames.upright
  · exact solid.frames.contains_reached reached
  · exact frames.uncrossed
  · rw [String.toList_ofList]
    exact NodeName.pairwise_lt_sorted distinct
  · intro name
    rw [String.toList_ofList, (NodeName.sorted_perm _).mem_iff, frames.mem_map_label_iff]
  · intro orientation line inside
    rw [frames.straddled_iff]
    exact stuck.straddled orientation (Span.straddles_iff.1 inside)

/-- A refusal reports a region that cannot be cut and exactly the labels inside. -/
theorem inseparable_of_partition {lines : List (List Char)} {blank : Char} {grid : ArtGrid}
    {settings : Settings} {names : String} {region : CellRect}
    (read : ArtGrid.ofLines lines blank = .ok grid) (valid : settings.validate = .ok ())
    (failed : grid.partition settings = .error (.inseparable names region)) :
    grid.Inseparable names region := by
  have solid := ArtGrid.solid_of_ofLines read
  rcases ArtGrid.partition_error valid failed with ⟨other, members, reached, stuck, same⟩
  rcases Fault.inseparable.inj same with ⟨rfl, rfl⟩
  exact stuck.inseparable solid reached

/-- A pinwheel below one plot and to the right of another. -/
def enclosedPinwheel : ArtGrid where
  cells := [[.label 'F', .label 'F', .label 'F', .label 'F'],
    [.label 'E', .label 'A', .label 'A', .label 'B'],
    [.label 'E', .label 'D', .blank, .label 'B'],
    [.label 'E', .label 'D', .label 'C', .label 'C']]
  rows := 4
  cols := 4
  labels := [⟨'F', 0, 0, 0, 3⟩, ⟨'E', 1, 0, 3, 0⟩, ⟨'A', 1, 1, 1, 2⟩, ⟨'B', 1, 3, 2, 3⟩,
    ⟨'D', 2, 1, 3, 1⟩, ⟨'C', 3, 2, 3, 3⟩]

/-- The plots around it are cut off before it is refused. -/
theorem partition_enclosedPinwheel :
    enclosedPinwheel.partition Settings.default = .error (.inseparable "ABCD" ⟨1, 1, 3, 3⟩) := by
  have stopped : ∀ spacingAt : Nat → Spacing Float,
      partitionRegion spacingAt enclosedPinwheel.bounds enclosedPinwheel.labels 0
          enclosedPinwheel.outset = .error (.inseparable "ABCD" ⟨1, 1, 3, 3⟩)
        ⟨⟨["ax_E", "gs_ABCDE", "ax_F", "gs_ABCDEF"]⟩, ⟨6, 2, 2, 0, 13, 2⟩⟩ := by
    intro spacingAt
    cbv
  rw [ArtGrid.partition_eq enclosedPinwheel (by decide +kernel), stopped]

theorem inseparable_of_partition_enclosedPinwheel :
    ArtGrid.ofLines [['F', 'F', 'F', 'F'], ['E', 'A', 'A', 'B'], ['E', 'D', '.', 'B'],
        ['E', 'D', 'C', 'C']] '.' = .ok enclosedPinwheel ∧
      Settings.default.validate = .ok () ∧
      enclosedPinwheel.partition Settings.default =
        .error (.inseparable "ABCD" ⟨1, 1, 3, 3⟩) ∧
      enclosedPinwheel.Inseparable "ABCD" ⟨1, 1, 3, 3⟩ := by
  have read : ArtGrid.ofLines [['F', 'F', 'F', 'F'], ['E', 'A', 'A', 'B'], ['E', 'D', '.', 'B'],
      ['E', 'D', 'C', 'C']] '.' = .ok enclosedPinwheel :=
    ArtGrid.ofRows_eq_ok_iff.2 (by decide +kernel)
  have valid : Settings.default.validate = .ok () := by decide +kernel
  exact ⟨read, valid, partition_enclosedPinwheel,
    inseparable_of_partition read valid partition_enclosedPinwheel⟩

end Mosaic
