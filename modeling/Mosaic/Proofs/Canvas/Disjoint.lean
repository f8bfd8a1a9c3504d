import Mosaic.Proofs.Canvas.Nesting
import Mosaic.Proofs.Canvas.Placement
import Mosaic.Proofs.Settings.Spacing
import Mosaic.Proofs.Tree.Map

/-!
# The boxes of a partition are disjoint

The spacing of each split is the spacing of valid settings at its depth, which is not
negative where it can be measured.  So when the formulas of the scene are read over
exact numbers, the boxes of a partition are nested as its nodes are, and no two axes
overlap.
-/

namespace Mosaic

open Decimal

variable {value : Float → ℚ}

/-- Reading other numbers in a cut does not change the grid that is wanted for it. -/
theorem Cut.fits_map (cut : Cut Float) (childCount : Nat) :
    (GridRequest.ofCut (cut.map value) childCount).fits =
      (GridRequest.ofCut cut childCount).fits :=
  rfl

theorem Node.Fits.map {node : Node Float} (fits : node.Fits) : (node.map value).Fits := by
  intro split member
  rw [splits_map] at member
  rcases List.mem_map.1 member with ⟨own, listed, rfl⟩
  exact (Cut.fits_map own.1 own.2).trans (fits own listed)

/-- Spacing of valid settings is not negative at any depth. -/
theorem Settings.Usable.nonNegative {settings : Settings} (usable : settings.Usable)
    (reads : ReadsExactly value) (depth : Nat) :
    ((settings.spacingAt depth).map value).NonNegative := by
  have unsigned := usable.isUnsigned_scaleAt depth
  have scaled : ∀ base : Option Float, (∀ space ∈ base, isNonNegative space = true) →
      ∀ space ∈ (base.map fun space => space * scaleAt settings.spacingRule depth).map value,
        0 ≤ space := by
    intro base checked space member
    rw [Option.map_map] at member
    rcases Option.map_eq_some_iff.1 member with ⟨own, given, rfl⟩
    dsimp only [Function.comp_apply]
    generalize known : own * scaleAt settings.spacingRule depth = product
    cases finite : product.isFinite with
    | true =>
      rw [reads.finite product finite, ← known]
      exact (notBelowZero_scaled (checked own given) unsigned).exactValue_nonneg
    | false => exact reads.beyond product finite
  exact ⟨scaled settings.wspace usable.wspace, scaled settings.hspace usable.hspace⟩

namespace ArtGrid.Solid

variable {grid : ArtGrid} {settings : Settings} {tree : PartitionTree Float}

/-- Over exact numbers the partition of a drawing has grids that fit, without negative gaps. -/
theorem spaced (solid : grid.Solid) (made : grid.partition settings = .ok tree)
    (reads : ReadsExactly value) : (tree.map value).root.Spaced where
  fits := (solid.fits made).map
  spacing := by
    have usable := Settings.validate_ok_iff.1 (valid_of_partition_ok made)
    intro split member
    change split ∈ (tree.root.map value).splits at member
    rw [Node.splits_map] at member
    rcases List.mem_map.1 member with ⟨own, listed, rfl⟩
    rcases solid.exists_spacingAt made listed with ⟨depth, spacing⟩
    change (own.1.spacing.map value).NonNegative
    rw [spacing]
    exact usable.nonNegative reads depth

end ArtGrid.Solid

/-- On a scene whose margins leave some room, the boxes of a partition lie in one another as
its nodes do, and no two axes overlap. -/
theorem laysOut_of_partition {lines : List (List Char)} {blank : Char} {grid : ArtGrid}
    {settings : Settings} {tree : PartitionTree Float}
    (read : ArtGrid.ofLines lines blank = .ok grid) (made : grid.partition settings = .ok tree)
    (reads : ReadsExactly value) (size : FigureSize ℚ) (dpi : ℚ) {scene : Scene ℚ}
    (room : scene.outerBox.Proper) :
    ∃ handles after,
      (tree.map value).drawSized size dpi (Canvas.scene ℚ) scene = .ok handles after ∧
        after.LaysOut handles scene.outerBox (tree.map value) := by
  have solid := ArtGrid.solid_of_ofLines read
  have spaced := solid.spaced made reads
  have names : ((tree.map value).root.splits.map fun split => split.1.id).Nodup := by
    change ((tree.root.map value).splits.map fun split => split.1.id).Nodup
    rw [Node.splits_map, List.map_map]
    exact solid.nodup_splits made
  have labels : ((tree.map value).root.leaves.map Leaf.label).Nodup := by
    change ((tree.root.map value).leaves.map Leaf.label).Nodup
    rw [Node.leaves_map]
    exact solid.nodup_leaves made
  rcases (tree.map value).exists_liesIn spaced.fits names labels size dpi scene with
    ⟨handles, after, drawn, lies⟩
  exact ⟨handles, after, drawn, lies.laysOut spaced room⟩

def Margins.exact : Margins ℚ := ⟨1 / 8, 9 / 10, 11 / 100, 22 / 25⟩

theorem laysOut_of_partition_mixed :
    ArtGrid.ofLines [['A', 'A', 'C'], ['B', '.', 'C']] '.' = .ok mixed ∧
      mixed.partition Settings.default = .ok mixedTree ∧ ReadsExactly exactValue ∧
      (Scene.empty Margins.exact).outerBox.Proper ∧
      ∃ handles after,
        (mixedTree.map exactValue).drawSized ⟨12, 8⟩ 96 (Canvas.scene ℚ)
            (Scene.empty Margins.exact) = .ok handles after ∧
          after.LaysOut handles (Scene.empty Margins.exact).outerBox (mixedTree.map exactValue) := by
  have room : (Scene.empty Margins.exact).outerBox.Proper := by
    constructor <;> norm_num [Scene.empty, Scene.outerBox, Margins.exact]
  exact ⟨ofLines_mixed, partition_mixed, readsExactly_exactValue, room,
    laysOut_of_partition ofLines_mixed partition_mixed readsExactly_exactValue ⟨12, 8⟩ 96 room⟩

end Mosaic
