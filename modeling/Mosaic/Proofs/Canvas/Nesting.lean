import Mosaic.Proofs.Canvas.Layout

/-!
# Boxes in boxes

Over exact numbers, when no spacing is negative, all boxes of a drawing are nested as
their nodes are.  What is said of two cells of one grid therefore holds of everything
below them, and it is enough to look at the split where two leaves part.
-/

namespace Mosaic

structure Spacing.NonNegative (spacing : Spacing ℚ) : Prop where
  wspace : ∀ space ∈ spacing.wspace, 0 ≤ space
  hspace : ∀ space ∈ spacing.hspace, 0 ≤ space

/-- A tree whose grids fit and have no negative spacing. -/
structure Node.Spaced (node : Node ℚ) : Prop where
  fits : node.Fits
  spacing : ∀ split ∈ node.splits, split.1.spacing.NonNegative

/-- The boxes of a tree that was drawn on a scene. -/
structure Scene.LaysOut (scene : Scene ℚ) (handles : Scene.Handles ℚ) (outer : FigureBox ℚ)
    (tree : PartitionTree ℚ) : Prop where
  /-- Every axis and every grid has a box of positive extent within the margins. -/
  boxed : ∀ node ∈ tree.root.descendants, ∀ id, node.id? = some id →
    ∃ box, scene.nodeBox? handles node = some box ∧ box.Proper ∧ box.Within outer
  /-- It lies in the cell that holds it, and this in the box of its grid. -/
  held : ∀ cut children, .split cut children ∈ tree.root.descendants →
    ∃ grid, scene.gridOf? handles cut = some grid ∧ ∀ index child, children[index]? = some child →
      ∃ cell, grid.cellBox index = .ok cell ∧ cell.Proper ∧ cell.Within grid.bounds ∧
        ∀ box, scene.nodeBox? handles child = some box → box.Within cell
  /-- Where two leaves part, the boxes lie in the order of the children. -/
  ordered : ∀ cut children, .split cut children ∈ tree.root.descendants →
    ∀ (index later : Nat) (child sibling : Node ℚ), index < later → children[index]? = some child →
      children[later]? = some sibling → ∀ one ∈ child.leaves, ∀ other ∈ sibling.leaves,
        ∀ box otherBox, scene.nodeBox? handles (.leaf one) = some box →
          scene.nodeBox? handles (.leaf other) = some otherBox →
            box.Precedes cut.orientation otherBox
  /-- So the boxes of different labels have no inner point in common. -/
  apart : ∀ one ∈ tree.leaves, ∀ other ∈ tree.leaves, one.label ≠ other.label →
    ∀ box otherBox, scene.nodeBox? handles (.leaf one) = some box →
      scene.nodeBox? handles (.leaf other) = some otherBox →
        ∃ orientation, box.Precedes orientation otherBox ∨ otherBox.Precedes orientation box

/-- Dividing by an average extent keeps spacing from being negative. -/
private theorem scaled_nonneg {space : Option ℚ} (nonneg : ∀ gap ∈ space, 0 ≤ gap)
    (extents : List Nat) : ∀ gap ∈ space.map fun gap => gap / meanExtent extents, 0 ≤ gap := by
  have mean : (0 : ℚ) ≤ meanExtent extents := by
    change (0 : ℚ) ≤ ((extents.sum : ℕ) : ℚ) / ((extents.length : ℕ) : ℚ)
    positivity
  intro gap member
  rcases Option.map_eq_some_iff.1 member with ⟨own, given, rfl⟩
  exact div_nonneg (nonneg own given) mean

/-- The grid of a split that fits in a proper box has cells in this box. -/
theorem SceneGrid.sound_ofCut {cut : Cut ℚ} {childCount : Nat} {box : FigureBox ℚ}
    (fits : (GridRequest.ofCut cut childCount).fits = true)
    (spacing : cut.spacing.NonNegative) (proper : box.Proper) :
    SceneGrid.Sound ⟨box, GridRequest.ofCut cut childCount⟩ where
  fits := fits
  proper := proper
  wspace := scaled_nonneg spacing.wspace cut.widthRatios
  hspace := scaled_nonneg spacing.hspace cut.heightRatios

namespace Node

variable {scene : Scene ℚ} {handles : Scene.Handles ℚ} {root node : Node ℚ}
  {above : List (Node ℚ)} {box outer : FigureBox ℚ}

theorem mem_splits_of_lineage {cut : Cut ℚ} {children : List (Node ℚ)}
    (lineage : root.Lineage above (split cut children)) : (cut, children.length) ∈ root.splits :=
  mem_splits_iff.2 ⟨children, mem_descendants_iff.2 ⟨above, lineage⟩, rfl⟩

theorem exists_lineage_of_leaf {contents : Leaf} (member : contents ∈ root.leaves) :
    ∃ above, root.Lineage above (leaf contents) := by
  rcases List.mem_filterMap.1 member with ⟨other, listed, own⟩
  cases other with
  | leaf known =>
    cases own
    exact mem_descendants_iff.1 listed
  | split cut children => cases own
  | blank region => cases own

theorem Spaced.of_lineage (spaced : root.Spaced) (lineage : root.Lineage above node) :
    node.Spaced := by
  have included : ∀ other ∈ node.splits, other ∈ root.splits :=
    (lineage.sublist_descendants.filterMap cut?).subset
  exact ⟨fun other member => spaced.fits other (included other member),
    fun other member => spaced.spacing other (included other member)⟩

/-- The grid of a split in a proper box. -/
theorem Spaced.sound {cut : Cut ℚ} {children : List (Node ℚ)}
    (spaced : (split cut children).Spaced) (proper : box.Proper) :
    SceneGrid.Sound ⟨box, GridRequest.ofCut cut children.length⟩ := by
  have start : (split cut children).Lineage [] (split cut children) := .root
  have own := mem_splits_of_lineage start
  exact SceneGrid.sound_ofCut (spaced.fits _ own) (spaced.spacing _ own) proper

/-- Each node lies in a box of positive extent inside the box of the root.  The induction is on
the way down, and goes from a split to the cell of its child. -/
theorem LiesIn.of_lineage (lies : root.LiesIn scene handles outer) (spaced : root.Spaced)
    (proper : outer.Proper) (lineage : root.Lineage above node) :
    ∃ box, node.LiesIn scene handles box ∧ box.Proper ∧ box.Within outer := by
  induction lineage with
  | root => exact ⟨outer, lies, proper, .refl outer⟩
  | @child _ cut children child parent member ih =>
    rcases ih with ⟨box, inside, wide, within⟩
    have sound := (spaced.of_lineage parent).sound wide
    rw [LiesIn] at inside
    rcases List.getElem?_of_mem member with ⟨index, found⟩
    rcases inside.2.exists_cell found with ⟨cell, known, below⟩
    rcases sound.cellBox known with ⟨cellProper, cellWithin⟩
    exact ⟨cell, below, cellProper, cellWithin.trans within⟩

/-- The box of a leaf lies in the box of every node above it. -/
theorem LiesIn.leaf_within (lies : root.LiesIn scene handles outer) (spaced : root.Spaced)
    (proper : outer.Proper) {contents : Leaf} (member : contents ∈ root.leaves)
    (found : scene.nodeBox? handles (leaf contents) = some box) : box.Within outer := by
  rcases exists_lineage_of_leaf member with ⟨above, lineage⟩
  rcases lies.of_lineage spaced proper lineage with ⟨own, inside, -, within⟩
  cases found.symm.trans inside
  exact within

/-- Leaves below different children of a split are drawn in the order of the children. -/
theorem LiesIn.ordered {cut : Cut ℚ} {children : List (Node ℚ)}
    (lies : (split cut children).LiesIn scene handles outer)
    (spaced : (split cut children).Spaced) (proper : outer.Proper) {index later : Nat}
    {child sibling : Node ℚ} (earlier : index < later) (found : children[index]? = some child)
    (otherFound : children[later]? = some sibling) {one other : Leaf} (below : one ∈ child.leaves)
    (otherBelow : other ∈ sibling.leaves) {otherBox : FigureBox ℚ}
    (boxed : scene.nodeBox? handles (leaf one) = some box)
    (otherBoxed : scene.nodeBox? handles (leaf other) = some otherBox) :
    box.Precedes cut.orientation otherBox := by
  have sound := spaced.sound proper
  rw [LiesIn] at lies
  rcases lies.2.exists_cell found with ⟨cell, known, inside⟩
  rcases lies.2.exists_cell otherFound with ⟨otherCell, otherKnown, otherInside⟩
  rw [Nat.zero_add] at known otherKnown
  have within := inside.leaf_within
    (spaced.of_lineage (.child .root (List.mem_of_getElem? found))) (sound.cellBox known).1 below
    boxed
  have otherWithin := otherInside.leaf_within
    (spaced.of_lineage (.child .root (List.mem_of_getElem? otherFound)))
    (sound.cellBox otherKnown).1 otherBelow otherBoxed
  have cells : cell.Precedes cut.orientation otherCell := by
    cases direction : cut.orientation with
    | columns =>
      refine sound.precedes_columns ?_ earlier known otherKnown
      simp only [GridRequest.ofCut, Cut.shape, direction]
    | rows =>
      refine sound.precedes_rows ?_ earlier known otherKnown
      simp only [GridRequest.ofCut, Cut.shape, direction]
  exact cells.mono within otherWithin

end Node

/-- A tree whose root lies in a proper box is laid out within it. -/
theorem Node.LiesIn.laysOut {scene : Scene ℚ} {handles : Scene.Handles ℚ} {outer : FigureBox ℚ}
    {tree : PartitionTree ℚ} (lies : tree.root.LiesIn scene handles outer)
    (spaced : tree.root.Spaced) (proper : outer.Proper) : scene.LaysOut handles outer tree := by
  constructor
  · intro node member id named
    rcases Node.mem_descendants_iff.1 member with ⟨above, lineage⟩
    rcases lies.of_lineage spaced proper lineage with ⟨box, inside, wide, within⟩
    exact ⟨box, inside.nodeBox? named, wide, within⟩
  · intro cut children member
    rcases Node.mem_descendants_iff.1 member with ⟨above, lineage⟩
    rcases lies.of_lineage spaced proper lineage with ⟨box, inside, wide, -⟩
    have sound := (spaced.of_lineage lineage).sound wide
    rw [Node.LiesIn] at inside
    refine ⟨_, inside.1, fun index child found => ?_⟩
    rcases inside.2.exists_cell found with ⟨cell, known, below⟩
    rw [Nat.zero_add] at known
    rcases sound.cellBox known with ⟨cellProper, cellWithin⟩
    refine ⟨cell, known, cellProper, cellWithin, fun own boxed => ?_⟩
    cases child with
    | leaf contents =>
      cases boxed.symm.trans (below.nodeBox? rfl)
      exact .refl cell
    | split inner others =>
      cases boxed.symm.trans (below.nodeBox? rfl)
      exact .refl cell
    | blank region => cases boxed
  · intro cut children member index later child sibling earlier found otherFound one below other
      otherBelow box otherBox boxed otherBoxed
    rcases Node.mem_descendants_iff.1 member with ⟨above, lineage⟩
    rcases lies.of_lineage spaced proper lineage with ⟨own, inside, wide, -⟩
    exact inside.ordered (spaced.of_lineage lineage) wide earlier found otherFound below otherBelow
      boxed otherBoxed
  · intro one member other otherMember different box otherBox boxed otherBoxed
    rcases Node.exists_fork tree.root member otherMember fun same =>
      different (congrArg Leaf.label same) with
      ⟨above, cut, children, index, later, child, sibling, lineage, unequal, found, otherFound, below,
        otherBelow⟩
    rcases lies.of_lineage spaced proper lineage with ⟨own, inside, wide, -⟩
    have part := spaced.of_lineage lineage
    refine ⟨cut.orientation, ?_⟩
    rcases Nat.lt_or_gt_of_ne unequal with earlier | earlier
    · exact Or.inl (inside.ordered part wide earlier found otherFound below otherBelow boxed
        otherBoxed)
    · exact Or.inr (inside.ordered part wide earlier otherFound found otherBelow below otherBoxed
        boxed)

end Mosaic
