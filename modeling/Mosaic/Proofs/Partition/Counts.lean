import Mosaic.Proofs.Partition.Reproduction
import Mosaic.Proofs.Tree.Lineage

/-!
# What is counted while a drawing is cut up

Every call counts its own region when it is entered, and nothing later.  So the counts of
a run that comes to an end are those of the nodes of the tree, whatever the order of the
calls.  Depth is noted at splits and leaves but never at blanks, while the depth of a tree
goes by its splits alone.  Both agree because the labels of a split go on into its pieces:
one of them at least is not blank.
-/

namespace Mosaic

variable {α : Type}

/-! ## Counts of a tree -/

/-- The empty region that a node is. -/
def Node.emptyRegion? : Node α → Option CellRect
  | leaf _ => none
  | split _ _ => none
  | blank region => some region

/-- The grid lines that are looked at for a split: all column lines inside its region, and
all row lines as well if it is cut into rows. -/
def Cut.linesExamined (cut : Cut α) : Nat :=
  match cut.orientation with
  | .columns => cut.region.width - 1
  | .rows => (cut.region.width - 1) + (cut.region.height - 1)

namespace PartitionTree

def blanks (tree : PartitionTree α) : List CellRect :=
  tree.root.descendants.filterMap Node.emptyRegion?

/-- The grid lines that are looked at for all splits together. -/
def linesExamined (tree : PartitionTree α) : Nat :=
  (tree.splits.map fun split => split.1.linesExamined).sum

end PartitionTree

/-! ## Tallies -/

namespace Tally

theorem raise_zero {count : Nat} (fits : count ≤ largest) : raise count 0 = count :=
  Nat.min_eq_left fits

/-- Raising a count by parts loses nothing more than raising it at once. -/
theorem raise_raise (count first second : Nat) :
    raise (raise count first) second = raise count (first + second) := by
  unfold raise
  omega

/-- Is each count one that is kept? -/
structure Fits (tally : Tally) : Prop where
  splits : tally.splits ≤ largest
  leaves : tally.leaves ≤ largest
  blanks : tally.blanks ≤ largest
  cutsExamined : tally.cutsExamined ≤ largest

/-- Each count is raised by what some nodes add to it. -/
structure Counted (before : Tally) (nodes : List (Node α)) (after : Tally) : Prop where
  labels : after.labels = before.labels
  splits : after.splits = raise before.splits (nodes.filterMap Node.cut?).length
  leaves : after.leaves = raise before.leaves (nodes.filterMap Node.leaf?).length
  blanks : after.blanks = raise before.blanks (nodes.filterMap Node.emptyRegion?).length
  cutsExamined : after.cutsExamined =
    raise before.cutsExamined
      ((nodes.filterMap Node.cut?).map fun split => split.1.linesExamined).sum

namespace Counted

variable {before between after : Tally} {front back : List (Node α)}

theorem fits (counted : before.Counted front after) : after.Fits :=
  ⟨counted.splits ▸ raise_le _ _, counted.leaves ▸ raise_le _ _, counted.blanks ▸ raise_le _ _,
    counted.cutsExamined ▸ raise_le _ _⟩

theorem nil (fits : before.Fits) : before.Counted ([] : List (Node α)) before :=
  ⟨rfl, (raise_zero fits.splits).symm, (raise_zero fits.leaves).symm,
    (raise_zero fits.blanks).symm, (raise_zero fits.cutsExamined).symm⟩

theorem append (first : before.Counted front between) (later : between.Counted back after) :
    before.Counted (front ++ back) after := by
  constructor
  · rw [later.labels, first.labels]
  · rw [later.splits, first.splits, raise_raise, List.filterMap_append, List.length_append]
  · rw [later.leaves, first.leaves, raise_raise, List.filterMap_append, List.length_append]
  · rw [later.blanks, first.blanks, raise_raise, List.filterMap_append, List.length_append]
  · rw [later.cutsExamined, first.cutsExamined, raise_raise, List.filterMap_append,
      List.map_append, List.sum_append]

theorem blank (fits : before.Fits) (region : CellRect) :
    before.Counted [(Node.blank region : Node α)] before.recordBlank :=
  ⟨rfl, (raise_zero fits.splits).symm, (raise_zero fits.leaves).symm, rfl,
    (raise_zero fits.cutsExamined).symm⟩

theorem leaf (fits : before.Fits) (contents : Leaf) (depth : Nat) :
    before.Counted [(Node.leaf contents : Node α)] (before.recordLeaf depth) :=
  ⟨rfl, (raise_zero fits.splits).symm, rfl, (raise_zero fits.blanks).symm,
    (raise_zero fits.cutsExamined).symm⟩

theorem split (fits : before.Fits) (cut : Cut α) (children : List (Node α)) (depth : Nat) :
    before.Counted [Node.split cut children]
      ((before.recordCuts cut.linesExamined).recordSplit depth) :=
  ⟨rfl, rfl, (raise_zero fits.leaves).symm, (raise_zero fits.blanks).symm, rfl⟩

end Counted

end Tally

/-! ## One run -/

variable {spacingAt : Nat → Spacing α} {region : CellRect} {labels members : List LabelRegion}
  {depth : Nat} {before after : Progress}

/-- The lines that a call looks at are those of the split that it makes. -/
theorem CellRect.linesExamined_eq (region : CellRect) (cut : Cut α) (same : cut.region = region) :
    region.linesExamined (some cut.orientation) = cut.linesExamined := by
  subst same
  unfold linesExamined Cut.linesExamined width height
  cases cut.orientation <;> simp

/-- What the calls on the pieces of a region count adds up. -/
theorem counted_of_swept {pieces : List Span} {children : List (Node α)}
    (swept : Swept (fun _ before child after =>
        before.tally.Fits → before.tally.Counted child.descendants after.tally)
      pieces before children after) (fits : before.tally.Fits) :
    before.tally.Counted (children.flatMap Node.descendants) after.tally := by
  induction swept with
  | nil state => exact .nil fits
  | cons here later ih =>
    rw [List.flatMap_cons]
    exact (here fits).append (ih (here fits).fits)

/-- A run that comes to an end counts the nodes that it makes. -/
theorem counted_of_ok {node : Node α}
    (done : partitionRegion spacingAt region members depth before = .ok node after)
    (fits : before.tally.Fits) : before.tally.Counted node.descendants after.tally := by
  revert fits
  refine partitionRegion_induction (motive := fun _ _ _ before node after =>
    before.tally.Fits → before.tally.Counted node.descendants after.tally) ?_ ?_ ?_ done
  · intro region depth before fits
    rw [Node.descendants_blank]
    exact .blank fits region
  · intro region members depth before label nonempty sole fits
    rw [Node.descendants_leaf]
    exact .leaf fits _ depth
  · intro region members depth before orientation children after cutInto swept fits
    have own := Tally.Counted.split fits
      { id := (before.names.split (members.map LabelRegion.label)).1, orientation, region, depth
        ratios := (region.pieces orientation members).map Span.size, spacing := spacingAt depth }
      children depth
    rw [← CellRect.linesExamined_eq region _ rfl] at own
    rw [Node.descendants_split]
    exact own.append (counted_of_swept swept own.fits)

/-- Some piece of a region that is cut has a label. -/
theorem Frames.exists_piece (frames : Frames labels region members) (laidOut : LaidOut labels)
    (orientation : Orientation) (nonempty : members ≠ []) :
    ∃ piece ∈ region.pieces orientation members,
      (region.slice orientation piece).membersIn members ≠ [] := by
  rcases List.exists_mem_of_ne_nil members nonempty with ⟨member, found⟩
  rcases List.mem_flatMap.1 ((frames.perm_membersIn laidOut orientation).mem_iff.2 found) with
    ⟨piece, listed, inside⟩
  exact ⟨piece, listed, List.ne_nil_of_mem inside⟩

/-- The depth that is noted is that of the region, if it has labels, and that of the splits
in it. -/
def Tally.Deepened (before : Tally) (members : List LabelRegion) (depth : Nat) (node : Node α)
    (after : Tally) : Prop :=
  ∀ bound, after.maxDepth ≤ bound ↔ before.maxDepth ≤ bound ∧ (members ≠ [] → depth ≤ bound) ∧
    ∀ split ∈ node.splits, split.1.depth + 1 ≤ bound

theorem deepened_of_swept {orientation : Orientation} {pieces : List Span}
    {children : List (Node α)}
    (swept : Swept (fun piece before child after => before.tally.Deepened
        ((region.slice orientation piece).membersIn members) depth child after.tally)
      pieces before children after) (bound : Nat) :
    after.tally.maxDepth ≤ bound ↔ before.tally.maxDepth ≤ bound ∧
      (∀ piece ∈ pieces, (region.slice orientation piece).membersIn members ≠ [] → depth ≤ bound) ∧
        ∀ split ∈ children.flatMap Node.splits, split.1.depth + 1 ≤ bound := by
  induction swept with
  | nil state => simp
  | cons here later ih =>
    rw [ih, here bound, List.forall_mem_cons, List.flatMap_cons, List.forall_mem_append]
    tauto

/-- A split is as deep as one of its pieces, less one level. -/
theorem deepened_of_ok {node : Node α} (laidOut : LaidOut labels)
    (done : partitionRegion spacingAt region members depth before = .ok node after)
    (frames : Frames labels region members) :
    before.tally.Deepened members depth node after.tally := by
  revert frames
  refine partitionRegion_induction (motive := fun region members depth before node after =>
    Frames labels region members → before.tally.Deepened members depth node after.tally)
    ?_ ?_ ?_ done
  · intro region depth before frames bound
    simp [Node.splits, Node.descendants_blank, Node.cut?, Tally.recordBlank]
  · intro region members depth before label nonempty sole frames bound
    simp [Node.splits, Node.descendants_leaf, Node.cut?, Tally.recordLeaf, nonempty]
  · intro region members depth before orientation children after cutInto swept frames bound
    have own : ((before.enterSplit region members orientation depth).tally.maxDepth ≤ bound) ↔
        before.tally.maxDepth ≤ bound ∧ depth ≤ bound := Nat.max_le
    have deeper := deepened_of_swept
      (swept.imp_of_mem fun piece member _ _ _ deepens => deepens (frames.piece member)) bound
    rcases frames.exists_piece laidOut orientation cutInto.1 with
      ⟨piece, listed, labelled⟩
    have below : (∀ piece ∈ region.pieces orientation members,
        (region.slice orientation piece).membersIn members ≠ [] → depth + 1 ≤ bound) ↔
          depth + 1 ≤ bound :=
      ⟨fun each => each piece listed labelled, fun deep _ _ _ => deep⟩
    rw [deeper, below, own, Node.splits_split, List.forall_mem_cons]
    constructor
    · rintro ⟨⟨earlier, deep⟩, deepest, inner⟩
      exact ⟨earlier, fun _ => deep, deepest, inner⟩
    · rintro ⟨earlier, deep, deepest, inner⟩
      exact ⟨⟨earlier, deep cutInto.1⟩, deepest, inner⟩

/-! ## Whole drawings -/

/-- Does a tally have room for what a tree adds to it? -/
structure Tally.HasRoomFor (tally : Tally) (tree : PartitionTree α) : Prop where
  splits : tally.splits + tree.splits.length ≤ largest
  leaves : tally.leaves + tree.leaves.length ≤ largest
  blanks : tally.blanks + tree.blanks.length ≤ largest
  cutsExamined : tally.cutsExamined + tree.linesExamined ≤ largest

theorem Tally.HasRoomFor.fits {tally : Tally} {tree : PartitionTree α}
    (room : tally.HasRoomFor tree) : tally.Fits :=
  ⟨Nat.le_of_add_right_le room.splits, Nat.le_of_add_right_le room.leaves,
    Nat.le_of_add_right_le room.blanks, Nat.le_of_add_right_le room.cutsExamined⟩

theorem PartitionTree.maxDepth_le_iff_splits {tree : PartitionTree α} {bound : Nat} :
    tree.maxDepth ≤ bound ↔ ∀ split ∈ tree.root.splits, split.1.depth + 1 ≤ bound := by
  rw [maxDepth_le_iff]
  constructor
  · rintro each ⟨cut, childCount⟩ listed
    rcases Node.mem_splits_iff.1 listed with ⟨children, member, -⟩
    exact each cut children member
  · intro each cut children member
    exact each _ (Node.mem_splits_iff.2 ⟨children, member, rfl⟩)

namespace ArtGrid

variable {grid : ArtGrid} {settings : Settings} {tree : PartitionTree Float}

theorem exists_run_of_partitionCounted {before after : Tally}
    (made : grid.partitionCounted settings before = (.ok tree, after)) :
    ∃ progress, progress.tally = after ∧
      partitionRegion settings.spacingAt grid.bounds grid.labels 0
        ⟨NamePool.empty, before.recordLabels grid.labels.length⟩ = .ok tree.root progress := by
  rw [partitionCounted_eq grid (valid_of_partitionCounted_ok made)] at made
  cases done : partitionRegion settings.spacingAt grid.bounds grid.labels 0
      ⟨NamePool.empty, before.recordLabels grid.labels.length⟩ with
  | error fault progress =>
    rw [done] at made
    cases made
  | ok root progress =>
    rw [done] at made
    cases made
    exact ⟨progress, rfl, rfl⟩

/-- When a drawing that was read is partitioned, the tally is raised by what its tree
contains, and its labels are the leaves. -/
theorem tally_of_partition {lines : List (List Char)} {blank : Char} {before after : Tally}
    (read : ArtGrid.ofLines lines blank = .ok grid) (room : before.HasRoomFor tree)
    (made : grid.partitionCounted settings before = (.ok tree, after)) :
    (after.labels = grid.labels.length ∧ grid.labels.length = tree.leaves.length) ∧
      after.splits = before.splits + tree.splits.length ∧
      after.leaves = before.leaves + tree.leaves.length ∧
      after.blanks = before.blanks + tree.blanks.length ∧
      after.cutsExamined = before.cutsExamined + tree.linesExamined ∧
      after.maxDepth = max before.maxDepth tree.maxDepth := by
  have solid := ArtGrid.solid_of_ofLines read
  rcases exists_run_of_partitionCounted made with ⟨progress, rfl, done⟩
  have shown := (fills_of_ok solid.laidOut done solid.frames).leaves
  have fits : (before.recordLabels grid.labels.length).Fits :=
    ⟨room.fits.splits, room.fits.leaves, room.fits.blanks, room.fits.cutsExamined⟩
  have counted := counted_of_ok done fits
  have deepened := deepened_of_ok solid.laidOut done solid.frames
  refine ⟨⟨counted.labels, ?_⟩, ?_, ?_, ?_, ?_, ?_⟩
  · rw [← shown.length_eq, List.length_map]
    rfl
  · exact counted.splits.trans (Tally.raise_eq_add room.splits)
  · exact counted.leaves.trans (Tally.raise_eq_add room.leaves)
  · exact counted.blanks.trans (Tally.raise_eq_add room.blanks)
  · exact counted.cutsExamined.trans (Tally.raise_eq_add room.cutsExamined)
  · apply eq_of_forall_ge_iff
    intro bound
    rw [deepened bound, max_le_iff, PartitionTree.maxDepth_le_iff_splits]
    constructor
    · exact fun ⟨earlier, _, deep⟩ => ⟨earlier, deep⟩
    · exact fun ⟨earlier, deep⟩ => ⟨earlier, fun _ => Nat.zero_le bound, deep⟩

/-- A tally that was kept from earlier drawings. -/
def earlierTally : Tally := ⟨7, 10, 20, 30, 40, 2⟩

theorem partitionCounted_mixed :
    mixed.partitionCounted Settings.default earlierTally =
      (.ok mixedTree, ⟨3, 13, 23, 31, 45, 3⟩) := by
  have run : partitionRegion Settings.default.spacingAt mixed.bounds mixed.labels 0
      ⟨NamePool.empty, earlierTally.recordLabels mixed.labels.length⟩ =
        .ok (mixedRoot Settings.default.spacingAt)
          ⟨⟨["ax_C", "ax_B", "gs_B", "ax_A", "gs_AB", "gs_ABC"]⟩, ⟨3, 13, 23, 31, 45, 3⟩⟩ := by
    generalize Settings.default.spacingAt = spacingAt
    cbv
  rw [partitionCounted_eq mixed (by decide +kernel), run]
  rfl

theorem tally_of_partition_mixed :
    ArtGrid.ofLines [['A', 'A', 'C'], ['B', '.', 'C']] '.' = .ok mixed ∧
      earlierTally.HasRoomFor mixedTree ∧
      mixed.partitionCounted Settings.default earlierTally =
        (.ok mixedTree, ⟨3, 13, 23, 31, 45, 3⟩) ∧
      (3 = mixed.labels.length ∧ mixed.labels.length = mixedTree.leaves.length) ∧
      13 = 10 + mixedTree.splits.length ∧ 23 = 20 + mixedTree.leaves.length ∧
      31 = 30 + mixedTree.blanks.length ∧ 45 = 40 + mixedTree.linesExamined ∧
        3 = max 2 mixedTree.maxDepth := by
  have room : earlierTally.HasRoomFor mixedTree := by
    constructor <;> decide +kernel
  exact ⟨ofLines_mixed, room, partitionCounted_mixed,
    tally_of_partition ofLines_mixed room partitionCounted_mixed⟩

end ArtGrid
end Mosaic
