import Mosaic.Proofs.Partition.Names

/-!
# What a partition is

A node is a partition of its region when each split in it is cut at all clean lines of
its direction and has the name that its labels and those of its parent call for.  This
is said of a node and its children alone, without the order in which regions are cut
up or names are given out.  There is at most one partition of a region, it leaves no
region that cannot be cut, and it is what cutting makes.
-/

namespace Mosaic

variable {α : Type} {spacingAt : Nat → Spacing α} {labels members others : List LabelRegion}
  {region other : CellRect} {depth : Nat} {parent : Option (List Char)} {node : Node α}

/-- The labels of some regions, in the order of their code points. -/
def LabelRegion.sortedLabels (members : List LabelRegion) : List Char :=
  NodeName.sorted (members.map LabelRegion.label)

/-- The name of a split over the given labels, with a number if its parent has the same. -/
def NodeName.underParent (parent : Option (List Char)) (labels : List Char) : String :=
  "gs_" ++ String.ofList labels ++ (if parent = some labels then "_2" else "")

/-- The partition of a region that no label crosses, `depth` splits down and below a split
with the labels `parent`. -/
inductive Node.IsPartition (spacingAt : Nat → Spacing α) (labels : List LabelRegion) :
    Option (List Char) → Nat → Node α → Prop
  | blank {parent : Option (List Char)} {depth : Nat} {region : CellRect}
      (frames : Frames labels region []) :
      IsPartition spacingAt labels parent depth (.blank region)
  | leaf {parent : Option (List Char)} {depth : Nat} {label : LabelRegion}
      (frames : Frames labels label.bounds [label]) :
      IsPartition spacingAt labels parent depth
        (.leaf ⟨NodeName.ofLeaf label.label, label.label, label.bounds⟩)
  | split {parent : Option (List Char)} {depth : Nat} {members : List LabelRegion} {cut : Cut α}
      {children : List (Node α)} (made : cut.MadeAt spacingAt labels members depth children)
      (named : cut.id = NodeName.underParent parent (LabelRegion.sortedLabels members))
      (below : ∀ child ∈ children, IsPartition spacingAt labels
        (some (LabelRegion.sortedLabels members)) (depth + 1) child) :
      IsPartition spacingAt labels parent depth (.split cut children)

/-! ## One partition only -/

/-- A cut is determined by its region, its name and the labels in the region. -/
theorem Cut.MadeAt.eq_of_region {cut twin : Cut α} {children twins : List (Node α)}
    (made : cut.MadeAt spacingAt labels members depth children)
    (twinMade : twin.MadeAt spacingAt labels members depth twins)
    (same : cut.region = twin.region) (alike : cut.id = twin.id) :
    cut = twin ∧ children.map Node.region = twins.map Node.region := by
  have chosen := made.cutInto.2.2
  rw [same, twinMade.cutInto.2.2] at chosen
  have direction : twin.orientation = cut.orientation := Option.some.inj chosen
  have spans := made.spans
  rw [same, ← direction, ← twinMade.spans] at spans
  have regions : ∀ {split : Cut α} {parts : List (Node α)},
      split.MadeAt spacingAt labels members depth parts → parts.map Node.region =
        (parts.map fun part => part.region.along split.orientation).map
          (split.region.slice split.orientation) := by
    intro split parts known
    rw [List.map_map]
    exact List.map_congr_left known.across
  constructor
  · have depths := made.level.trans twinMade.level.symm
    have spaced := made.spaced.trans twinMade.spaced.symm
    have ratios := made.ratios
    rw [same, ← direction, ← twinMade.ratios] at ratios
    cases cut
    cases twin
    cases same
    cases alike
    cases direction
    cases depths
    cases spaced
    cases ratios
    rfl
  · rw [regions made, regions twinMade, same, ← direction, spans]

/-- Lists are the same if their images are and entries are told apart by their images. -/
private theorem eq_of_map_eq {β γ : Type} {image : β → γ} {entries twins : List β}
    (same : entries.map image = twins.map image)
    (told : ∀ entry ∈ entries, ∀ twin ∈ twins, image entry = image twin → entry = twin) :
    entries = twins := by
  induction entries generalizing twins with
  | nil => exact (List.map_eq_nil_iff.1 same.symm).symm
  | cons entry entries ih =>
    rcases List.map_eq_cons_iff.1 same.symm with ⟨twin, rest, rfl, first, later⟩
    rw [told entry List.mem_cons_self twin List.mem_cons_self first.symm,
      ih later.symm fun one member two found =>
        told one (List.mem_cons_of_mem _ member) two (List.mem_cons_of_mem _ found)]

/-- The labels in a region decide what it is framed with. -/
private theorem Frames.unique (frames : Frames labels region members)
    (otherFrames : Frames labels region others) : members = others :=
  frames.members_eq.trans otherFrames.members_eq.symm

/-- A region with no label inside is not cut. -/
private theorem Cut.MadeAt.ne_blank {cut : Cut α} {children : List (Node α)}
    (made : cut.MadeAt spacingAt labels members depth children)
    (frames : Frames labels region []) : cut.region ≠ region := by
  rintro rfl
  exact made.cutInto.1 (made.frames.unique frames)

/-- Nor is a region that one label fills. -/
private theorem Cut.MadeAt.ne_leaf {cut : Cut α} {children : List (Node α)}
    (made : cut.MadeAt spacingAt labels members depth children) {label : LabelRegion}
    (frames : Frames labels label.bounds [label]) : cut.region ≠ label.bounds := by
  intro same
  have several := made.cutInto.2.1
  have only := made.frames
  rw [same] at only
  rw [only.unique frames, CellRect.soleLabel?, if_pos same.symm] at several
  cases several

namespace Node.IsPartition

/-- A region has at most one partition. -/
theorem unique {twin : Node α} (partition : node.IsPartition spacingAt labels parent depth)
    (twinPartition : twin.IsPartition spacingAt labels parent depth)
    (same : node.region = twin.region) : node = twin := by
  induction partition generalizing twin with
  | @blank _ _ region frames =>
    cases twinPartition with
    | blank twinFrames => exact congrArg Node.blank same
    | @leaf _ _ label twinFrames =>
      change region = label.bounds at same
      rw [same] at frames
      cases frames.unique twinFrames
    | split made named below => exact absurd same.symm (made.ne_blank frames)
  | @leaf _ _ label frames =>
    cases twinPartition with
    | @blank _ _ region twinFrames =>
      change label.bounds = region at same
      rw [same] at frames
      cases frames.unique twinFrames
    | @leaf _ _ other twinFrames =>
      change label.bounds = other.bounds at same
      rw [same] at frames
      cases frames.unique twinFrames
      rfl
    | split made named below => exact absurd same.symm (made.ne_leaf frames)
  | @split parent depth members cut children made named below ih =>
    cases twinPartition with
    | blank twinFrames => exact absurd same (made.ne_blank twinFrames)
    | leaf twinFrames => exact absurd same (made.ne_leaf twinFrames)
    | @split _ _ others other twins twinMade twinNamed twinBelow =>
      change cut.region = other.region at same
      have frames := made.frames
      rw [same] at frames
      cases frames.unique twinMade.frames
      rcases made.eq_of_region twinMade same (named.trans twinNamed.symm) with ⟨rfl, regions⟩
      have alike : children = twins := eq_of_map_eq regions
        fun child member other found => ih child member (twinBelow other found)
      rw [alike]

/-! ## Nothing is stuck -/

theorem not_stuck (partition : node.IsPartition spacingAt labels parent depth)
    (frames : Frames labels node.region members)
    (reached : Reached node.region members other others) : ¬ other.Stuck others := by
  induction partition generalizing members with
  | blank known =>
    cases frames.unique known
    cases reached with
    | here => exact fun stuck => stuck.1 rfl
    | piece cutInto member deeper => exact absurd rfl cutInto.1
  | @leaf _ _ label known =>
    have sole : label.bounds.soleLabel? members = some label.label := by
      rw [frames.unique known]
      exact if_pos rfl
    cases reached with
    | here => exact fun stuck => nomatch stuck.2.1.symm.trans sole
    | piece cutInto member deeper => exact nomatch cutInto.2.1.symm.trans sole
  | @split parent depth listed cut children made named below ih =>
    cases frames.unique made.frames
    cases reached with
    | here => exact fun stuck => nomatch stuck.2.2.symm.trans made.cutInto.2.2
    | @piece _ _ _ _ orientation piece cutInto member deeper =>
      have chosen : orientation = cut.orientation :=
        Option.some.inj (cutInto.2.2.symm.trans made.cutInto.2.2)
      subst chosen
      have framed := frames.piece member
      change piece ∈ cut.region.pieces cut.orientation listed at member
      rw [← made.spans] at member
      rcases List.mem_map.1 member with ⟨child, found, rfl⟩
      have covers := made.across child found
      change Reached (cut.region.slice cut.orientation _) _ other others at deeper
      change Frames labels (cut.region.slice cut.orientation _) _ at framed
      rw [← covers] at deeper framed
      exact ih child found framed deeper

end Node.IsPartition

/-! ## What cutting makes -/

namespace ArtGrid.Solid

variable {grid : ArtGrid} {settings : Settings} {tree : PartitionTree Float}

theorem labels_eq_sortedLabels (solid : grid.Solid) (made : grid.partition settings = .ok tree)
    {node : Node Float} {above : List (Node Float)} (lineage : tree.root.Lineage above node)
    (frames : Frames grid.labels node.region members) :
    node.labels = LabelRegion.sortedLabels members := by
  rcases solid.exists_call made lineage with ⟨others, start, stop, framed, done⟩
  rw [frames.members_eq, ← framed.members_eq]
  exact NodeName.sorted_eq_of_perm
    (node.perm_labels.symm.trans (fills_of_ok solid.laidOut done framed).perm_labels)

/-- Every node that cutting makes is a partition of its region. -/
theorem isPartition_of_lineage (solid : grid.Solid) (made : grid.partition settings = .ok tree)
    {node : Node Float} {above : List (Node Float)} (lineage : tree.root.Lineage above node) :
    node.IsPartition settings.spacingAt grid.labels (above.head?.map Node.labels) above.length := by
  induction count : node.region.innerLineCount using Nat.strongRecOn generalizing node above with
  | ind count ih =>
    have named := solid.id?_eq made lineage
    cases solid.madeAt made lineage with
    | blank frames => exact .blank frames
    | leaf frames => exact .leaf frames
    | @split members cut children known =>
      have labelled := solid.labels_eq_sortedLabels made lineage known.frames
      apply Node.IsPartition.split known
      · rw [Node.id?, Node.nameBelow, labelled] at named
        exact Option.some.inj named
      · intro child member
        have fewer := CellRect.innerLineCount_piece known.cutInto.2.2 (known.mem_pieces member)
        rw [← known.across child member] at fewer
        have below := ih _ (count ▸ fewer) (lineage.child member) rfl
        rwa [List.head?_cons, Option.map_some, labelled] at below

/-- A drawing is partitioned into a tree exactly if the root is the partition of all of it. -/
theorem partition_eq_ok_iff (solid : grid.Solid) (valid : settings.validate = .ok ()) :
    grid.partition settings = .ok tree ↔
      (tree.rows = grid.rows ∧ tree.cols = grid.cols ∧ tree.labels = grid.labels) ∧
        tree.root.region = grid.bounds ∧
          tree.root.IsPartition settings.spacingAt grid.labels none 0 := by
  constructor
  · intro made
    rcases partition_ok made with ⟨rows, cols, labels, after, done⟩
    exact ⟨⟨rows, cols, labels⟩, region_of_ok done, solid.isPartition_of_lineage made .root⟩
  · rintro ⟨⟨rows, cols, labels⟩, whole, partition⟩
    cases made : grid.partition settings with
    | error fault =>
      rcases partition_error valid made with ⟨region, members, reached, stuck, -⟩
      rw [← whole] at reached
      exact absurd stuck (partition.not_stuck (whole ▸ solid.frames) reached)
    | ok other =>
      rcases partition_ok made with ⟨otherRows, otherCols, otherLabels, after, done⟩
      have same := (solid.isPartition_of_lineage made .root).unique partition
        ((region_of_ok done).trans whole.symm)
      cases tree
      cases other
      cases otherRows.trans rows.symm
      cases otherCols.trans cols.symm
      cases otherLabels.trans labels.symm
      cases same
      rfl

theorem not_stuck_of_partition (solid : grid.Solid) (made : grid.partition settings = .ok tree)
    (reached : Reached grid.bounds grid.labels region members) : ¬ region.Stuck members := by
  rcases (solid.partition_eq_ok_iff (valid_of_partition_ok made)).1 made with
    ⟨-, whole, partition⟩
  rw [← whole] at reached
  exact partition.not_stuck (whole ▸ solid.frames) reached

end ArtGrid.Solid
end Mosaic
