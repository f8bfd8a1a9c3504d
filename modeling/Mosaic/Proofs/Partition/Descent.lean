import Mosaic.Proofs.Partition.Frames
import Mosaic.Proofs.Tree.Lineage

/-!
# What each node was made of

Every node of a partition was made by a call of its own, on its own region and as
many splits down as there are splits above it.  No label crosses that region.  So
each split is known to cut its region at all clean lines of its direction, into one
child for each piece, without looking at the rest of the tree.  Only the names of
splits depend on the rest, and nothing is said about them here.
-/

namespace Mosaic

variable {α : Type} {spacingAt : Nat → Spacing α} {labels members : List LabelRegion}
  {region : CellRect} {depth : Nat} {before after : Progress}

/-- A split that cuts its region at the clean lines of its direction, `depth` splits
down.  The members are the labels that lie in the region. -/
structure Cut.MadeAt (spacingAt : Nat → Spacing α) (labels members : List LabelRegion)
    (depth : Nat) (cut : Cut α) (children : List (Node α)) : Prop where
  frames : Frames labels cut.region members
  cutInto : cut.region.CutInto members cut.orientation
  level : cut.depth = depth
  spaced : cut.spacing = spacingAt depth
  ratios : cut.ratios = (cut.region.pieces cut.orientation members).map Span.size
  spans : children.map (fun child => child.region.along cut.orientation) =
    cut.region.pieces cut.orientation members
  across : ∀ child ∈ children,
    child.region = cut.region.slice cut.orientation (child.region.along cut.orientation)

/-- What cutting makes of a region that no label crosses, `depth` splits down. -/
inductive Node.MadeAt (spacingAt : Nat → Spacing α) (labels : List LabelRegion) (depth : Nat) :
    Node α → Prop
  | blank {region : CellRect} (frames : Frames labels region []) :
      MadeAt spacingAt labels depth (.blank region)
  | leaf {label : LabelRegion} (frames : Frames labels label.bounds [label]) :
      MadeAt spacingAt labels depth
        (.leaf ⟨NodeName.ofLeaf label.label, label.label, label.bounds⟩)
  | split {members : List LabelRegion} {cut : Cut α} {children : List (Node α)}
      (made : cut.MadeAt spacingAt labels members depth children) :
      MadeAt spacingAt labels depth (.split cut children)

theorem Cut.MadeAt.length_eq {cut : Cut α} {children : List (Node α)}
    (made : cut.MadeAt spacingAt labels members depth children) :
    children.length = (cut.region.pieces cut.orientation members).length := by
  rw [← made.spans, List.length_map]

/-- A call makes what its region is cut into. -/
theorem madeAt_of_ok {node : Node α} (frames : Frames labels region members)
    (done : partitionRegion spacingAt region members depth before = .ok node after) :
    node.MadeAt spacingAt labels depth := by
  cases outcome_of_ok done with
  | blank => exact .blank frames
  | leaf nonempty sole =>
    rcases CellRect.eq_singleton_of_soleLabel? sole with ⟨member, rfl, rfl, rfl⟩
    exact .leaf frames
  | @split _ orientation children _ cutInto called =>
    have regions : List.Forall₂ (fun piece (child : Node α) =>
        child.region = region.slice orientation piece)
        (region.pieces orientation members) children :=
      called.forall₂ fun piece before child after finished => region_of_ok finished
    have spans : children.map (fun child => child.region.along orientation) =
        region.pieces orientation members := by
      symm
      rw [← List.forall₂_eq_eq_eq, List.forall₂_map_right_iff]
      apply regions.imp
      intro piece child same
      rw [same, CellRect.along_slice]
    have across : ∀ child ∈ children,
        child.region = region.slice orientation (child.region.along orientation) := by
      intro child member
      rcases called.exists_of_mem_results member with ⟨piece, found, start, stop, finished⟩
      rw [region_of_ok finished, CellRect.along_slice]
    exact .split ⟨frames, cutInto, rfl, rfl, rfl, spans, across⟩

/-- A child of a split was made by a call on a region that no label crosses either. -/
theorem exists_call_of_child {cut : Cut α} {children : List (Node α)} {child : Node α}
    (frames : Frames labels region members)
    (done : partitionRegion spacingAt region members depth before = .ok (.split cut children) after)
    (member : child ∈ children) :
    ∃ others start stop, Frames labels child.region others ∧
      partitionRegion spacingAt child.region others (depth + 1) start = .ok child stop := by
  cases outcome_of_ok done with
  | split cutInto called =>
    rcases called.exists_of_mem_results member with ⟨piece, found, start, stop, finished⟩
    have same := region_of_ok finished
    rw [same]
    exact ⟨_, start, stop, frames.piece found, finished⟩

/-- So was every node, as far down as there are splits above it. -/
theorem exists_call_of_lineage {root node : Node α} {above : List (Node α)}
    (frames : Frames labels root.region members)
    (done : partitionRegion spacingAt root.region members 0 before = .ok root after)
    (lineage : root.Lineage above node) :
    ∃ others start stop, Frames labels node.region others ∧
      partitionRegion spacingAt node.region others above.length start = .ok node stop := by
  induction lineage with
  | root => exact ⟨members, before, after, frames, done⟩
  | child parent member ih =>
    rcases ih with ⟨others, start, stop, framed, made⟩
    exact exists_call_of_child framed made member

namespace ArtGrid

variable {grid : ArtGrid} {settings : Settings} {tree : PartitionTree Float}
  {node : Node Float} {above : List (Node Float)}

/-- In the partition of a drawing every node was made by a call. -/
theorem Solid.exists_call (solid : grid.Solid) (made : grid.partition settings = .ok tree)
    (lineage : tree.root.Lineage above node) :
    ∃ others start stop, Frames grid.labels node.region others ∧
      partitionRegion settings.spacingAt node.region others above.length start =
        .ok node stop := by
  rcases (partition_ok made).2.2.2 with ⟨after, done⟩
  have whole := region_of_ok done
  exact exists_call_of_lineage (whole ▸ solid.frames) (whole ▸ done) lineage

theorem Solid.madeAt (solid : grid.Solid) (made : grid.partition settings = .ok tree)
    (lineage : tree.root.Lineage above node) :
    node.MadeAt settings.spacingAt grid.labels above.length := by
  rcases solid.exists_call made lineage with ⟨others, start, stop, frames, done⟩
  exact madeAt_of_ok frames done

theorem Solid.cut_madeAt (solid : grid.Solid) (made : grid.partition settings = .ok tree)
    {cut : Cut Float} {children : List (Node Float)}
    (lineage : tree.root.Lineage above (.split cut children)) :
    ∃ members, cut.MadeAt settings.spacingAt grid.labels members above.length children := by
  cases solid.madeAt made lineage with
  | split known => exact ⟨_, known⟩

/-- Each split of the partition has the spacing of the settings at some depth. -/
theorem Solid.exists_spacingAt (solid : grid.Solid) (made : grid.partition settings = .ok tree)
    {split : Cut Float × Nat} (member : split ∈ tree.root.splits) :
    ∃ depth, split.1.spacing = settings.spacingAt depth := by
  rcases Node.mem_splits_iff.1 member with ⟨children, below, -⟩
  rcases Node.mem_descendants_iff.1 below with ⟨above, lineage⟩
  rcases solid.cut_madeAt made lineage with ⟨members, known⟩
  exact ⟨above.length, known.spaced⟩

end ArtGrid
end Mosaic
