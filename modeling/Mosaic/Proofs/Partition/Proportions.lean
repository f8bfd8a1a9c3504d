import Mosaic.Canvas.Basic
import Mosaic.Proofs.Partition.Descent
import Mosaic.Proofs.Partition.Reproduction

/-!
# Proportions of a partition

The children of a split lie side by side and fill its region, and each ratio is the
extent of one child.  So the grid that is wanted for a split has one cell for each
child, and as many ratios as rows and columns.  This holds of every split of the
partition of a drawing, however deep it lies and whatever blanks are around it.
-/

namespace Mosaic

variable {α : Type}

/-- A split whose children make up its region, in proportion to its ratios. -/
structure Cut.Proportioned (cut : Cut α) (children : List (Node α)) : Prop where
  several : 2 ≤ children.length
  matched : cut.ratios.length = children.length
  /-- Along the direction the children are laid end to end. -/
  tiles : (cut.region.along cut.orientation).Tiles
    (children.map fun child => child.region.along cut.orientation)
  /-- Across it each child has the full extent of the region. -/
  across : ∀ child ∈ children,
    child.region = cut.region.slice cut.orientation (child.region.along cut.orientation)
  ratios : cut.ratios = children.map fun child => (child.region.along cut.orientation).size
  positive : ∀ ratio ∈ cut.ratios, 0 < ratio
  total : cut.ratios.sum = (cut.region.along cut.orientation).size

/-- A request for a grid of so many cells, with a ratio for each row and column. -/
structure GridRequest.Fits (request : GridRequest α) (cellCount : Nat) : Prop where
  cells : request.nrows * request.ncols = cellCount
  heights : request.heightRatios.length = request.nrows
  widths : request.widthRatios.length = request.ncols

theorem Cut.Proportioned.request_fits [Scalar α] {cut : Cut α} {children : List (Node α)}
    (proportioned : cut.Proportioned children) :
    (GridRequest.ofCut cut children.length).Fits children.length := by
  have matched := proportioned.matched
  cases direction : cut.orientation with
  | columns =>
    constructor
    · simp only [GridRequest.ofCut, shape, direction, Nat.one_mul]
    · simp only [GridRequest.ofCut, heightRatios, shape, direction, List.length_singleton]
    · simpa only [GridRequest.ofCut, widthRatios, shape, direction] using matched
  | rows =>
    constructor
    · simp only [GridRequest.ofCut, shape, direction, Nat.mul_one]
    · simpa only [GridRequest.ofCut, heightRatios, shape, direction] using matched
    · simp only [GridRequest.ofCut, widthRatios, shape, direction, List.length_singleton]

/-- Cutting at clean lines keeps proportions. -/
theorem Cut.MadeAt.proportioned {spacingAt : Nat → Spacing α} {labels members : List LabelRegion}
    {depth : Nat} {cut : Cut α} {children : List (Node α)}
    (made : cut.MadeAt spacingAt labels members depth children) : cut.Proportioned children := by
  have tiles : (cut.region.along cut.orientation).Tiles
      (children.map fun child => child.region.along cut.orientation) := by
    rw [made.spans]
    exact (cut.region.cutLines_cleanLines cut.orientation members).tiles
      (made.frames.upright.along cut.orientation)
  have ratios : cut.ratios =
      (children.map fun child => child.region.along cut.orientation).map Span.size := by
    rw [made.spans, made.ratios]
  constructor
  · rw [made.length_eq]
    exact CellRect.direction?_several made.cutInto.2.2
  · rw [ratios, List.length_map, List.length_map]
  · exact tiles
  · exact made.across
  · rw [ratios, List.map_map]
    rfl
  · intro ratio listed
    rw [ratios] at listed
    rcases List.mem_map.1 listed with ⟨span, -, rfl⟩
    exact Nat.succ_pos _
  · rw [ratios]
    exact tiles.sum_size.2

/-- Every split of the partition of a drawing keeps proportions, has the depth and
the spacing that belong to the splits above it, and asks for a grid that fits. -/
theorem proportioned_of_partition {lines : List (List Char)} {blank : Char} {grid : ArtGrid}
    {settings : Settings} {tree : PartitionTree Float}
    (read : ArtGrid.ofLines lines blank = .ok grid) (made : grid.partition settings = .ok tree)
    {above : List (Node Float)} {cut : Cut Float} {children : List (Node Float)}
    (lineage : tree.root.Lineage above (.split cut children)) :
    cut.Proportioned children ∧ cut.depth = above.length ∧
      cut.spacing = settings.spacingAt cut.depth ∧
        (GridRequest.ofCut cut children.length).Fits children.length := by
  rcases (ArtGrid.solid_of_ofLines read).cut_madeAt made lineage with ⟨members, known⟩
  have proportioned := known.proportioned
  refine ⟨proportioned, known.level, ?_, proportioned.request_fits⟩
  rw [known.level, known.spaced]

theorem proportioned_of_partition_mixed :
    ArtGrid.ofLines [['A', 'A', 'C'], ['B', '.', 'C']] '.' = .ok mixed ∧
      mixed.partition Settings.default = .ok mixedTree ∧
      ∃ above cut children, mixedTree.root.Lineage above (.split cut children) ∧
        above.length = 2 ∧ cut.Proportioned children ∧ cut.depth = above.length ∧
          cut.spacing = Settings.default.spacingAt cut.depth ∧
            (GridRequest.ofCut cut children.length).Fits children.length := by
  have start : mixedTree.root.Lineage [] mixedTree.root := .root
  have lineage := (start.child List.mem_cons_self).child
    (List.mem_cons_of_mem _ List.mem_cons_self)
  exact ⟨ofLines_mixed, partition_mixed, _, _, _, lineage, rfl,
    proportioned_of_partition ofLines_mixed partition_mixed lineage⟩

end Mosaic
