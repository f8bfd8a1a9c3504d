import Mosaic.Proofs.Partition.Descent
import Mosaic.Proofs.Partition.Reproduction

/-!
# The canonical form of a partition

A split cuts its region at every line of its direction that no label straddles, and
rows are cut only where no column line is left.  So inside a child every line of the
same direction is straddled, and the label that does so lies in the child as well.
From this it follows that directions alternate on the way down and that an empty
child is one cell thick.  With every split above it a region loses a line, in either
direction at every other split, which bounds the depth of the partition.
-/

namespace Mosaic

variable {α : Type}

/-- A line at which one node of a list ends and the next one starts. -/
def Node.IsSeam (orientation : Orientation) (nodes : List (Node α)) (line : Nat) : Prop :=
  ∃ one next, [one, next] <:+: nodes ∧ (one.region.along orientation).last + 1 = line ∧
    (next.region.along orientation).first = line

/-- A split that leaves no cut of its direction undone. -/
structure Cut.Maximal (labels : List LabelRegion) (cut : Cut α) (children : List (Node α)) :
    Prop where
  seams : ∀ line, (cut.region.along cut.orientation).straddles line = true →
    (Node.IsSeam cut.orientation children line ↔
      ¬ cut.region.Straddled labels cut.orientation line)
  columnsFirst : cut.orientation = .rows → ∀ line,
    (cut.region.along .columns).straddles line = true → cut.region.Straddled labels .columns line
  alternates : ∀ inner below, Node.split inner below ∈ children →
    inner.orientation = cut.orientation.across
  thin : ∀ region, Node.blank region ∈ children →
    (region.along cut.orientation).first = (region.along cut.orientation).last

variable {spacingAt : Nat → Spacing α} {labels members : List LabelRegion} {depth : Nat}
  {cut : Cut α} {children : List (Node α)}

/-! ## Inside a piece -/

/-- Inside a piece every line of the direction is straddled by a label of the piece. -/
theorem Frames.straddled_in_piece {region : CellRect} {orientation : Orientation} {span : Span}
    (frames : Frames labels region members) (member : span ∈ region.pieces orientation members)
    {line : Nat} (inside : span.straddles line = true) :
    (region.slice orientation span).Straddled labels orientation line := by
  have cuts := region.cutLines_cleanLines orientation members
  have whole := frames.upright.along orientation
  rcases cuts.run_spec whole span member with ⟨lower, -, upper, -, -⟩
  have straddled : region.Straddled labels orientation line := by
    by_contra free
    have within : (region.along orientation).straddles line = true := by
      rw [Span.straddles_iff] at inside ⊢
      omega
    have clean := cuts.not_straddles whole member line (frames.mem_cleanLines_iff.2 ⟨within, free⟩)
    rw [inside] at clean
    cases clean
  rcases frames.straddled_iff.1 straddled with ⟨label, known, straddles⟩
  rcases frames.mem_iff.1 known with ⟨listed, contained⟩
  have bounds := Span.holds_iff.1 (CellRect.holds_along contained orientation)
  refine ⟨label, listed, (CellRect.slice_contains_iff contained).2 ?_, straddles⟩
  -- no cut separates the label from the piece, since they have the line in common
  apply (cuts.holds_or_apart whole bounds.1 bounds.2
    (fun other clean => (CellRect.mem_cleanLines.1 clean).2 label known) member).resolve_right
  rw [Span.straddles_iff] at inside straddles
  omega

namespace Cut.MadeAt

/-- A child has its place among the pieces. -/
theorem mem_pieces (made : cut.MadeAt spacingAt labels members depth children) {child : Node α}
    (member : child ∈ children) :
    child.region.along cut.orientation ∈ cut.region.pieces cut.orientation members := by
  rw [← made.spans]
  exact List.mem_map_of_mem member

theorem size_lt (made : cut.MadeAt spacingAt labels members depth children) {child : Node α}
    (member : child ∈ children) :
    (child.region.along cut.orientation).size < (cut.region.along cut.orientation).size := by
  have several := CellRect.direction?_several made.cutInto.2.2
  exact Nat.succ_lt_succ (CellRect.piece_shorter several (made.mem_pieces member))

theorem along_across (made : cut.MadeAt spacingAt labels members depth children) {child : Node α}
    (member : child ∈ children) :
    child.region.along cut.orientation.across = cut.region.along cut.orientation.across := by
  rw [made.across child member, CellRect.along_across_slice]

/-- Inside a child every line of the split's direction is straddled by a label of the
child. -/
theorem straddled_in_child (made : cut.MadeAt spacingAt labels members depth children)
    {child : Node α} (member : child ∈ children) {line : Nat}
    (inside : (child.region.along cut.orientation).straddles line = true) :
    child.region.Straddled labels cut.orientation line := by
  rw [made.across child member]
  exact made.frames.straddled_in_piece (made.mem_pieces member) inside

/-- Some line inside a split is straddled by no label. -/
theorem exists_free (made : cut.MadeAt spacingAt labels members depth children) :
    ∃ line, (cut.region.along cut.orientation).straddles line = true ∧
      ¬ cut.region.Straddled labels cut.orientation line := by
  rcases made.cutInto.exists_clean with ⟨line, clean⟩
  exact ⟨line, made.frames.mem_cleanLines_iff.1 clean⟩

/-- A split below a split has the other direction. -/
theorem alternates (made : cut.MadeAt spacingAt labels members depth children) {inner : Cut α}
    {below : List (Node α)} {others : List LabelRegion} {level : Nat}
    (member : Node.split inner below ∈ children)
    (innerMade : inner.MadeAt spacingAt labels others level below) :
    inner.orientation = cut.orientation.across := by
  apply Orientation.eq_across_of_ne
  intro same
  rcases innerMade.exists_free with ⟨line, inside, free⟩
  rw [same] at inside free
  exact free (made.straddled_in_child member inside)

/-- A split is maximal among the cuts of its direction. -/
theorem maximal (made : cut.MadeAt spacingAt labels members depth children)
    (below : ∀ child ∈ children, child.MadeAt spacingAt labels (depth + 1)) :
    cut.Maximal labels children := by
  constructor
  · intro line inside
    have cuts := cut.region.cutLines_cleanLines cut.orientation members
    have clean : line ∈ cut.region.cleanLines cut.orientation members ↔
        ¬ cut.region.Straddled labels cut.orientation line := by
      rw [made.frames.mem_cleanLines_iff]
      exact and_iff_right inside
    rw [← clean, ← cuts.seam_iff]
    change _ ↔ ∃ one next, [one, next] <:+: cut.region.pieces cut.orientation members ∧ _
    rw [← made.spans]
    constructor
    · rintro ⟨one, next, within, joint⟩
      refine ⟨one.region.along cut.orientation, next.region.along cut.orientation, ?_, joint⟩
      exact within.map fun child => child.region.along cut.orientation
    · rintro ⟨one, next, within, joint⟩
      rcases List.infix_map_iff.1 within with ⟨pair, found, same⟩
      rcases List.map_eq_cons_iff.1 same.symm with ⟨first, rest, rfl, rfl, tail⟩
      rcases List.map_eq_singleton_iff.1 tail with ⟨second, rfl, rfl⟩
      exact ⟨first, second, found, joint⟩
  · intro rows line inside
    have cutInto := made.cutInto
    rw [rows] at cutInto
    by_contra free
    exact cutInto.not_mem_cleanLines_columns line (made.frames.mem_cleanLines_iff.2 ⟨inside, free⟩)
  · intro inner under member
    cases below _ member with
    | split innerMade => exact made.alternates member innerMade
  · intro region member
    cases below _ member with
    | blank frames =>
      have proper := frames.upright.along cut.orientation
      by_contra thick
      have inside : (region.along cut.orientation).straddles
          ((region.along cut.orientation).first + 1) = true := by
        rw [Span.straddles_iff]
        omega
      rcases frames.straddled_iff.1 (made.straddled_in_child member inside) with ⟨label, none, -⟩
      exact List.not_mem_nil none

end Cut.MadeAt

/-! ## Depth -/

section Depth

variable {root : Node α} {above : List (Node α)}

/-- With every split on the way down a line is lost. -/
theorem length_add_innerLineCount_le
    (made : ∀ {above node}, root.Lineage above node → node.MadeAt spacingAt labels above.length)
    {node : Node α} (lineage : root.Lineage above node) :
    above.length + node.region.innerLineCount ≤ root.region.innerLineCount := by
  induction lineage with
  | root => exact Nat.le_of_eq (Nat.zero_add _)
  | @child above cut children child parent member ih =>
    cases made parent with
    | split known =>
      have fewer := CellRect.innerLineCount_piece known.cutInto.2.2 (known.mem_pieces member)
      rw [← known.across child member] at fewer
      change _ + cut.region.innerLineCount ≤ _ at ih
      rw [List.length_cons]
      omega

/-- Every other split on the way down takes a row or column from either extent.  One
more split may have the direction of the last one. -/
theorem length_add_size_le
    (made : ∀ {above node}, root.Lineage above node → node.MadeAt spacingAt labels above.length)
    {node : Node α} (lineage : root.Lineage above node) :
    ∀ cut children, node = .split cut children → ∀ orientation,
      above.length + 2 * (cut.region.along orientation).size ≤
        2 * (root.region.along orientation).size +
          if orientation = cut.orientation then 1 else 0 := by
  induction lineage with
  | root =>
    rintro cut children rfl orientation
    rw [List.length_nil, Nat.zero_add]
    exact Nat.le_add_right _ _
  | @child above cut children child parent member ih =>
    rintro inner below rfl orientation
    cases made parent with
    | split known =>
      cases made (parent.child member) with
      | split innerKnown =>
        have turned := known.alternates member innerKnown
        have before := ih cut children rfl orientation
        rw [List.length_cons]
        by_cases same : orientation = cut.orientation
        · have shorter := known.size_lt member
          rw [if_pos same] at before
          rw [← same] at shorter
          change (inner.region.along orientation).size < _ at shorter
          apply Nat.le_trans _ (Nat.le_add_right _ _)
          omega
        · have other := Orientation.eq_across_of_ne same
          have equal := known.along_across member
          change inner.region.along _ = _ at equal
          rw [if_neg same] at before
          rw [if_pos (other.trans turned.symm), other, equal, ← other]
          omega

end Depth

/-! ## Whole drawings -/

/-- The partition of a drawing has no more levels than its extents allow. -/
theorem ArtGrid.Solid.maxDepth_le {grid : ArtGrid} {settings : Settings} {tree : PartitionTree Float}
    (solid : grid.Solid) (made : grid.partition settings = .ok tree) :
    tree.maxDepth ≤ min (tree.rows + tree.cols - 2) (2 * min tree.rows tree.cols - 1) := by
  rcases partition_ok made with ⟨rows, cols, -, after, done⟩
  have whole : tree.root.region = CellRect.full grid.rows grid.cols := region_of_ok done
  have high := solid.rows_pos
  have wide := solid.cols_pos
  rw [PartitionTree.maxDepth_le_iff, rows, cols]
  intro cut children member
  rcases Node.mem_descendants_iff.1 member with ⟨above, lineage⟩
  cases solid.madeAt made lineage with
  | split known =>
    have fewer := length_add_innerLineCount_le (solid.madeAt made) lineage
    have sizes := length_add_size_le (solid.madeAt made) lineage cut children rfl
    rcases known.exists_free with ⟨line, inside, -⟩
    have columns := sizes .columns
    have rows := sizes .rows
    change above.length + cut.region.innerLineCount ≤ _ at fewer
    rw [whole] at fewer columns rows
    rw [known.level]
    rw [Span.straddles_iff] at inside
    simp only [CellRect.innerLineCount, CellRect.full, CellRect.along, Span.size] at fewer columns rows
    cases direction : cut.orientation with
    | columns =>
      rw [direction] at inside
      simp only [direction, CellRect.along, if_true, reduceCtorEq, if_false] at inside columns rows
      omega
    | rows =>
      rw [direction] at inside
      simp only [direction, CellRect.along, if_true, reduceCtorEq, if_false] at inside columns rows
      omega

/-- In the partition of a drawing every split leaves no cut of its direction undone, and
cuts rows only where no column can be cut.  Its depth is bounded by the extents. -/
theorem canonical_of_partition {lines : List (List Char)} {blank : Char} {grid : ArtGrid}
    {settings : Settings} {tree : PartitionTree Float}
    (read : ArtGrid.ofLines lines blank = .ok grid) (made : grid.partition settings = .ok tree) :
    (∀ cut children, Node.split cut children ∈ tree.root.descendants →
      cut.Maximal grid.labels children) ∧
        tree.maxDepth ≤ min (tree.rows + tree.cols - 2) (2 * min tree.rows tree.cols - 1) := by
  have solid := ArtGrid.solid_of_ofLines read
  refine ⟨?_, solid.maxDepth_le made⟩
  intro cut children member
  rcases Node.mem_descendants_iff.1 member with ⟨above, lineage⟩
  cases solid.madeAt made lineage with
  | split known => exact known.maximal fun child inside => solid.madeAt made (lineage.child inside)

theorem canonical_of_partition_mixed :
    ArtGrid.ofLines [['A', 'A', 'C'], ['B', '.', 'C']] '.' = .ok mixed ∧
      mixed.partition Settings.default = .ok mixedTree ∧
      (∀ cut children, Node.split cut children ∈ mixedTree.root.descendants →
        cut.Maximal mixed.labels children) ∧
          mixedTree.maxDepth ≤
            min (mixedTree.rows + mixedTree.cols - 2) (2 * min mixedTree.rows mixedTree.cols - 1) := by
  exact ⟨ofLines_mixed, partition_mixed, canonical_of_partition ofLines_mixed partition_mixed⟩

end Mosaic
