import Mosaic.Proofs.Partition.Frames
import Mosaic.Proofs.Program.Listing
import Mosaic.Proofs.Tree.Terminals

/-!
# Trees of drawings can be written

The labels of a drawing are letters and digits, so a program can quote them, and
the names of splits are made of labels, digits and underscores.  Every split has
at least two children, each of at least one row or column.  So the tree of a
drawing has a program that can be read back, as long as the drawing's extent fits
a machine word.
-/

namespace Mosaic

/-- Trees that are made of accepted drawings under usable settings. -/
def PartitionTree.IsCompiled (tree : PartitionTree Float) : Prop :=
  ∃ lines blank grid settings, ArtGrid.ofLines lines blank = .ok grid ∧
    grid.rows ≤ Decimal.largestWord ∧ grid.cols ≤ Decimal.largestWord ∧
      grid.partition settings = .ok tree

/-- Can the glyph stand between quotation marks, in one line? -/
def IsQuotable (glyph : Char) : Prop :=
  glyph ≠ '"' ∧ glyph ≠ '\n'

theorem isQuotable_of_isLabelGlyph {glyph : Char} (label : isLabelGlyph glyph = true) :
    IsQuotable glyph := by
  constructor
  · rintro rfl
    exact absurd label (by decide +kernel)
  · rintro rfl
    exact absurd label (by decide +kernel)

theorem isQuotable_of_isDigit {glyph : Char} (digit : glyph.isDigit = true) :
    IsQuotable glyph := by
  constructor
  · rintro rfl
    exact absurd digit (by decide)
  · rintro rfl
    exact absurd digit (by decide)

theorem NamePool.isQuotable_split (pool : NamePool) {labels : List Char}
    (quotable : ∀ label ∈ labels, IsQuotable label) :
    ∀ glyph ∈ (pool.split labels).1.toList, IsQuotable glyph := by
  have base : ∀ glyph ∈ (NodeName.ofLabels labels).toList, IsQuotable glyph := by
    intro glyph member
    unfold NodeName.ofLabels at member
    rw [String.toList_append, List.mem_append] at member
    rcases member with lead | label
    · constructor
      · rintro rfl
        exact absurd lead (by decide)
      · rintro rfl
        exact absurd lead (by decide)
    · rw [String.toList_ofList] at label
      exact quotable glyph ((List.mergeSort_perm labels _).mem_iff.1 label)
  intro glyph member
  rcases NodeName.firstFree_numbered (NodeName.ofLabels labels) 1 pool.issued with
    ⟨number, -, -, same⟩
  change glyph ∈ (NodeName.firstFree _ 1 pool.issued).toList at member
  rw [same] at member
  unfold NodeName.numbered at member
  split at member
  · exact base glyph member
  · rw [String.toList_append, String.toList_append, List.mem_append, List.mem_append] at member
    rcases member with (lead | mark) | digit
    · exact base glyph lead
    · constructor
      · rintro rfl
        exact absurd mark (by decide)
      · rintro rfl
        exact absurd mark (by decide)
    · rw [Nat.toString_eq_repr, Nat.toList_repr] at digit
      exact isQuotable_of_isDigit (Nat.isDigit_of_mem_toDigits (by decide) (by decide) digit)

/-! ## Extents -/

/-- Rectangles with few enough rows and columns to be counted. -/
structure CellRect.Countable (rect : CellRect) : Prop where
  height : rect.height ≤ Decimal.largestWord
  width : rect.width ≤ Decimal.largestWord

namespace CellRect

variable {rect other region : CellRect} {orientation : Orientation} {members : List LabelRegion}

theorem Countable.of_contains (countable : rect.Countable) (inside : rect.contains other = true) :
    other.Countable := by
  have height := countable.height
  have width := countable.width
  rw [contains_iff] at inside
  unfold CellRect.height at height
  unfold CellRect.width at width
  constructor
  · unfold CellRect.height
    omega
  · unfold CellRect.width
    omega

theorem Countable.along (countable : rect.Countable) (orientation : Orientation) :
    (rect.along orientation).size ≤ Decimal.largestWord := by
  cases orientation with
  | columns => exact countable.width
  | rows => exact countable.height

theorem length_pieces_le (region : CellRect) (orientation : Orientation)
    (members : List LabelRegion) :
    (region.pieces orientation members).length ≤ (region.along orientation).size := by
  have fewer : (region.cleanLines orientation members).length ≤
      (region.along orientation).last - (region.along orientation).first := by
    have all := List.length_filter_le (isClean orientation members)
      (region.along orientation).innerLines
    have count : (region.along orientation).innerLines.length =
        (region.along orientation).last - (region.along orientation).first := List.length_range'
    unfold cleanLines
    omega
  unfold pieces Span.size
  rw [length_runsBetween]
  omega

theorem size_piece_le (proper : (region.along orientation).first ≤ (region.along orientation).last)
    {piece : Span} (member : piece ∈ region.pieces orientation members) :
    piece.size ≤ (region.along orientation).size := by
  rcases (region.cutLines_cleanLines orientation members).run_spec proper piece member with
    ⟨lower, -, upper, -, -⟩
  unfold Span.size
  omega

end CellRect

/-! ## Trees -/

variable {labels members : List LabelRegion} {region whole : CellRect}

/-- A split of a region can be written: its name and counts are those of the region. -/
private theorem writable_split {orientation : Orientation} {children : List (Node Float)}
    (names : NamePool) (depth : Nat) (spacing : Spacing Float)
    (glyphs : ∀ label ∈ members, isLabelGlyph label.label = true) (countable : region.Countable)
    (upright : region.Upright) (cutInto : region.CutInto members orientation)
    (same : children.length = (region.pieces orientation members).length) :
    (Node.split
      { id := (names.split (members.map LabelRegion.label)).1, orientation, region, depth
        ratios := (region.pieces orientation members).map Span.size, spacing } children).Writable := by
  have known : ∀ glyph ∈ members.map LabelRegion.label, IsQuotable glyph := by
    intro glyph listed
    rcases List.mem_map.1 listed with ⟨label, found, rfl⟩
    exact isQuotable_of_isLabelGlyph (glyphs label found)
  have quotable := names.isQuotable_split known
  constructor
  · exact fun quote => (quotable _ quote).1 rfl
  · exact fun feed => (quotable _ feed).2 rfl
  · intro empty
    have several := CellRect.direction?_several cutInto.2.2
    rw [List.map_eq_nil_iff.1 empty] at several
    exact absurd several (by decide)
  · intro ratio listed
    rcases List.mem_map.1 listed with ⟨piece, found, rfl⟩
    exact Nat.le_trans (CellRect.size_piece_le (upright.along orientation) found)
      (countable.along orientation)
  · rw [same]
    exact Nat.le_trans (region.length_pieces_le orientation members) (countable.along orientation)
  · exact countable.height
  · exact countable.width

/-- The nodes that are made of a framed region can be written. -/
theorem writable_of_ok {spacingAt : Nat → Spacing Float} {depth : Nat} {before after : Progress}
    {node : Node Float} (glyphs : ∀ label ∈ labels, isLabelGlyph label.label = true)
    (countable : whole.Countable)
    (done : partitionRegion spacingAt region members depth before = .ok node after)
    (frames : Frames labels region members) (inside : whole.contains region = true) :
    ∀ below ∈ node.descendants, below.Writable := by
  revert frames inside
  refine partitionRegion_induction (motive := fun region members _ _ node _ =>
    Frames labels region members → whole.contains region = true →
      ∀ below ∈ node.descendants, below.Writable) ?_ ?_ ?_ done
  · intro region depth before frames inside below member
    rw [Node.descendants_blank, List.mem_singleton] at member
    subst member
    trivial
  · intro region members depth before label nonempty sole frames inside below member
    rw [Node.descendants_leaf, List.mem_singleton] at member
    subst member
    rcases CellRect.eq_singleton_of_soleLabel? sole with ⟨only, rfl, rfl, -⟩
    have quotable := isQuotable_of_isLabelGlyph
      (glyphs only (frames.mem_iff.1 List.mem_cons_self).1)
    exact ⟨rfl, quotable.1, quotable.2⟩
  · intro region members depth before orientation children after cutInto swept frames inside
      below member
    rw [Node.descendants_split] at member
    rcases List.mem_cons.1 member with rfl | deeper
    · exact writable_split before.names depth (spacingAt depth)
        (fun label found => glyphs label (frames.mem_iff.1 found).1)
        (countable.of_contains inside) frames.upright cutInto swept.length_eq
    · rcases List.mem_flatMap.1 deeper with ⟨child, listed, under⟩
      rcases swept.exists_of_mem_results listed with ⟨piece, found, -, -, writable⟩
      exact writable (frames.piece found)
        (CellRect.contains_trans inside (frames.contains_piece found)) below under

theorem PartitionTree.IsCompiled.writable {tree : PartitionTree Float} (made : tree.IsCompiled) :
    tree.Writable := by
  rcases made with ⟨lines, blank, grid, settings, read, high, wide, made⟩
  have solid := ArtGrid.solid_of_ofLines read
  rcases ArtGrid.partition_ok made with ⟨-, -, -, after, done⟩
  have countable : grid.bounds.Countable := by
    have rows := solid.rows_pos
    have cols := solid.cols_pos
    unfold ArtGrid.bounds CellRect.full
    constructor
    · unfold CellRect.height
      simp only
      omega
    · unfold CellRect.width
      simp only
      omega
  exact writable_of_ok solid.named countable done solid.frames (CellRect.contains_refl _)

end Mosaic
