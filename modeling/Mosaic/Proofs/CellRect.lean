import Mosaic.Art.Reading
import Mosaic.Partition.Pieces

/-!
# Rectangles of cells

Two rectangles that share no cell lie in different rows or in different columns.
A slice of a rectangle is decided along its direction alone: it holds what lies
in the rectangle and in the run that was cut out, and nothing else.
-/

namespace Mosaic

/-! ## Runs -/

def Span.holds (span other : Span) : Bool :=
  span.first ≤ other.first && other.last ≤ span.last

namespace Span

variable {span other : Span}

theorem holds_iff : span.holds other = true ↔ span.first ≤ other.first ∧ other.last ≤ span.last := by
  simp [holds]

theorem straddles_iff {line : Nat} :
    span.straddles line = true ↔ span.first < line ∧ line ≤ span.last := by
  simp [straddles]

theorem mem_innerLines_iff {line : Nat} :
    line ∈ span.innerLines ↔ span.first < line ∧ line ≤ span.last := by
  unfold innerLines
  rw [List.mem_range'_1]
  omega

end Span

def Orientation.across : Orientation → Orientation
  | columns => rows
  | rows => columns

theorem Orientation.across_across (orientation : Orientation) :
    orientation.across.across = orientation := by
  cases orientation <;> rfl

theorem Orientation.eq_across_of_ne {orientation other : Orientation} (different : other ≠ orientation) :
    other = orientation.across := by
  cases orientation <;> cases other
  · exact absurd rfl different
  · rfl
  · rfl
  · exact absurd rfl different

namespace CellRect

/-- Sides in their order, so that the rectangle has a cell. -/
structure Upright (rect : CellRect) : Prop where
  rows : rect.top ≤ rect.bottom
  cols : rect.left ≤ rect.right

/-- Rectangles that lie in different rows or in different columns. -/
def Apart (rect other : CellRect) : Prop :=
  (other.bottom < rect.top ∨ rect.bottom < other.top) ∨
    (other.right < rect.left ∨ rect.right < other.left)

variable {rect other : CellRect} {orientation : Orientation} {span : Span}

theorem Upright.along (upright : rect.Upright) (orientation : Orientation) :
    (rect.along orientation).first ≤ (rect.along orientation).last := by
  cases orientation with
  | columns => exact upright.cols
  | rows => exact upright.rows

/-- Rectangles are apart when they share no cell. -/
theorem apart_of_no_common_cell (upright : rect.Upright) (otherUpright : other.Upright)
    (disjoint : ∀ row col, ¬ (rect.containsCell row col = true ∧
      other.containsCell row col = true)) : rect.Apart other := by
  have rows := upright.rows
  have cols := upright.cols
  have otherRows := otherUpright.rows
  have otherCols := otherUpright.cols
  have corner := disjoint (max rect.top other.top) (max rect.left other.left)
  rw [containsCell_iff, containsCell_iff] at corner
  unfold Apart
  omega

theorem not_containsCell_of_apart (apart : rect.Apart other) {row col : Nat}
    (member : other.containsCell row col = true) : rect.containsCell row col = false := by
  apply Bool.eq_false_iff.2
  intro inside
  rw [containsCell_iff] at member inside
  unfold Apart at apart
  omega

theorem contains_refl (rect : CellRect) : rect.contains rect = true := by
  rw [contains_iff]
  omega

theorem contains_trans {third : CellRect} (outer : rect.contains other = true)
    (inner : other.contains third = true) : rect.contains third = true := by
  rw [contains_iff] at outer inner ⊢
  omega

theorem contains_antisymm (outer : rect.contains other = true)
    (inner : other.contains rect = true) : rect = other := by
  rw [contains_iff] at outer inner
  cases rect
  cases other
  simp only [CellRect.mk.injEq] at outer inner ⊢
  omega

theorem Apart.symm (apart : rect.Apart other) : other.Apart rect := by
  unfold Apart at apart ⊢
  omega

theorem Apart.of_contains {third : CellRect} (apart : rect.Apart third)
    (inside : rect.contains other = true) : other.Apart third := by
  rw [contains_iff] at inside
  unfold Apart at apart ⊢
  omega

/-- What is inside an upright rectangle is not apart from it. -/
theorem not_apart_of_contains (upright : other.Upright) (inside : rect.contains other = true) :
    ¬ rect.Apart other := by
  have rows := upright.rows
  have cols := upright.cols
  rw [contains_iff] at inside
  unfold Apart
  omega

/-! ## Slices -/

theorem contains_slice (lower : (rect.along orientation).first ≤ span.first)
    (upper : span.last ≤ (rect.along orientation).last) :
    rect.contains (rect.slice orientation span) = true := by
  rw [contains_iff]
  cases orientation <;> simp only [along, slice, withCols, withRows] at lower upper ⊢ <;> omega

theorem Upright.slice (upright : rect.Upright) (proper : span.first ≤ span.last) :
    (rect.slice orientation span).Upright := by
  cases orientation with
  | columns => exact ⟨upright.rows, proper⟩
  | rows => exact ⟨proper, upright.cols⟩

/-- Inside a rectangle, a slice is decided along its direction. -/
theorem slice_contains_iff (inside : rect.contains other = true) :
    (rect.slice orientation span).contains other = true ↔
      span.holds (other.along orientation) = true := by
  rw [contains_iff] at inside
  rw [contains_iff, Span.holds_iff]
  cases orientation <;> simp only [along, slice, withCols, withRows] <;> omega

theorem slice_containsCell_iff {row col : Nat} (inside : rect.containsCell row col = true) :
    (rect.slice orientation span).containsCell row col = true ↔
      span.holds ((single (row, col)).along orientation) = true := by
  rw [containsCell_iff] at inside
  rw [containsCell_iff, Span.holds_iff]
  cases orientation <;> simp only [along, slice, withCols, withRows, single] <;> omega

theorem contains_slice_slice {part : CellRect} {inner : Span} (inside : rect.contains part = true)
    (held : span.holds inner = true) :
    (rect.slice orientation span).contains (part.slice orientation inner) = true := by
  rw [contains_iff] at inside ⊢
  rw [Span.holds_iff] at held
  cases orientation <;> simp only [slice, withCols, withRows] <;> omega

theorem holds_along (inside : rect.contains other = true) (orientation : Orientation) :
    (rect.along orientation).holds (other.along orientation) = true := by
  rw [contains_iff] at inside
  rw [Span.holds_iff]
  cases orientation <;> simp only [along] <;> omega

/-- A rectangle is its own slice. -/
theorem slice_along (rect : CellRect) (orientation : Orientation) :
    rect.slice orientation (rect.along orientation) = rect := by
  cases orientation <;> rfl

/-- A slice has the full extent across its direction. -/
theorem along_across_slice (rect : CellRect) (orientation : Orientation) (span : Span) :
    (rect.slice orientation span).along orientation.across = rect.along orientation.across := by
  cases orientation <;> rfl

/-- Of two slices in one direction the second counts. -/
theorem slice_slice (rect : CellRect) (orientation : Orientation) (span other : Span) :
    (rect.slice orientation span).slice orientation other = rect.slice orientation other := by
  cases orientation <;> rfl

theorem slice_apart (apart : (other.along orientation).last < span.first ∨
    span.last < (other.along orientation).first) :
    (rect.slice orientation span).Apart other := by
  unfold Apart
  cases orientation <;> simp only [along, slice, withCols, withRows] at apart ⊢ <;> omega

end CellRect

end Mosaic
