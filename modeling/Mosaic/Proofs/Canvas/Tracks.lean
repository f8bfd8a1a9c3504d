import Mathlib.Algebra.Order.Field.Rat
import Mathlib.Tactic.FieldSimp
import Mathlib.Tactic.Linarith
import Mathlib.Tactic.Positivity
import Mathlib.Tactic.Ring
import Mosaic.Proofs.Canvas.Scene

/-!
# Tracks and cells over exact numbers

Tracks are laid by a running cursor: each starts where the one before has ended, a
gap further on.  What the cursor has passed is the sum of the ratios so far times the
unit, and a gap for each of them.  The unit is chosen so that at the end, but for the
last gap, this is the whole extent.  So the tracks lie apart and inside the extent,
and the cells of a grid lie inside its box, side by side or one below the other.
-/

namespace Mosaic

/-- Formulas are read over exact numbers. -/
instance : Scalar ℚ where
  ofCount := Nat.cast
  sum := List.sum

/-- Tracks that lie in their order between two places. -/
structure TracksBetween (first last : ℚ) (tracks : List (ℚ × ℚ)) : Prop where
  starts : ∀ track ∈ tracks, first ≤ track.1
  proper : ∀ track ∈ tracks, track.1 < track.2
  stops : ∀ track ∈ tracks, track.2 ≤ last
  apart : tracks.Pairwise fun track later => track.2 ≤ later.1

private theorem tracksBetween_nil (first last : ℚ) : TracksBetween first last [] := by
  constructor
  · exact fun track member => nomatch member
  · exact fun track member => nomatch member
  · exact fun track member => nomatch member
  · exact .nil

/-- The cursor passes each ratio once, and each gap. -/
theorem tracksFrom_between {unit gap : ℚ} (positive : 0 < unit) (space : 0 ≤ gap) {ratios : List Nat}
    (sizes : ∀ ratio ∈ ratios, 0 < ratio) (start : ℚ) :
    TracksBetween start (start + (ratios.sum : ℚ) * unit + ((ratios.length : ℚ) - 1) * gap)
      (tracksFrom unit gap start ratios) := by
  induction ratios generalizing start with
  | nil => exact tracksBetween_nil _ _
  | cons ratio ratios ih =>
    rw [List.forall_mem_cons] at sizes
    have size : 0 < (ratio : ℚ) * unit := mul_pos (Nat.cast_pos.2 sizes.1) positive
    have rest := ih sizes.2 (start + (ratio : ℚ) * unit + gap)
    have total : start + ((ratio :: ratios).sum : ℚ) * unit +
        (((ratio :: ratios).length : ℚ) - 1) * gap =
        start + (ratio : ℚ) * unit + gap + (ratios.sum : ℚ) * unit +
          ((ratios.length : ℚ) - 1) * gap := by
      rw [List.sum_cons, List.length_cons]
      push_cast
      ring
    rw [total]
    have many : 0 ≤ (ratios.sum : ℚ) * unit := by positivity
    have own : start + (ratio : ℚ) * unit ≤ start + (ratio : ℚ) * unit + gap +
        (ratios.sum : ℚ) * unit + ((ratios.length : ℚ) - 1) * gap := by
      have : 0 ≤ (ratios.length : ℚ) * gap := by positivity
      linarith
    unfold tracksFrom
    constructor
    · rw [List.forall_mem_cons]
      exact ⟨le_refl start, fun track member =>
        le_trans (by linarith) (rest.starts track member)⟩
    · rw [List.forall_mem_cons]
      exact ⟨lt_add_of_pos_right start size, rest.proper⟩
    · rw [List.forall_mem_cons]
      exact ⟨own, rest.stops⟩
    · rw [List.pairwise_cons]
      exact ⟨fun track member => le_trans (le_add_of_nonneg_right space) (rest.starts track member),
        rest.apart⟩

/-- The tracks of an extent fill it from end to end. -/
theorem trackOffsets_between {total space : ℚ} (positive : 0 < total) (nonneg : 0 ≤ space)
    {ratios : List Nat} (sizes : ∀ ratio ∈ ratios, 0 < ratio) :
    TracksBetween 0 total (trackOffsets total ratios space) := by
  rcases ratios with _ | ⟨ratio, ratios⟩
  · exact tracksBetween_nil 0 total
  · let count : ℚ := ((ratio :: ratios).length : ℚ)
    let sum : ℚ := ((ratio :: ratios).sum : ℚ)
    let average : ℚ := total / (count + space * (count - 1))
    have several : 1 ≤ count := by
      change (1 : ℚ) ≤ ((ratios.length + 1 : ℕ) : ℚ)
      exact_mod_cast Nat.succ_le_succ (Nat.zero_le _)
    have sumPositive : 0 < sum := by
      have := sizes ratio List.mem_cons_self
      change (0 : ℚ) < ((ratio + ratios.sum : ℕ) : ℚ)
      exact_mod_cast Nat.add_pos_left this _
    have whole : 0 < count + space * (count - 1) := by
      have : 0 ≤ space * (count - 1) := mul_nonneg nonneg (by linarith)
      linarith
    have averagePositive : 0 < average := div_pos positive whole
    have unitPositive : 0 < average * count / sum := by positivity
    have gapNonneg : 0 ≤ space * average := by positivity
    have between := tracksFrom_between unitPositive gapNonneg sizes 0
    have fills : 0 + sum * (average * count / sum) + (count - 1) * (space * average) = total := by
      have spread : sum * (average * count / sum) = average * count := by field_simp
      have parts : average * (count + space * (count - 1)) = total := by
        change total / _ * _ = _
        field_simp
      rw [spread, ← parts]
      ring
    rw [fills] at between
    unfold trackOffsets
    exact between

theorem TracksBetween.le_of_lt {first last : ℚ} {tracks : List (ℚ × ℚ)}
    (between : TracksBetween first last tracks) {index later : Nat} (earlier : index < later)
    {track other : ℚ × ℚ} (found : tracks[index]? = some track)
    (otherFound : tracks[later]? = some other) : track.2 ≤ other.1 := by
  rcases List.getElem?_eq_some_iff.1 found with ⟨inside, rfl⟩
  rcases List.getElem?_eq_some_iff.1 otherFound with ⟨otherInside, rfl⟩
  exact List.pairwise_iff_getElem.1 between.apart index later inside otherInside earlier

/-! ## Boxes -/

namespace FigureBox

/-- A box of positive width and height. -/
structure Proper (box : FigureBox ℚ) : Prop where
  wide : box.left < box.right
  high : box.bottom < box.top

/-- A box that does not reach out of another one. -/
structure Within (box outer : FigureBox ℚ) : Prop where
  left : outer.left ≤ box.left
  right : box.right ≤ outer.right
  bottom : outer.bottom ≤ box.bottom
  top : box.top ≤ outer.top

/-- Is the box left of the other one, or above it? -/
def Precedes (orientation : Orientation) (box other : FigureBox ℚ) : Prop :=
  match orientation with
  | .columns => box.right ≤ other.left
  | .rows => other.top ≤ box.bottom

variable {box other outer : FigureBox ℚ}

theorem Within.refl (box : FigureBox ℚ) : box.Within box :=
  ⟨le_rfl, le_rfl, le_rfl, le_rfl⟩

theorem Within.trans (inner : box.Within other) (within : other.Within outer) : box.Within outer :=
  ⟨within.left.trans inner.left, inner.right.trans within.right,
    within.bottom.trans inner.bottom, inner.top.trans within.top⟩

/-- What lies in boxes of which one precedes the other is ordered in the same way. -/
theorem Precedes.mono {orientation : Orientation} {part otherPart : FigureBox ℚ}
    (precedes : box.Precedes orientation other) (within : part.Within box)
    (otherWithin : otherPart.Within other) : part.Precedes orientation otherPart := by
  cases orientation with
  | columns => exact (within.right.trans precedes).trans otherWithin.left
  | rows => exact (otherWithin.top.trans precedes).trans within.bottom

end FigureBox

/-! ## Cells -/

namespace SceneGrid

/-- A grid that fits, in a box of positive width and height, without negative gaps. -/
structure Sound (grid : SceneGrid ℚ) : Prop where
  fits : grid.request.fits = true
  proper : grid.bounds.Proper
  wspace : ∀ space ∈ grid.request.wspace, 0 ≤ space
  hspace : ∀ space ∈ grid.request.hspace, 0 ≤ space

variable {grid : SceneGrid ℚ} {index : Nat} {box : FigureBox ℚ}

private theorem gap_nonneg {space : Option ℚ} (nonneg : ∀ gap ∈ space, 0 ≤ gap) :
    0 ≤ space.getD standardGap := by
  cases space with
  | none =>
    change (0 : ℚ) ≤ ((1 : ℕ) : ℚ) / ((5 : ℕ) : ℚ)
    positivity
  | some gap => exact nonneg gap rfl

theorem Sound.rowTracks (sound : grid.Sound) :
    TracksBetween 0 (grid.bounds.top - grid.bounds.bottom) grid.rowTracks :=
  trackOffsets_between (sub_pos.2 sound.proper.high) (gap_nonneg sound.hspace)
    (GridRequest.fits_iff.1 sound.fits).2.2.1

theorem Sound.columnTracks (sound : grid.Sound) :
    TracksBetween 0 (grid.bounds.right - grid.bounds.left) grid.columnTracks :=
  trackOffsets_between (sub_pos.2 sound.proper.wide) (gap_nonneg sound.wspace)
    (GridRequest.fits_iff.1 sound.fits).2.2.2

/-- Each cell has a positive extent and lies in the box of its grid. -/
theorem Sound.cellBox (sound : grid.Sound) (found : grid.cellBox index = .ok box) :
    box.Proper ∧ box.Within grid.bounds := by
  rcases cellBox_ok_iff.1 found with ⟨-, row, column, down, along, rfl⟩
  have rowMember := List.mem_of_getElem? down
  have columnMember := List.mem_of_getElem? along
  have rows := sound.rowTracks
  have columns := sound.columnTracks
  have above := rows.starts row rowMember
  have high := rows.proper row rowMember
  have below := rows.stops row rowMember
  have before := columns.starts column columnMember
  have wide := columns.proper column columnMember
  have behind := columns.stops column columnMember
  constructor
  · constructor <;> dsimp only <;> linarith
  · constructor <;> dsimp only <;> linarith

/-- In a single row the cells lie side by side. -/
theorem Sound.precedes_columns (sound : grid.Sound) (single : grid.request.nrows = 1) {later : Nat}
    (earlier : index < later) {other : FigureBox ℚ} (found : grid.cellBox index = .ok box)
    (otherFound : grid.cellBox later = .ok other) : box.Precedes .columns other := by
  rcases cellBox_ok_iff.1 found with ⟨inside, row, column, -, along, rfl⟩
  rcases cellBox_ok_iff.1 otherFound with ⟨otherInside, otherRow, otherColumn, -, otherAlong, rfl⟩
  rw [single, Nat.one_mul] at inside otherInside
  rw [Nat.mod_eq_of_lt inside] at along
  rw [Nat.mod_eq_of_lt otherInside] at otherAlong
  have apart := sound.columnTracks.le_of_lt earlier along otherAlong
  dsimp only [FigureBox.Precedes]
  linarith

/-- In a single column they lie one below the other. -/
theorem Sound.precedes_rows (sound : grid.Sound) (single : grid.request.ncols = 1) {later : Nat}
    (earlier : index < later) {other : FigureBox ℚ} (found : grid.cellBox index = .ok box)
    (otherFound : grid.cellBox later = .ok other) : box.Precedes .rows other := by
  rcases cellBox_ok_iff.1 found with ⟨-, row, column, down, -, rfl⟩
  rcases cellBox_ok_iff.1 otherFound with ⟨-, otherRow, otherColumn, otherDown, -, rfl⟩
  rw [single, Nat.div_one] at down otherDown
  have apart := sound.rowTracks.le_of_lt earlier down otherDown
  dsimp only [FigureBox.Precedes]
  linarith

end SceneGrid
end Mosaic
