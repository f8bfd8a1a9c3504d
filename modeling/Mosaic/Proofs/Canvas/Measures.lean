import Mosaic.Proofs.Canvas.Disjoint

/-!
# How large the cells of a split are

A tree measures its spacing in cells of the drawing, and a scene in average tracks.  The
spacing is divided by the average ratio when a grid is asked for, and multiplied by the
average track when the tracks are laid, so the number of the tracks and the sum of the
ratios drop out.  What is left is a unit of which each track has as many as its ratio
says, and each gap as many as the tree says.  Across the direction of a split there is a
single track, which takes the whole extent whatever the spacing is.
-/

namespace Mosaic

open Decimal

def Spacing.along {α : Type} (spacing : Spacing α) : Orientation → Option α
  | .columns => spacing.wspace
  | .rows => spacing.hspace

/-- The length of one cell of the drawing when an extent is shared by its ratios, with gaps of
`space` cells between them. -/
def unitOf (total : ℚ) (ratios : List Nat) (space : ℚ) : ℚ :=
  total / ((ratios.sum : ℚ) + space * ((ratios.length : ℚ) - 1))

namespace FigureBox

/-- The edge of a box where the first of its cells starts: the left or the top one. -/
def firstEdge (box : FigureBox ℚ) : Orientation → ℚ
  | .columns => box.left
  | .rows => box.top

/-- The edge where the last of its cells ends. -/
def lastEdge (box : FigureBox ℚ) : Orientation → ℚ
  | .columns => box.right
  | .rows => box.bottom

/-- The extent of a box in a direction. -/
def extent (box : FigureBox ℚ) : Orientation → ℚ
  | .columns => box.width
  | .rows => box.height

/-- How far the next box in a direction starts behind the end of this one. -/
def gapTo (box next : FigureBox ℚ) : Orientation → ℚ
  | .columns => next.left - box.right
  | .rows => box.bottom - next.top

/-- Cells that share the extent of a box in a direction by their ratios, with gaps of `space`
units between them. -/
structure DividedInto (box : FigureBox ℚ) (orientation : Orientation) (ratios : List Nat)
    (space : ℚ) (cells : List (FigureBox ℚ)) : Prop where
  count : cells.length = ratios.length
  extent : ∀ (index : Nat) cell ratio, cells[index]? = some cell → ratios[index]? = some ratio →
    cell.extent orientation = ratio * unitOf (box.extent orientation) ratios space
  gap : ∀ (index : Nat) cell next, cells[index]? = some cell → cells[index + 1]? = some next →
    cell.gapTo next orientation = space * unitOf (box.extent orientation) ratios space
  first : ∀ cell, cells.head? = some cell → cell.firstEdge orientation = box.firstEdge orientation
  last : ∀ cell, cells.getLast? = some cell → cell.lastEdge orientation = box.lastEdge orientation
  across : ∀ cell ∈ cells, cell.firstEdge orientation.across = box.firstEdge orientation.across ∧
    cell.lastEdge orientation.across = box.lastEdge orientation.across

/-- Are the extents of two boxes as two numbers?  Boxes of no extent have no quotient. -/
def InProportion (orientation : Orientation) (box other : FigureBox ℚ) (size otherSize : Nat) :
    Prop :=
  box.extent orientation * (otherSize : ℚ) = other.extent orientation * (size : ℚ) ∧
    (other.extent orientation ≠ 0 →
      box.extent orientation / other.extent orientation = (size : ℚ) / (otherSize : ℚ))

def piece (box : FigureBox ℚ) (orientation : Orientation) (track : ℚ × ℚ) : FigureBox ℚ :=
  match orientation with
  | .columns => { box with left := box.left + track.1, right := box.left + track.2 }
  | .rows => { box with bottom := box.top - track.2, top := box.top - track.1 }

/-- The parts of a box over tracks that fill its extent in a direction. -/
def pieces (box : FigureBox ℚ) (orientation : Orientation) (ratios : List Nat) (space : ℚ) :
    List (FigureBox ℚ) :=
  let unit := unitOf (box.extent orientation) ratios space
  (tracksFrom unit (space * unit) 0 ratios).map (box.piece orientation)

end FigureBox

/-- A grid on a scene whose cells take up a box as a split says. -/
structure Cut.Measured (cut : Cut Float) (children : List (Node Float)) (space : ℚ)
    (box : FigureBox ℚ) (scene : Scene ℚ) (handle : GridHandle) (cells : List (FigureBox ℚ)) :
    Prop where
  /-- These are the cells of the grid, and an axis that is placed in a cell takes it up. -/
  placed : ∀ (index : Nat) cell,
    scene.placementBox (some (handle, index)) = .ok cell ↔ cells[index]? = some cell
  axes : ∀ figure (index : Nat) cell, cells[index]? = some cell → ∃ axis after,
    (Canvas.scene ℚ).axis figure (some (handle, index)) scene = .ok axis after ∧
      after.axisBox? axis = some cell
  /-- There is a cell for each child, and they share the box by the ratios of the split. -/
  count : cells.length = children.length
  divided : box.DividedInto cut.orientation cut.ratios space cells
  /-- So their sizes are in the same proportion as the runs of cells that the children cover. -/
  proportion : ∀ (index other : Nat) child sibling cell otherCell,
    children[index]? = some child → children[other]? = some sibling →
      cells[index]? = some cell → cells[other]? = some otherCell →
        FigureBox.InProportion cut.orientation cell otherCell
          (child.region.along cut.orientation).size (sibling.region.along cut.orientation).size

/-! ## Tracks -/

/-- How far the cursor has come when it reaches a track. -/
def passed (unit gap : ℚ) (ratios : List Nat) (index : Nat) : ℚ :=
  ((ratios.take index).sum : ℚ) * unit + (index : ℚ) * gap

/-- Each track starts where the cursor has come, and is as long as its ratio says. -/
theorem getElem?_tracksFrom (unit gap start : ℚ) (ratios : List Nat) (index : Nat) :
    (tracksFrom unit gap start ratios)[index]? = ratios[index]?.map fun ratio : Nat =>
      (start + passed unit gap ratios index,
        start + passed unit gap ratios index + (ratio : ℚ) * unit) := by
  induction ratios generalizing start index with
  | nil => rfl
  | cons ratio ratios ih =>
    rw [tracksFrom]
    cases index with
    | zero =>
      have none : start + passed unit gap (ratio :: ratios) 0 = start := by
        simp [passed]
      rw [List.getElem?_cons_zero, List.getElem?_cons_zero, Option.map_some, none]
      rfl
    | succ index =>
      -- the later tracks are laid from behind this one and its gap
      have more : start + (ratio : ℚ) * unit + gap + passed unit gap ratios index =
          start + passed unit gap (ratio :: ratios) (index + 1) := by
        unfold passed
        rw [List.take_succ_cons, List.sum_cons]
        push_cast
        ring
      rw [List.getElem?_cons_succ, List.getElem?_cons_succ, ← more]
      exact ih (start + (ratio : ℚ) * unit + gap) index

/-- The cursor passes a track, and a gap. -/
theorem passed_succ (unit gap : ℚ) {ratios : List Nat} {index ratio : Nat}
    (found : ratios[index]? = some ratio) :
    passed unit gap ratios (index + 1) =
      passed unit gap ratios index + (ratio : ℚ) * unit + gap := by
  rcases List.getElem?_eq_some_iff.1 found with ⟨inside, rfl⟩
  unfold passed
  rw [List.sum_take_succ ratios index inside]
  push_cast
  ring

/-- Where the last track ends the cursor has passed all ratios, and a gap less. -/
theorem passed_last (unit gap : ℚ) {ratios : List Nat} {ratio : Nat}
    (found : ratios[ratios.length - 1]? = some ratio) :
    passed unit gap ratios (ratios.length - 1) + (ratio : ℚ) * unit =
      (ratios.sum : ℚ) * unit + ((ratios.length : ℚ) - 1) * gap := by
  have inside := (List.getElem?_eq_some_iff.1 found).1
  have all : passed unit gap ratios ratios.length =
      passed unit gap ratios (ratios.length - 1) + (ratio : ℚ) * unit + gap := by
    rw [← passed_succ unit gap found, Nat.sub_add_cancel (Nat.zero_lt_of_lt inside)]
  rw [passed, List.take_length] at all
  linarith

/-- Tracks in terms of exact numbers. -/
theorem trackOffsets_eq (total space : ℚ) (ratios : List Nat) :
    trackOffsets total ratios space =
      tracksFrom (total / ((ratios.length : ℚ) + space * ((ratios.length : ℚ) - 1)) *
          (ratios.length : ℚ) / (ratios.sum : ℚ))
        (space * (total / ((ratios.length : ℚ) + space * ((ratios.length : ℚ) - 1)))) 0 ratios := by
  have one : (Scalar.ofCount 1 : ℚ) = 1 := Nat.cast_one
  have zero : (Scalar.ofCount 0 : ℚ) = 0 := Nat.cast_zero
  unfold trackOffsets
  dsimp only
  rw [one, zero]
  rfl

section Shares

variable {ratios : List Nat} {space : ℚ}

theorem sum_pos_of_ratios (nonempty : ratios ≠ []) (positive : ∀ ratio ∈ ratios, 0 < ratio) :
    (0 : ℚ) < (ratios.sum : ℚ) :=
  Nat.cast_pos.2 (List.sum_pos ratios positive nonempty)

/-- There is something to share the extent by. -/
theorem shares_pos (nonempty : ratios ≠ []) (positive : ∀ ratio ∈ ratios, 0 < ratio)
    (nonneg : 0 ≤ space) : 0 < (ratios.sum : ℚ) + space * ((ratios.length : ℚ) - 1) := by
  have several : (1 : ℚ) ≤ (ratios.length : ℚ) := Nat.one_le_cast.2 (List.length_pos_iff.2 nonempty)
  have gaps : 0 ≤ space * ((ratios.length : ℚ) - 1) := mul_nonneg nonneg (by linarith)
  linarith [sum_pos_of_ratios nonempty positive]

/-- An average track is as many units as an average ratio, if spacing was divided by the
average ratio. -/
private theorem average_eq {total sum count space : ℚ} (sumPositive : 0 < sum)
    (countPositive : 0 < count) (shares : 0 < sum + space * (count - 1)) :
    total / (count + space / (sum / count) * (count - 1)) =
      sum * (total / (sum + space * (count - 1))) / count := by
  have spread : count + space / (sum / count) * (count - 1) =
      count / sum * (sum + space * (count - 1)) := by
    field_simp
  rw [spread]
  field_simp

/-- The average ratio and the average track cancel. -/
theorem trackOffsets_scaled (total : ℚ) (nonempty : ratios ≠ [])
    (positive : ∀ ratio ∈ ratios, 0 < ratio) (nonneg : 0 ≤ space) :
    trackOffsets total ratios (space / meanExtent ratios) =
      tracksFrom (unitOf total ratios space) (space * unitOf total ratios space) 0 ratios := by
  have sum := sum_pos_of_ratios nonempty positive
  have count : (0 : ℚ) < (ratios.length : ℚ) := Nat.cast_pos.2 (List.length_pos_iff.2 nonempty)
  have mean : (meanExtent ratios : ℚ) = (ratios.sum : ℚ) / (ratios.length : ℚ) := rfl
  have unit : (ratios.sum : ℚ) * unitOf total ratios space / (ratios.length : ℚ) *
      (ratios.length : ℚ) / (ratios.sum : ℚ) = unitOf total ratios space := by
    field_simp
  have gap : space / ((ratios.sum : ℚ) / (ratios.length : ℚ)) *
      ((ratios.sum : ℚ) * unitOf total ratios space / (ratios.length : ℚ)) =
        space * unitOf total ratios space := by
    field_simp
  rw [trackOffsets_eq, mean, average_eq sum count (shares_pos nonempty positive nonneg)]
  exact congrArg₂ (fun unit gap => tracksFrom unit gap 0 ratios) unit gap

end Shares

/-- A single track takes the whole extent. -/
theorem trackOffsets_single (total space : ℚ) {ratio : Nat} (positive : 0 < ratio) :
    trackOffsets total [ratio] space = [(0, total)] := by
  have size : (ratio : ℚ) ≠ 0 := (Nat.cast_pos.2 positive).ne'
  -- there is no gap in one track, so its spacing is multiplied by zero
  have whole : (0 : ℚ) + (ratio : ℚ) *
      (total / ((1 : ℕ) + space * ((1 : ℕ) - 1)) * (1 : ℕ) / (ratio : ℚ)) = total := by
    push_cast
    rw [sub_self, mul_zero, add_zero, div_one, mul_one, zero_add, mul_div_cancel₀ total size]
  rw [trackOffsets_eq, List.sum_singleton, List.length_singleton, tracksFrom, tracksFrom]
  exact congrArg (fun stop => [((0 : ℚ), stop)]) whole

/-! ## Cells -/

namespace FigureBox

variable {box : FigureBox ℚ} {ratios : List Nat} {space : ℚ}

theorem extent_piece (box : FigureBox ℚ) (orientation : Orientation) (track : ℚ × ℚ) :
    (box.piece orientation track).extent orientation = track.2 - track.1 := by
  cases orientation with
  | columns => exact add_sub_add_left_eq_sub _ _ _
  | rows => exact sub_sub_sub_cancel_left _ _ _

theorem gapTo_piece (box : FigureBox ℚ) (orientation : Orientation) (track next : ℚ × ℚ) :
    (box.piece orientation track).gapTo (box.piece orientation next) orientation =
      next.1 - track.2 := by
  cases orientation with
  | columns => exact add_sub_add_left_eq_sub _ _ _
  | rows => exact sub_sub_sub_cancel_left _ _ _

theorem firstEdge_piece {orientation : Orientation} {track : ℚ × ℚ} (start : track.1 = 0) :
    (box.piece orientation track).firstEdge orientation = box.firstEdge orientation := by
  cases orientation with
  | columns => exact (congrArg (box.left + ·) start).trans (add_zero _)
  | rows => exact (congrArg (box.top - ·) start).trans (sub_zero _)

theorem lastEdge_piece {orientation : Orientation} {track : ℚ × ℚ}
    (stop : track.2 = box.extent orientation) :
    (box.piece orientation track).lastEdge orientation = box.lastEdge orientation := by
  cases orientation with
  | columns => exact (congrArg (box.left + ·) stop).trans (add_sub_cancel _ _)
  | rows => exact (congrArg (box.top - ·) stop).trans (sub_sub_cancel _ _)

/-- Across the direction a piece reaches from edge to edge. -/
theorem edges_piece_across (box : FigureBox ℚ) (orientation : Orientation) (track : ℚ × ℚ) :
    (box.piece orientation track).firstEdge orientation.across =
        box.firstEdge orientation.across ∧
      (box.piece orientation track).lastEdge orientation.across =
        box.lastEdge orientation.across := by
  cases orientation <;> exact ⟨rfl, rfl⟩

theorem getElem?_pieces (box : FigureBox ℚ) (orientation : Orientation) (ratios : List Nat)
    (space : ℚ) (index : Nat) :
    let unit := unitOf (box.extent orientation) ratios space
    (box.pieces orientation ratios space)[index]? = ratios[index]?.map fun ratio : Nat =>
      box.piece orientation (passed unit (space * unit) ratios index,
        passed unit (space * unit) ratios index + (ratio : ℚ) * unit) := by
  intro unit
  rw [pieces, List.getElem?_map, getElem?_tracksFrom, Option.map_map, zero_add]
  rfl

/-- Pieces over tracks that fill the extent divide the box. -/
theorem dividedInto_pieces (box : FigureBox ℚ) (orientation : Orientation) (nonempty : ratios ≠ [])
    (positive : ∀ ratio ∈ ratios, 0 < ratio) (nonneg : 0 ≤ space) :
    box.DividedInto orientation ratios space (box.pieces orientation ratios space) := by
  have count : (box.pieces orientation ratios space).length = ratios.length := by
    rw [pieces, List.length_map, length_tracksFrom]
  have known := getElem?_pieces box orientation ratios space
  have shares := shares_pos nonempty positive nonneg
  have fills : (ratios.sum : ℚ) * unitOf (box.extent orientation) ratios space +
      ((ratios.length : ℚ) - 1) * (space * unitOf (box.extent orientation) ratios space) =
        box.extent orientation := by
    unfold unitOf
    field_simp
  constructor
  · exact count
  · intro index cell ratio found own
    rw [known, own] at found
    cases found
    rw [extent_piece, add_sub_cancel_left]
  · intro index cell next found nextFound
    rw [known] at found nextFound
    rcases Option.map_eq_some_iff.1 found with ⟨ratio, own, rfl⟩
    rcases Option.map_eq_some_iff.1 nextFound with ⟨nextRatio, -, rfl⟩
    rw [gapTo_piece, passed_succ _ _ own, add_sub_cancel_left]
  · intro cell found
    rw [List.head?_eq_getElem?, known] at found
    rcases Option.map_eq_some_iff.1 found with ⟨ratio, -, rfl⟩
    exact firstEdge_piece (by simp [passed])
  · intro cell found
    rw [List.getLast?_eq_getElem?, count, known] at found
    rcases Option.map_eq_some_iff.1 found with ⟨ratio, own, rfl⟩
    exact lastEdge_piece ((passed_last _ _ own).trans fills)
  · intro cell member
    rcases List.mem_map.1 member with ⟨track, -, rfl⟩
    exact edges_piece_across box orientation track

/-- Sizes are in the same proportion as ratios. -/
theorem DividedInto.inProportion {orientation : Orientation} {cells : List (FigureBox ℚ)}
    (divided : box.DividedInto orientation ratios space cells) {index other : Nat}
    {cell otherCell : FigureBox ℚ} {ratio otherRatio : Nat} (found : cells[index]? = some cell)
    (otherFound : cells[other]? = some otherCell) (own : ratios[index]? = some ratio)
    (otherOwn : ratios[other]? = some otherRatio) :
    InProportion orientation cell otherCell ratio otherRatio := by
  have size := divided.extent index cell ratio found own
  have otherSize := divided.extent other otherCell otherRatio otherFound otherOwn
  constructor
  · rw [size, otherSize]
    ring
  · intro long
    rw [otherSize] at long
    rw [size, otherSize, mul_div_mul_right _ _ (right_ne_zero_of_mul long)]

end FigureBox

namespace SceneGrid

variable {grid : SceneGrid ℚ} {index : Nat} {cell : FigureBox ℚ}

/-- The tracks of a grid in a direction. -/
def tracks (grid : SceneGrid ℚ) : Orientation → List (ℚ × ℚ)
  | .columns => grid.columnTracks
  | .rows => grid.rowTracks

/-- In a single row that is as high as the box the cells are its pieces side by side. -/
theorem cellBox_ok_iff_of_row (single : grid.request.nrows = 1)
    (row : grid.rowTracks = [(0, grid.bounds.height)])
    (count : grid.columnTracks.length = grid.request.ncols) :
    grid.cellBox index = .ok cell ↔
      (grid.columnTracks.map (grid.bounds.piece .columns))[index]? = some cell := by
  have bottom : grid.bounds.top - grid.bounds.height = grid.bounds.bottom := sub_sub_cancel _ _
  rw [cellBox_ok_iff, single, Nat.one_mul, row, List.getElem?_map, Option.map_eq_some_iff]
  constructor
  · rintro ⟨inside, whole, column, down, along, rfl⟩
    rw [Nat.div_eq_of_lt inside] at down
    rw [Nat.mod_eq_of_lt inside] at along
    cases down
    refine ⟨column, along, ?_⟩
    rw [sub_zero, bottom]
    rfl
  · rintro ⟨column, along, rfl⟩
    have inside := count ▸ (List.getElem?_eq_some_iff.1 along).1
    refine ⟨inside, (0, grid.bounds.height), column, ?_, ?_, ?_⟩
    · rw [Nat.div_eq_of_lt inside]
      rfl
    · rw [Nat.mod_eq_of_lt inside]
      exact along
    · rw [sub_zero, bottom]
      rfl

/-- In a single column that is as wide as the box they are its pieces one below the other. -/
theorem cellBox_ok_iff_of_column (single : grid.request.ncols = 1)
    (column : grid.columnTracks = [(0, grid.bounds.width)])
    (count : grid.rowTracks.length = grid.request.nrows) :
    grid.cellBox index = .ok cell ↔
      (grid.rowTracks.map (grid.bounds.piece .rows))[index]? = some cell := by
  have right : grid.bounds.left + grid.bounds.width = grid.bounds.right := add_sub_cancel _ _
  rw [cellBox_ok_iff, single, Nat.mul_one, Nat.div_one, Nat.mod_one, column, List.getElem?_map,
    Option.map_eq_some_iff]
  constructor
  · rintro ⟨-, row, whole, down, along, rfl⟩
    cases along
    refine ⟨row, down, ?_⟩
    rw [add_zero, right]
    rfl
  · rintro ⟨row, down, rfl⟩
    have inside := count ▸ (List.getElem?_eq_some_iff.1 down).1
    refine ⟨inside, row, (0, grid.bounds.width), down, rfl, ?_⟩
    rw [add_zero, right]
    rfl

end SceneGrid

namespace Cut

variable {cut : Cut ℚ} {childCount : Nat} {space : ℚ}

/-- Across the direction of a split its grid has one track. -/
theorem tracks_across (cut : Cut ℚ) (childCount : Nat) (box : FigureBox ℚ) :
    SceneGrid.tracks ⟨box, GridRequest.ofCut cut childCount⟩ cut.orientation.across =
      [(0, box.extent cut.orientation.across)] := by
  cases direction : cut.orientation with
  | columns =>
    simp only [Orientation.across, SceneGrid.tracks, SceneGrid.rowTracks, GridRequest.ofCut,
      heightRatios, direction]
    exact trackOffsets_single _ _ (Nat.succ_pos _)
  | rows =>
    simp only [Orientation.across, SceneGrid.tracks, SceneGrid.columnTracks, GridRequest.ofCut,
      widthRatios, direction]
    exact trackOffsets_single _ _ (Nat.succ_pos _)

/-- Along it there is a track for each ratio, and the spacing is that of the split. -/
theorem tracks_along (nonempty : cut.ratios ≠ []) (positive : ∀ ratio ∈ cut.ratios, 0 < ratio)
    (given : cut.spacing.along cut.orientation = some space) (nonneg : 0 ≤ space)
    (childCount : Nat) (box : FigureBox ℚ) :
    SceneGrid.tracks ⟨box, GridRequest.ofCut cut childCount⟩ cut.orientation =
      tracksFrom (unitOf (box.extent cut.orientation) cut.ratios space)
        (space * unitOf (box.extent cut.orientation) cut.ratios space) 0 cut.ratios := by
  cases direction : cut.orientation with
  | columns =>
    have spaced : cut.spacing.wspace = some space := by rwa [direction] at given
    simp only [SceneGrid.tracks, SceneGrid.columnTracks, GridRequest.ofCut, widthRatios, direction,
      spaced, Option.map_some, Option.getD_some]
    exact trackOffsets_scaled _ nonempty positive nonneg
  | rows =>
    have spaced : cut.spacing.hspace = some space := by rwa [direction] at given
    simp only [SceneGrid.tracks, SceneGrid.rowTracks, GridRequest.ofCut, heightRatios, direction,
      spaced, Option.map_some, Option.getD_some]
    exact trackOffsets_scaled _ nonempty positive nonneg

/-- The cells of the grid of a split are the pieces of its box over the tracks along it. -/
theorem cellBox_ok_iff_piece {box cell : FigureBox ℚ} {tracks : List (ℚ × ℚ)} {index : Nat}
    (along : SceneGrid.tracks ⟨box, GridRequest.ofCut cut childCount⟩ cut.orientation = tracks)
    (count : tracks.length = childCount) :
    SceneGrid.cellBox ⟨box, GridRequest.ofCut cut childCount⟩ index = .ok cell ↔
      (tracks.map (box.piece cut.orientation))[index]? = some cell := by
  have across := tracks_across cut childCount box
  subst along
  cases direction : cut.orientation with
  | columns =>
    rw [direction] at across count
    refine SceneGrid.cellBox_ok_iff_of_row ?_ across (count.trans ?_)
    · simp only [GridRequest.ofCut, shape, direction]
    · simp only [GridRequest.ofCut, shape, direction]
  | rows =>
    rw [direction] at across count
    refine SceneGrid.cellBox_ok_iff_of_column ?_ across (count.trans ?_)
    · simp only [GridRequest.ofCut, shape, direction]
    · simp only [GridRequest.ofCut, shape, direction]

/-- The cells of the grid that was made for a split take up its box as the split says. -/
theorem Proportioned.measured {cut : Cut Float} {children : List (Node Float)}
    (proportioned : cut.Proportioned children) (value : Float → ℚ) {space : Float}
    (given : cut.spacing.along cut.orientation = some space) (nonneg : 0 ≤ value space)
    {scene : Scene ℚ} {handle : GridHandle} {box : FigureBox ℚ}
    (found : scene.grids[handle.index]? =
      some ⟨box, GridRequest.ofCut (cut.map value) children.length⟩) :
    cut.Measured children (value space) box scene handle
      (box.pieces cut.orientation cut.ratios (value space)) := by
  have count : cut.ratios.length = children.length := proportioned.matched
  have several : 0 < children.length := Nat.lt_of_lt_of_le Nat.two_pos proportioned.several
  have nonempty : cut.ratios ≠ [] := List.length_pos_iff.1 (count.symm ▸ several)
  have spaced : (cut.map value).spacing.along (cut.map value).orientation = some (value space) := by
    rw [← Option.map_some, ← given]
    unfold map Spacing.map Spacing.along
    cases cut.orientation <;> rfl
  have along := tracks_along nonempty proportioned.positive spaced nonneg children.length box
  have divided := box.dividedInto_pieces cut.orientation nonempty proportioned.positive nonneg
  have placed : ∀ (index : Nat) cell, scene.placementBox (some (handle, index)) = .ok cell ↔
      (box.pieces cut.orientation cut.ratios (value space))[index]? = some cell := by
    intro index cell
    rw [Scene.placementBox_cell found]
    exact cellBox_ok_iff_piece along ((length_tracksFrom _ _ _ _).trans count)
  constructor
  · exact placed
  · intro figure index cell known
    exact ⟨_, _, addAxis_ok_iff.2 ⟨cell, (placed index cell).2 known, rfl, rfl⟩,
      List.getElem?_concat_length⟩
  · exact divided.count.trans count
  · exact divided
  · intro index other child sibling cell otherCell listed otherListed known otherKnown
    have ratio : ∀ (place : Nat) (node : Node Float), children[place]? = some node →
        cut.ratios[place]? = some (node.region.along cut.orientation).size := by
      intro place node member
      rw [proportioned.ratios, List.getElem?_map, member]
      rfl
    exact divided.inProportion known otherKnown (ratio index child listed)
      (ratio other sibling otherListed)

end Cut

/-- In a box of any extent the cells of a split of a partition have its ratios as sizes and its
spacing as gaps, in units that fill the box from edge to edge.  What is drawn later does not
change this. -/
theorem measured_of_partition {lines : List (List Char)} {blank : Char} {grid : ArtGrid}
    {settings : Settings} {tree : PartitionTree Float}
    (read : ArtGrid.ofLines lines blank = .ok grid) (made : grid.partition settings = .ok tree)
    {cut : Cut Float} {children : List (Node Float)}
    (member : .split cut children ∈ tree.root.descendants) (value : Float → ℚ) {space : Float}
    (given : cut.spacing.along cut.orientation = some space) (nonneg : 0 ≤ value space)
    {scene : Scene ℚ} {parent : Option (GridHandle × Nat)} {box : FigureBox ℚ}
    (placed : scene.placementBox parent = .ok box) (figure : SceneFigure ℚ) :
    ∃ handle after cells,
      (Canvas.scene ℚ).grid figure parent (GridRequest.ofCut (cut.map value) children.length)
        scene = .ok handle after ∧
      ∀ later, after.Extends later →
        cut.Measured children (value space) box later handle cells := by
  rcases Node.mem_descendants_iff.1 member with ⟨above, lineage⟩
  have proportioned := (proportioned_of_partition read made lineage).1
  have fits : (GridRequest.ofCut (cut.map value) children.length).fits = true :=
    (cut.fits_map children.length).trans proportioned.fits
  refine ⟨_, _, box.pieces cut.orientation cut.ratios (value space),
    addGrid_ok_iff.2 ⟨fits, box, placed, rfl, rfl⟩, fun later grown => ?_⟩
  exact proportioned.measured value given nonneg (grown.grid List.getElem?_concat_length)

theorem measured_of_partition_mixed :
    ArtGrid.ofLines [['A', 'A', 'C'], ['B', '.', 'C']] '.' = .ok mixed ∧
      mixed.partition Settings.default = .ok mixedTree ∧
      ∃ cut children space handle after cells,
        .split cut children ∈ mixedTree.root.descendants ∧
        cut.spacing.along cut.orientation = some space ∧ 0 ≤ exactValue space ∧
        (Scene.empty Margins.exact).placementBox none = .ok ⟨1 / 8, 11 / 100, 9 / 10, 22 / 25⟩ ∧
        (Canvas.scene ℚ).grid ⟨⟨12, 8⟩, 96⟩ none
            (GridRequest.ofCut (cut.map exactValue) children.length) (Scene.empty Margins.exact) =
          .ok handle after ∧
        ∀ later, after.Extends later → cut.Measured children (exactValue space)
          ⟨1 / 8, 11 / 100, 9 / 10, 22 / 25⟩ later handle cells := by
  have usable := Settings.validate_ok_iff.1 (ArtGrid.valid_of_partition_ok partition_mixed)
  have nonneg := (usable.nonNegative readsExactly_exactValue 0).wspace _ rfl
  have member : mixedRoot Settings.default.spacingAt ∈ mixedTree.root.descendants := by
    rw [Node.descendants_eq]
    exact List.mem_cons_self
  have placed : (Scene.empty Margins.exact).placementBox none =
      .ok ⟨1 / 8, 11 / 100, 9 / 10, 22 / 25⟩ := rfl
  rcases measured_of_partition ofLines_mixed partition_mixed member exactValue rfl nonneg placed
    ⟨⟨12, 8⟩, 96⟩ with ⟨handle, after, cells, called, measured⟩
  exact ⟨ofLines_mixed, partition_mixed, _, _, _, handle, after, cells, member, rfl, nonneg, placed, called,
    measured⟩

end Mosaic
