import Mosaic.Proofs.Canvas.Layout
import Mosaic.Proofs.Settings.Extents

/-!
# Any calls on a scene

Whoever holds a scene may ask it for anything: for a grid whose ratios do not fit its
shape, for a cell that is not there, for a place in a grid of another scene.  A handle
is only a number, and stands for what this scene has under the number.  A scene adds
what it can place and refuses everything else without a trace.  So after any calls its
grids have a track for every row and column, and no box that was given out has moved.

The ratios of a grid are positive, but they are added up in machine words.  The sum is
positive as long as it fits in a word; ratios that add up to the size of a word are
taken as well, and the tracks are then shared out by a sum of zero.
-/

namespace Mosaic

open Decimal (largestWord)

variable {α : Type}

/-- A call on a scene.  Its parent may be any handle with any index. -/
inductive SceneCall (α : Type) where
  | figure (size : FigureSize α) (dpi : α)
  | grid (figure : SceneFigure α) (parent : Option (GridHandle × Nat)) (request : GridRequest α)
  | axis (figure : SceneFigure α) (parent : Option (GridHandle × Nat))

inductive SceneObject (α : Type) where
  | figure (made : SceneFigure α)
  | grid (made : GridHandle)
  | axis (made : AxisHandle)

/-- Are the ratios one positive number for each row and each column? -/
structure GridRequest.Covers (request : GridRequest α) : Prop where
  heights : request.heightRatios.length = request.nrows
  widths : request.widthRatios.length = request.ncols
  rows : ∀ ratio ∈ request.heightRatios, 0 < ratio
  columns : ∀ ratio ∈ request.widthRatios, 0 < ratio

/-- Do the sums of the ratios, and the number of cells, fit in machine words? -/
structure GridRequest.Countable (request : GridRequest α) : Prop where
  heights : request.heightRatios.sum ≤ largestWord
  widths : request.widthRatios.sum ≤ largestWord
  cells : request.nrows * request.ncols ≤ largestWord

/-- Is the parent the figure itself, or a cell of a grid on the scene? -/
def Scene.HasPlace (scene : Scene α) : Option (GridHandle × Nat) → Prop
  | none => True
  | some (handle, index) => ∃ grid, scene.grids[handle.index]? = some grid ∧
      index < grid.request.nrows * grid.request.ncols

/-- Has every grid of a scene its ratios? -/
def Scene.Covered (scene : Scene α) : Prop :=
  ∀ grid ∈ scene.grids, grid.request.Covers

theorem GridRequest.fits_iff_covers {request : GridRequest α} :
    request.fits = true ↔ request.Covers :=
  fits_iff.trans ⟨fun ⟨heights, widths, rows, columns⟩ => ⟨heights, widths, rows, columns⟩,
    fun covers => ⟨covers.heights, covers.widths, covers.rows, covers.columns⟩⟩

theorem GridRequest.Countable.toNat_mul {request : GridRequest α} (countable : request.Countable) :
    (UInt64.ofNat request.nrows * UInt64.ofNat request.ncols).toNat =
      request.nrows * request.ncols := by
  rw [UInt64.toNat_mul, UInt64.toNat_ofNat', UInt64.toNat_ofNat', ← Nat.mul_mod]
  exact Nat.mod_eq_of_lt (Nat.lt_of_le_pred (by decide) countable.cells)

variable [Scalar α]

def SceneCall.make : SceneCall α → EStateM Fault (Scene α) (SceneObject α)
  | .figure size dpi => .figure <$> (Canvas.scene α).figure size dpi
  | .grid target parent request => .grid <$> (Canvas.scene α).grid target parent request
  | .axis target parent => .axis <$> (Canvas.scene α).axis target parent

/-- A call that succeeds adds one figure, one grid or one axis at the end. -/
inductive SceneCall.Adds (scene : Scene α) : SceneCall α → SceneObject α → Scene α → Prop
  | figure {size : FigureSize α} {dpi : α} :
      Adds scene (.figure size dpi) (.figure ⟨size, dpi⟩)
        { scene with figures := scene.figures ++ [⟨size, dpi⟩] }
  | grid {figure : SceneFigure α} {parent : Option (GridHandle × Nat)} {request : GridRequest α}
      {box : FigureBox α} (covers : request.Covers) (placed : scene.placementBox parent = .ok box) :
      Adds scene (.grid figure parent request) (.grid ⟨scene.grids.length⟩)
        { scene with grids := scene.grids ++ [⟨box, request⟩] }
  | axis {figure : SceneFigure α} {parent : Option (GridHandle × Nat)} {box : FigureBox α}
      (placed : scene.placementBox parent = .ok box) :
      Adds scene (.axis figure parent) (.axis ⟨scene.axes.length⟩)
        { scene with axes := scene.axes ++ [box] }

namespace Scene

/-- The scene after a call, whether it succeeds or not. -/
def afterCall (scene : Scene α) (call : SceneCall α) : Scene α :=
  match call.make scene with
  | .ok _ after => after
  | .error _ after => after

def afterCalls (scene : Scene α) (calls : List (SceneCall α)) : Scene α :=
  calls.foldl afterCall scene

end Scene

/-- The box of a cell that a grid has comes from a row and a column that are there, and
neither the number of columns nor a sum of ratios, as it is formed, is zero. -/
structure SceneGrid.Computes (grid : SceneGrid α) (index : Nat) : Prop where
  ncols : 0 < grid.request.ncols
  heightSum : 0 < Scalar.sum α grid.request.heightRatios
  widthSum : 0 < Scalar.sum α grid.request.widthRatios
  row : index / grid.request.ncols < grid.rowTracks.length
  column : index % grid.request.ncols < grid.columnTracks.length
  box : ∃ box, grid.cellBox index = .ok box

/-- A scene whose grids have their ratios, and that goes on like this: the next call adds
one thing or leaves no trace, and what was given out stays where it is. -/
structure Scene.Steady (scene : Scene α) : Prop where
  covers : ∀ grid ∈ scene.grids, grid.request.Covers
  failing : ∀ (call : SceneCall α) fault after, call.make scene = .error fault after → after = scene
  succeeding : ∀ (call : SceneCall α) made after, call.make scene = .ok made after →
    call.Adds scene made after
  figure : ∀ size dpi, ∃ made after, (SceneCall.figure size dpi).make scene = .ok made after
  /-- A handle that is given out has a box, and has the same one after any more calls. -/
  gridBox : ∀ (call : SceneCall α) handle after, call.make scene = .ok (.grid handle) after →
    ∃ box, ∀ calls, (after.afterCalls calls).gridBox? handle = some box
  axisBox : ∀ (call : SceneCall α) handle after, call.make scene = .ok (.axis handle) after →
    ∃ box, ∀ calls, (after.afterCalls calls).axisBox? handle = some box

/-- A scene that knows its cells, and takes a grid or an axis exactly if it has the place. -/
structure Scene.Orderly (scene : Scene α) : Prop where
  /-- A cell is there and has a box, or it is refused before anything is computed. -/
  cells : ∀ grid ∈ scene.grids, ∀ index,
    (index < grid.request.nrows * grid.request.ncols → grid.Computes index) ∧
      (grid.request.nrows * grid.request.ncols ≤ index → grid.cellBox index =
        .error (.outsideGrid index grid.request.nrows grid.request.ncols))
  /-- The number of cells is the same in machine words. -/
  counted : ∀ grid ∈ scene.grids,
    (UInt64.ofNat grid.request.nrows * UInt64.ofNat grid.request.ncols).toNat =
      grid.request.nrows * grid.request.ncols
  grid : ∀ figure parent request,
    (∃ made after, (SceneCall.grid figure parent request).make scene = .ok made after) ↔
      request.Covers ∧ scene.HasPlace parent
  axis : ∀ figure parent,
    (∃ made after, (SceneCall.axis figure parent).make scene = .ok made after) ↔
      scene.HasPlace parent

/-! ## One call -/

namespace SceneCall

variable {scene after : Scene α} {call : SceneCall α} {made : SceneObject α}

private theorem map_ok_iff {σ β γ : Type} {wrap : β → γ} {action : EStateM Fault σ β}
    {before after : σ} {made : γ} :
    (wrap <$> action) before = .ok made after ↔
      ∃ inner, action before = .ok inner after ∧ made = wrap inner := by
  change EStateM.map wrap action before = _ ↔ _
  unfold EStateM.map
  cases action before with
  | ok inner between =>
    constructor
    · intro done
      cases done
      exact ⟨inner, rfl, rfl⟩
    · rintro ⟨_, ⟨⟩, rfl⟩
      rfl
  | error fault between =>
    exact ⟨fun done => (nomatch done), fun ⟨_, known, _⟩ => (nomatch known)⟩

private theorem map_error_iff {σ β γ : Type} {wrap : β → γ} {action : EStateM Fault σ β}
    {before after : σ} {fault : Fault} :
    (wrap <$> action) before = .error fault after ↔ action before = .error fault after := by
  change EStateM.map wrap action before = _ ↔ _
  unfold EStateM.map
  cases action before with
  | ok inner between => exact ⟨fun done => (nomatch done), fun known => (nomatch known)⟩
  | error other between =>
    constructor
    · rintro ⟨⟩
      rfl
    · rintro ⟨⟩
      rfl

theorem make_ok_iff : call.make scene = .ok made after ↔ call.Adds scene made after := by
  cases call with
  | figure size dpi =>
    refine map_ok_iff.trans ?_
    constructor
    · rintro ⟨_, ⟨⟩, rfl⟩
      exact .figure
    · rintro ⟨⟩
      exact ⟨_, rfl, rfl⟩
  | grid target parent request =>
    refine map_ok_iff.trans ?_
    constructor
    · rintro ⟨inner, added, rfl⟩
      rcases addGrid_ok_iff.1 added with ⟨fits, box, placed, rfl, rfl⟩
      exact .grid (GridRequest.fits_iff_covers.1 fits) placed
    · intro adds
      cases adds with
      | grid covers placed =>
        exact ⟨_, addGrid_ok_iff.2 ⟨GridRequest.fits_iff_covers.2 covers, _, placed, rfl, rfl⟩, rfl⟩
  | axis target parent =>
    refine map_ok_iff.trans ?_
    constructor
    · rintro ⟨inner, added, rfl⟩
      rcases addAxis_ok_iff.1 added with ⟨box, placed, rfl, rfl⟩
      exact .axis placed
    · intro adds
      cases adds with
      | axis placed => exact ⟨_, addAxis_ok_iff.2 ⟨_, placed, rfl, rfl⟩, rfl⟩

theorem make_error {fault : Fault} (refused : call.make scene = .error fault after) :
    after = scene := by
  cases call with
  | figure size dpi => cases map_error_iff.1 refused
  | grid target parent request => exact (addGrid_error_iff.1 (map_error_iff.1 refused)).1
  | axis target parent => exact (addAxis_error_iff.1 (map_error_iff.1 refused)).1

theorem Adds.extends (adds : call.Adds scene made after) : scene.Extends after := by
  cases adds with
  | figure => exact ⟨List.prefix_refl _, List.prefix_refl _⟩
  | grid covers placed => exact ⟨List.prefix_append _ _, List.prefix_refl _⟩
  | axis placed => exact ⟨List.prefix_refl _, List.prefix_append _ _⟩

end SceneCall

/-! ## Cells of a grid -/

namespace SceneGrid

variable {grid : SceneGrid α} {index : Nat}

theorem cellBox_error (outside : grid.request.nrows * grid.request.ncols ≤ index) :
    grid.cellBox index = .error (.outsideGrid index grid.request.nrows grid.request.ncols) := by
  unfold cellBox
  exact if_pos outside

/-- Several positive counts have a positive sum, if it fits in a word. -/
private theorem wordSum_pos {counts : List Nat} (several : 0 < counts.length)
    (positive : ∀ count ∈ counts, 0 < count) (word : counts.sum ≤ largestWord) :
    0 < wordSum counts := by
  rw [wordSum_eq_sum word]
  exact List.sum_pos counts positive (List.length_pos_iff.1 several)

/-- A grid without rows or without columns has no cell, so a cell has both. -/
theorem computes {grid : SceneGrid Float} (covers : grid.request.Covers)
    (countable : grid.request.Countable)
    (inside : index < grid.request.nrows * grid.request.ncols) : grid.Computes index := by
  have fits := GridRequest.fits_iff_covers.2 covers
  rcases exists_tracks fits inside with ⟨row, column, down, along⟩
  have cells : 0 < grid.request.nrows * grid.request.ncols := Nat.zero_lt_of_lt inside
  have high : 0 < grid.request.nrows := Nat.pos_of_mul_pos_right cells
  have wide : 0 < grid.request.ncols := Nat.pos_of_mul_pos_left cells
  constructor
  · exact wide
  · exact wordSum_pos (covers.heights.symm ▸ high) covers.rows countable.heights
  · exact wordSum_pos (covers.widths.symm ▸ wide) covers.columns countable.widths
  · exact (List.getElem?_eq_some_iff.1 down).1
  · exact (List.getElem?_eq_some_iff.1 along).1
  · exact exists_cellBox fits inside

end SceneGrid

/-! ## Any calls -/

namespace Scene

variable {scene : Scene α}

/-- A call adds something, or the scene stays as it is. -/
theorem afterCall_cases (scene : Scene α) (call : SceneCall α) :
    (∃ made, call.Adds scene made (scene.afterCall call)) ∨ scene.afterCall call = scene := by
  unfold afterCall
  cases done : call.make scene with
  | ok made after => exact Or.inl ⟨made, SceneCall.make_ok_iff.1 done⟩
  | error fault after => exact Or.inr (SceneCall.make_error done)

theorem extends_afterCall (call : SceneCall α) : scene.Extends (scene.afterCall call) := by
  rcases scene.afterCall_cases call with ⟨made, adds⟩ | same
  · exact adds.extends
  · rw [same]
    exact Extends.refl scene

theorem extends_afterCalls (calls : List (SceneCall α)) :
    scene.Extends (scene.afterCalls calls) := by
  induction calls generalizing scene with
  | nil => exact Extends.refl scene
  | cons call calls ih => exact (extends_afterCall call).trans ih

/-- A box that a handle stands for does not move, whoever has issued the handle. -/
theorem gridBox?_afterCalls {handle : GridHandle} {box : FigureBox α}
    (known : scene.gridBox? handle = some box) (calls : List (SceneCall α)) :
    (scene.afterCalls calls).gridBox? handle = some box := by
  rcases Option.map_eq_some_iff.1 known with ⟨grid, found, rfl⟩
  exact Option.map_eq_some_iff.2 ⟨grid, (extends_afterCalls calls).grid found, rfl⟩

theorem axisBox?_afterCalls {handle : AxisHandle} {box : FigureBox α}
    (known : scene.axisBox? handle = some box) (calls : List (SceneCall α)) :
    (scene.afterCalls calls).axisBox? handle = some box :=
  (extends_afterCalls calls).axis known

theorem Covered.afterCall (covered : scene.Covered) (call : SceneCall α) :
    (scene.afterCall call).Covered := by
  rcases scene.afterCall_cases call with ⟨made, adds⟩ | same
  · generalize scene.afterCall call = after at adds
    cases adds with
    | figure => exact covered
    | grid covers placed =>
      exact List.forall_mem_append.2 ⟨covered, List.forall_mem_singleton.2 covers⟩
    | axis placed => exact covered
  · rw [same]
    exact covered

theorem Covered.afterCalls (covered : scene.Covered) (calls : List (SceneCall α)) :
    (scene.afterCalls calls).Covered := by
  induction calls generalizing scene with
  | nil => exact covered
  | cons call calls ih => exact ih (covered.afterCall call)

/-- A parent has a box if and only if it is a place on the scene. -/
theorem Covered.placementBox_ok_iff (covered : scene.Covered)
    {parent : Option (GridHandle × Nat)} :
    (∃ box, scene.placementBox parent = .ok box) ↔ scene.HasPlace parent := by
  cases parent with
  | none => exact ⟨fun _ => trivial, fun _ => ⟨_, rfl⟩⟩
  | some place =>
    rcases place with ⟨handle, index⟩
    constructor
    · -- an unknown handle is refused before any cell is looked at
      rintro ⟨box, known⟩
      cases found : scene.grids[handle.index]? with
      | none =>
        unfold placementBox at known
        dsimp only at known
        rw [found] at known
        cases known
      | some grid =>
        rw [placementBox_cell found] at known
        exact ⟨grid, found, (SceneGrid.cellBox_ok_iff.1 known).1⟩
    · rintro ⟨grid, found, inside⟩
      rw [placementBox_cell found]
      have covers := covered grid (List.mem_of_getElem? found)
      exact grid.exists_cellBox (GridRequest.fits_iff_covers.2 covers) inside

theorem Covered.steady (covered : scene.Covered) : scene.Steady where
  covers := covered
  failing call fault after refused := SceneCall.make_error refused
  succeeding call made after done := SceneCall.make_ok_iff.1 done
  figure size dpi := ⟨_, _, rfl⟩
  gridBox call handle after done := by
    cases SceneCall.make_ok_iff.1 done with
    | grid covers placed =>
      exact ⟨_, gridBox?_afterCalls (Option.map_eq_some_iff.2
        ⟨_, List.getElem?_concat_length, rfl⟩)⟩
  axisBox call handle after done := by
    cases SceneCall.make_ok_iff.1 done with
    | axis placed => exact ⟨_, axisBox?_afterCalls List.getElem?_concat_length⟩

theorem Covered.orderly {scene : Scene Float} (covered : scene.Covered)
    (countable : ∀ grid ∈ scene.grids, grid.request.Countable) : scene.Orderly where
  cells grid member index :=
    ⟨SceneGrid.computes (covered grid member) (countable grid member), SceneGrid.cellBox_error⟩
  counted grid member := (countable grid member).toNat_mul
  grid target parent request := by
    rw [← covered.placementBox_ok_iff]
    constructor
    · rintro ⟨made, after, done⟩
      cases SceneCall.make_ok_iff.1 done with
      | grid covers placed => exact ⟨covers, _, placed⟩
    · rintro ⟨covers, box, placed⟩
      exact ⟨_, _, SceneCall.make_ok_iff.2 (.grid covers placed)⟩
  axis target parent := by
    rw [← covered.placementBox_ok_iff]
    constructor
    · rintro ⟨made, after, done⟩
      cases SceneCall.make_ok_iff.1 done with
      | axis placed => exact ⟨_, placed⟩
    · rintro ⟨box, placed⟩
      exact ⟨_, _, SceneCall.make_ok_iff.2 (.axis placed)⟩

end Scene

/-- Two rows, the upper one twice as high. -/
def uneven : GridRequest Float := ⟨2, 1, [2, 1], [1], none, none⟩

/-- Calls for a grid, for both of its cells, and for a cell that it does not have. -/
def unevenCalls : List (SceneCall Float) :=
  [.grid ⟨⟨12, 8⟩, 96⟩ none uneven, .axis ⟨⟨12, 8⟩, 96⟩ (some (⟨0⟩, 0)),
    .grid ⟨⟨12, 8⟩, 96⟩ (some (⟨0⟩, 1)) uneven, .axis ⟨⟨12, 8⟩, 96⟩ (some (⟨0⟩, 2))]

/-- Two rows whose ratios add up to the size of a machine word. -/
def wrapped : GridRequest Float := ⟨2, 1, [largestWord, 1], [1], none, none⟩

/-- A grid without columns is taken, but nothing is ever placed in it. -/
example (margins : Margins ℚ) (figure : SceneFigure ℚ) :
    let scene := (Scene.empty margins).afterCalls
      [.grid figure none ⟨2, 0, [1, 1], [], none, none⟩, .axis figure (some (⟨0⟩, 0))]
    scene.grids.length = 1 ∧ scene.axes = [] :=
  ⟨rfl, rfl⟩

end Mosaic
