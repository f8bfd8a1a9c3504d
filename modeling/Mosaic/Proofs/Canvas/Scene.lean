import Mosaic.Proofs.Canvas.Serving

/-!
# What a scene keeps

A scene only adds to what it has, so a handle stands for the same grid for good.  A
grid is kept only when it has a track for each row and column, so each of its cells
has a box.  Hence a scene refuses no call of a drawing.
-/

namespace Mosaic

variable {α : Type}

theorem GridRequest.fits_iff {request : GridRequest α} :
    request.fits = true ↔
      request.heightRatios.length = request.nrows ∧ request.widthRatios.length = request.ncols ∧
        (∀ ratio ∈ request.heightRatios, 0 < ratio) ∧ ∀ ratio ∈ request.widthRatios, 0 < ratio := by
  have positive : ∀ ratios : List Nat, (!ratios.contains 0) = true ↔ ∀ ratio ∈ ratios, 0 < ratio := by
    intro ratios
    rw [Bool.not_eq_true', List.contains_eq_mem, decide_eq_false_iff_not]
    exact ⟨fun absent ratio member => Nat.pos_of_ne_zero fun zero => absent (zero ▸ member),
      fun positive member => Nat.lt_irrefl 0 (positive 0 member)⟩
  rw [fits, Bool.and_eq_true, Bool.and_eq_true, Bool.and_eq_true, positive, positive,
    decide_eq_true_eq, decide_eq_true_eq, and_assoc, and_assoc]

variable [Scalar α]

theorem length_tracksFrom (unit gap start : α) (ratios : List Nat) :
    (tracksFrom unit gap start ratios).length = ratios.length := by
  induction ratios generalizing start with
  | nil => rfl
  | cons ratio ratios ih => rw [tracksFrom, List.length_cons, List.length_cons, ih]

theorem length_trackOffsets (total : α) (ratios : List Nat) (space : α) :
    (trackOffsets total ratios space).length = ratios.length :=
  length_tracksFrom _ _ _ _

namespace SceneGrid

variable {grid : SceneGrid α} {index : Nat}

/-- The box of a cell lies between the edges of its row and its column. -/
theorem cellBox_ok_iff {box : FigureBox α} :
    grid.cellBox index = .ok box ↔ index < grid.request.nrows * grid.request.ncols ∧
      ∃ row column, grid.rowTracks[index / grid.request.ncols]? = some row ∧
        grid.columnTracks[index % grid.request.ncols]? = some column ∧
          box = ⟨grid.bounds.left + column.1, grid.bounds.top - row.2,
            grid.bounds.left + column.2, grid.bounds.top - row.1⟩ := by
  unfold cellBox
  by_cases inside : index < grid.request.nrows * grid.request.ncols
  · rw [if_neg (Nat.not_le.2 inside)]
    constructor
    · intro found
      split at found
      · next row column down along =>
        cases found
        exact ⟨inside, row, column, down, along, rfl⟩
      · cases found
    · rintro ⟨-, row, column, down, along, rfl⟩
      rw [down, along]
  · rw [if_pos (Nat.not_lt.1 inside)]
    exact ⟨fun found => (nomatch found), fun known => absurd known.1 inside⟩

/-- In a grid that fits each cell has a row and a column. -/
theorem exists_tracks (fits : grid.request.fits = true)
    (inside : index < grid.request.nrows * grid.request.ncols) :
    ∃ row column, grid.rowTracks[index / grid.request.ncols]? = some row ∧
      grid.columnTracks[index % grid.request.ncols]? = some column := by
  rcases GridRequest.fits_iff.1 fits with ⟨heights, widths, -, -⟩
  have wide : 0 < grid.request.ncols := by
    rcases Nat.eq_zero_or_pos grid.request.ncols with none | some
    · rw [none, Nat.mul_zero] at inside
      exact absurd inside (Nat.not_lt_zero index)
    · exact some
  have down : index / grid.request.ncols < grid.rowTracks.length := by
    rw [rowTracks, length_trackOffsets, heights]
    exact Nat.div_lt_of_lt_mul (Nat.mul_comm _ _ ▸ inside)
  have along : index % grid.request.ncols < grid.columnTracks.length := by
    rw [columnTracks, length_trackOffsets, widths]
    exact Nat.mod_lt index wide
  exact ⟨_, _, List.getElem?_eq_getElem down, List.getElem?_eq_getElem along⟩

theorem exists_cellBox (fits : grid.request.fits = true)
    (inside : index < grid.request.nrows * grid.request.ncols) :
    ∃ box, grid.cellBox index = .ok box := by
  rcases exists_tracks fits inside with ⟨row, column, down, along⟩
  exact ⟨_, cellBox_ok_iff.2 ⟨inside, row, column, down, along, rfl⟩⟩

end SceneGrid

/-! ## Calls -/

/-- A grid is added when it fits, in the box that its parent stands for. -/
theorem addGrid_ok_iff {scene after : Scene α} {parent : Option (GridHandle × Nat)}
    {request : GridRequest α} {made : GridHandle} :
    addGrid parent request scene = .ok made after ↔
      request.fits = true ∧ ∃ box, scene.placementBox parent = .ok box ∧
        made = ⟨scene.grids.length⟩ ∧
          after = { scene with grids := scene.grids ++ [⟨box, request⟩] } := by
  unfold addGrid
  dsimp only [bind, EStateM.bind, get, getThe, MonadStateOf.get, EStateM.get]
  cases fits : request.fits with
  | false =>
    rw [if_neg Bool.false_ne_true]
    exact ⟨fun done => (nomatch done), fun known => (nomatch known.1)⟩
  | true =>
    rw [if_pos rfl]
    cases scene.placementBox parent with
    | error cause => exact ⟨fun done => (nomatch done), fun ⟨_, _, known, _⟩ => (nomatch known)⟩
    | ok box =>
      constructor
      · intro done
        cases done
        exact ⟨rfl, box, rfl, rfl, rfl⟩
      · rintro ⟨-, _, ⟨⟩, rfl, rfl⟩
        rfl

/-- A grid is refused when it does not fit, or else with its place.  It leaves no trace. -/
theorem addGrid_error_iff {scene after : Scene α} {parent : Option (GridHandle × Nat)}
    {request : GridRequest α} {fault : Fault} :
    addGrid parent request scene = .error fault after ↔ after = scene ∧
      (request.fits = false ∧ fault = .canvas (.ratiosDoNotFit request.heightRatios
          request.widthRatios request.nrows request.ncols) ∨
        request.fits = true ∧
          ∃ cause, scene.placementBox parent = .error cause ∧ fault = .canvas cause) := by
  unfold addGrid
  dsimp only [bind, EStateM.bind, get, getThe, MonadStateOf.get, EStateM.get]
  cases request.fits with
  | false =>
    rw [if_neg Bool.false_ne_true]
    constructor
    · intro refused
      cases refused
      exact ⟨rfl, Or.inl ⟨rfl, rfl⟩⟩
    · rintro ⟨rfl, ⟨-, rfl⟩ | ⟨⟨⟩, -⟩⟩
      rfl
  | true =>
    rw [if_pos rfl]
    cases scene.placementBox parent with
    | error cause =>
      constructor
      · intro refused
        cases refused
        exact ⟨rfl, Or.inr ⟨rfl, cause, rfl, rfl⟩⟩
      · rintro ⟨rfl, ⟨⟨⟩, -⟩ | ⟨-, _, ⟨⟩, rfl⟩⟩
        rfl
    | ok box =>
      constructor
      · exact fun refused => (nomatch refused)
      · rintro ⟨-, ⟨⟨⟩, -⟩ | ⟨-, _, ⟨⟩, -⟩⟩

theorem addAxis_ok_iff {scene after : Scene α} {parent : Option (GridHandle × Nat)}
    {made : AxisHandle} :
    addAxis parent scene = .ok made after ↔
      ∃ box, scene.placementBox parent = .ok box ∧ made = ⟨scene.axes.length⟩ ∧
        after = { scene with axes := scene.axes ++ [box] } := by
  unfold addAxis
  dsimp only [bind, EStateM.bind, get, getThe, MonadStateOf.get, EStateM.get]
  cases scene.placementBox parent with
  | error cause => exact ⟨fun done => (nomatch done), fun ⟨_, known, _⟩ => (nomatch known)⟩
  | ok box =>
    constructor
    · intro done
      cases done
      exact ⟨box, rfl, rfl, rfl⟩
    · rintro ⟨_, ⟨⟩, rfl, rfl⟩
      rfl

/-- An axis is refused with its place, and leaves no trace. -/
theorem addAxis_error_iff {scene after : Scene α} {parent : Option (GridHandle × Nat)}
    {fault : Fault} :
    addAxis parent scene = .error fault after ↔ after = scene ∧
      ∃ cause, scene.placementBox parent = .error cause ∧ fault = .canvas cause := by
  unfold addAxis
  dsimp only [bind, EStateM.bind, get, getThe, MonadStateOf.get, EStateM.get]
  cases scene.placementBox parent with
  | error cause =>
    constructor
    · intro refused
      cases refused
      exact ⟨rfl, cause, rfl, rfl⟩
    · rintro ⟨rfl, _, ⟨⟩, rfl⟩
      rfl
  | ok box => exact ⟨fun refused => (nomatch refused), fun ⟨_, _, known, _⟩ => (nomatch known)⟩

namespace Scene

/-- The issued grids are on the scene, and have the cells they were issued for. -/
def Keeps (scene : Scene α) (issued : List (GridHandle × Nat)) : Prop :=
  ∀ handle cellCount, (handle, cellCount) ∈ issued → ∃ grid, scene.grids[handle.index]? = some grid ∧
    grid.request.fits = true ∧ grid.request.nrows * grid.request.ncols = cellCount

variable {scene : Scene α} {issued : List (GridHandle × Nat)}

theorem placementBox_cell {handle : GridHandle} {grid : SceneGrid α}
    (found : scene.grids[handle.index]? = some grid) (index : Nat) :
    scene.placementBox (some (handle, index)) = grid.cellBox index := by
  unfold placementBox
  dsimp only
  rw [found]

/-- A place that was issued has a box. -/
theorem Keeps.exists_placementBox (keeps : scene.Keeps issued) {parent : Option (GridHandle × Nat)}
    (placed : IsIssued issued parent) : ∃ box, scene.placementBox parent = .ok box := by
  cases parent with
  | none => exact ⟨_, rfl⟩
  | some place =>
    rcases place with ⟨handle, index⟩
    rcases placed with ⟨cellCount, listed, inside⟩
    rcases keeps handle cellCount listed with ⟨grid, found, fits, count⟩
    rw [placementBox_cell found]
    exact grid.exists_cellBox fits (count.symm ▸ inside)

omit [Scalar α] in
theorem Keeps.addGrid (keeps : scene.Keeps issued) {added : SceneGrid α}
    (fits : added.request.fits = true) :
    ({ scene with grids := scene.grids ++ [added] } : Scene α).Keeps
      ((⟨scene.grids.length⟩, added.request.nrows * added.request.ncols) :: issued) := by
  intro handle cellCount listed
  rcases List.mem_cons.1 listed with own | earlier
  · cases own
    exact ⟨added, List.getElem?_concat_length, fits, rfl⟩
  · rcases keeps handle cellCount earlier with ⟨grid, found, rest⟩
    refine ⟨grid, ?_, rest⟩
    dsimp only
    rw [List.getElem?_append_left (List.getElem?_eq_some_iff.1 found).1]
    exact found

end Scene

/-- A scene gets an axis for each call that makes one. -/
theorem Scene.length_axes_of_runs {before after : Scene α}
    {calls : List (AnsweredCall α (SceneFigure α) GridHandle AxisHandle)}
    (runs : (Canvas.scene α).Runs before calls after) :
    after.axes.length = before.axes.length + (calls.filterMap AnsweredCall.axis?).length := by
  induction runs with
  | nil => rfl
  | cons first later ih =>
    rw [ih]
    cases first with
    | figure called =>
      cases called
      rfl
    | grid called =>
      rcases addGrid_ok_iff.1 called with ⟨-, box, -, rfl, rfl⟩
      rfl
    | axis called =>
      rcases addAxis_ok_iff.1 called with ⟨box, -, rfl, rfl⟩
      rw [List.filterMap_cons, List.length_append, List.length_singleton]
      exact Nat.add_right_comm _ _ _

/-- A scene refuses no call of a drawing. -/
theorem Canvas.scene_serves : (Canvas.scene α).Serves Scene.Keeps := by
  constructor
  · exact fun size dpi keeps => ⟨_, _, rfl, keeps⟩
  · intro scene issued parent request figure keeps placed fits
    rcases keeps.exists_placementBox placed with ⟨box, known⟩
    exact ⟨_, _, addGrid_ok_iff.2 ⟨fits, box, known, rfl, rfl⟩, keeps.addGrid fits⟩
  · intro scene issued parent figure keeps placed
    rcases keeps.exists_placementBox placed with ⟨box, known⟩
    exact ⟨_, _, addAxis_ok_iff.2 ⟨box, known, rfl, rfl⟩, keeps⟩

end Mosaic
