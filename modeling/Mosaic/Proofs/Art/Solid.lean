import Mosaic.Proofs.Art.Scan

/-!
# Drawings that are accepted

A drawing that is read has at least one cell and one label, and all its rows have
the same length.  Its labels are different, and each fills exactly the rectangle
that is listed for it.  So the rectangles lie inside the drawing, no two of them
share a cell, and every cell that is not blank belongs to one of them.
-/

namespace Mosaic

/-- What every drawing satisfies that is read. -/
structure ArtGrid.Solid (grid : ArtGrid) : Prop where
  rows_pos : 0 < grid.rows
  cols_pos : 0 < grid.cols
  rowCount : grid.cells.length = grid.rows
  colCount : ∀ across ∈ grid.cells, across.length = grid.cols
  nonempty : grid.labels ≠ []
  met : grid.labels.map LabelRegion.label = labelsOf grid.cells
  different : (grid.labels.map LabelRegion.label).Nodup
  named : ∀ region ∈ grid.labels, isLabelGlyph region.label = true
  upright : ∀ region ∈ grid.labels, region.bounds.Upright
  fills : ∀ region ∈ grid.labels, ∀ row col,
    region.bounds.containsCell row col = true ↔ grid.cell? row col = some (.label region.label)
  covered : ∀ row col label, grid.cell? row col = some (.label label) →
    ∃ region ∈ grid.labels, region.label = label

/-! ## Glyphs -/

/-- The cell that an accepted glyph stands for. -/
def cellOf (blank glyph : Char) : Cell :=
  if glyph = blank then .blank else .label glyph

theorem cellOf_eq_label_iff {blank glyph label : Char} :
    cellOf blank glyph = .label label ↔ glyph = label ∧ label ≠ blank := by
  unfold cellOf
  split
  · next same =>
    subst same
    simp [eq_comm]
  · next other =>
    rw [Cell.label.injEq]
    exact ⟨fun same => ⟨same, same ▸ other⟩, And.left⟩

theorem cellOfGlyph_eq_ok_iff {blank glyph : Char} {row col : Nat} {cell : Cell} :
    cellOfGlyph blank glyph row col = .ok cell ↔
      cell = cellOf blank glyph ∧ (glyph ≠ blank → isLabelGlyph glyph = true) := by
  have swap : ∀ made : Cell, (.ok made : Except Fault Cell) = .ok cell ↔ cell = made := by
    intro made
    rw [Except.ok.injEq]
    exact eq_comm
  unfold cellOfGlyph cellOf
  by_cases same : glyph = blank
  · simp [same, swap]
  · by_cases label : isLabelGlyph glyph = true
    · simp [same, label, swap]
    · simp [same, label]

theorem cellsOfRow_eq_ok_iff {blank : Char} {row col : Nat} {glyphs : List Char}
    {cells : List Cell} :
    cellsOfRow blank row col glyphs = .ok cells ↔
      cells = glyphs.map (cellOf blank) ∧
        ∀ glyph ∈ glyphs, glyph ≠ blank → isLabelGlyph glyph = true := by
  induction glyphs generalizing col cells with
  | nil =>
    constructor
    · rintro ⟨⟩
      exact ⟨rfl, fun _ none => absurd none List.not_mem_nil⟩
    · rintro ⟨rfl, -⟩
      rfl
  | cons glyph glyphs ih =>
    rw [cellsOfRow, List.forall_mem_cons, List.map_cons]
    cases here : cellOfGlyph blank glyph row col with
    | error fault =>
      have refused : ¬ (glyph ≠ blank → isLabelGlyph glyph = true) := fun known => by
        rw [cellOfGlyph_eq_ok_iff.2 ⟨rfl, known⟩] at here
        cases here
      exact ⟨fun impossible => (nomatch impossible), fun ⟨_, known, _⟩ => absurd known refused⟩
    | ok cell =>
      rcases cellOfGlyph_eq_ok_iff.1 here with ⟨rfl, known⟩
      cases later : cellsOfRow blank row (col + 1) glyphs with
      | error fault =>
        have refused := fun others => (nomatch later.symm.trans (ih.2 ⟨rfl, others⟩) : False)
        exact ⟨fun impossible => (nomatch impossible), fun ⟨_, _, others⟩ => (refused others).elim⟩
      | ok rest =>
        rcases ih.1 later with ⟨rfl, others⟩
        constructor
        · rintro ⟨⟩
          exact ⟨rfl, known, others⟩
        · rintro ⟨rfl, -, -⟩
          rfl

/-- Rows are accepted when all their glyphs are known, and are then read glyph by
glyph. -/
theorem cellsOfRows_eq_ok_iff {blank : Char} {row : Nat} {lines : List (List Char)}
    {cells : List (List Cell)} :
    cellsOfRows blank row lines = .ok cells ↔
      cells = lines.map (·.map (cellOf blank)) ∧
        ∀ line ∈ lines, ∀ glyph ∈ line, glyph ≠ blank → isLabelGlyph glyph = true := by
  induction lines generalizing row cells with
  | nil =>
    constructor
    · rintro ⟨⟩
      exact ⟨rfl, fun _ none => absurd none List.not_mem_nil⟩
    · rintro ⟨rfl, -⟩
      rfl
  | cons line lines ih =>
    rw [cellsOfRows, List.forall_mem_cons, List.map_cons]
    cases here : cellsOfRow blank row 0 line with
    | error fault =>
      have refused := fun known =>
        (nomatch here.symm.trans (cellsOfRow_eq_ok_iff.2 ⟨rfl, known⟩) : False)
      exact ⟨fun impossible => (nomatch impossible), fun ⟨_, known, _⟩ => (refused known).elim⟩
    | ok across =>
      rcases cellsOfRow_eq_ok_iff.1 here with ⟨rfl, known⟩
      cases later : cellsOfRows blank (row + 1) lines with
      | error fault =>
        have refused := fun others => (nomatch later.symm.trans (ih.2 ⟨rfl, others⟩) : False)
        exact ⟨fun impossible => (nomatch impossible), fun ⟨_, _, others⟩ => (refused others).elim⟩
      | ok rest =>
        rcases ih.1 later with ⟨rfl, others⟩
        constructor
        · rintro ⟨⟩
          exact ⟨rfl, known, others⟩
        · rintro ⟨rfl, -, -⟩
          rfl

/-! ## Labels -/

theorem mem_labelsOf {cells : List (List Cell)} {row col : Nat} {label : Char}
    (found : cellAt? cells row col = some (.label label)) : label ∈ labelsOf cells := by
  rw [← map_label_regionsMet, (scanned_regionsMet cells).labels, List.mem_eraseDups]
  exact List.mem_map_of_mem (mem_labelledPlaces.2 found)

/-! ## Whole drawings -/

theorem firstRagged?_eq_none_iff {expected line : Nat} {rows : List (List Char)} :
    firstRagged? expected line rows = none ↔ ∀ row ∈ rows, row.length = expected := by
  induction rows generalizing line with
  | nil => simp [firstRagged?]
  | cons row rows ih =>
    rw [firstRagged?, List.forall_mem_cons]
    split
    · next same => rw [ih, and_iff_right same]
    · next other => simp [other]

/-- What is checked of rows of glyphs before they are a drawing, and what is made of
them. -/
structure ArtGrid.IsReadingOf (grid : ArtGrid) (rows : List (List Char)) (blank : Char) : Prop where
  high : rows ≠ []
  wide : 0 < grid.cols
  even : ∀ row ∈ rows, row.length = grid.cols
  known : ∀ row ∈ rows, ∀ glyph ∈ row, glyph ≠ blank → isLabelGlyph glyph = true
  cells : grid.cells = rows.map (·.map (cellOf blank))
  rowCount : grid.rows = rows.length
  labels : grid.labels = regionsMet grid.cells
  filled : ∀ region ∈ regionsMet grid.cells, ∀ row col,
    region.bounds.containsCell row col = true →
      cellAt? grid.cells row col = some (.label region.label)
  labelled : grid.labels ≠ []

theorem checkSolid_regionsMet {cells : List (List Cell)} :
    checkSolid cells (regionsMet cells) = .ok () ↔
      ∀ region ∈ regionsMet cells, ∀ row col, region.bounds.containsCell row col = true →
        cellAt? cells row col = some (.label region.label) :=
  checkSolid_eq_ok_iff fun region member => ((scanned_regionsMet cells).bounds region member).upright

/-- Rows of glyphs that pass all checks are read. -/
theorem ArtGrid.IsReadingOf.ofRows_eq {rows : List (List Char)} {blank : Char} {grid : ArtGrid}
    (reading : grid.IsReadingOf rows blank) : ArtGrid.ofRows rows blank = .ok grid := by
  rcases grid with ⟨cells, rowCount, cols, labels⟩
  rcases reading with ⟨high, wide, even, known, same, count, listed, filled, labelled⟩
  dsimp only at wide even same count listed filled labelled
  subst same count listed
  cases rows with
  | nil => exact absurd rfl high
  | cons first others =>
    have width := even first List.mem_cons_self
    have occupied : ¬ first.isEmpty = true := fun empty => by
      rw [List.isEmpty_iff.1 empty] at width
      exact absurd width (Nat.ne_of_lt wide)
    have some : ¬ (regionsMet ((first :: others).map (·.map (cellOf blank)))).isEmpty = true :=
      fun none => labelled (List.isEmpty_iff.1 none)
    subst width
    unfold ofRows
    simp only [firstRagged?_eq_none_iff.2 even, if_neg occupied, bind, Except.bind,
      cellsOfRows_eq_ok_iff.2 ⟨rfl, known⟩, checkSolid_regionsMet.2 filled,
      sortByCorner_eq_self (pairwise_corner filled), if_neg some]
    rfl

/-- A drawing that is read has passed all checks. -/
theorem ArtGrid.isReadingOf_of_ofRows {rows : List (List Char)} {blank : Char} {grid : ArtGrid}
    (read : ArtGrid.ofRows rows blank = .ok grid) : grid.IsReadingOf rows blank := by
  unfold ofRows at read
  cases rows with
  | nil => cases read
  | cons first others =>
    simp only at read
    cases ragged : firstRagged? first.length 0 (first :: others) with
    | some fault =>
      rw [ragged] at read
      cases read
    | none =>
      rw [ragged] at read
      simp only at read
      split at read
      · cases read
      · next wide =>
        cases glyphs : cellsOfRows blank 0 (first :: others) with
        | error fault =>
          rw [glyphs] at read
          cases read
        | ok cells =>
          cases solid : checkSolid cells (regionsMet cells) with
          | error fault =>
            simp only [glyphs, solid, bind, Except.bind] at read
            cases read
          | ok nothing =>
            have filled := checkSolid_regionsMet.1 solid
            rcases cellsOfRows_eq_ok_iff.1 glyphs with ⟨same, known⟩
            simp only [glyphs, solid, bind, Except.bind,
              sortByCorner_eq_self (pairwise_corner filled)] at read
            split at read
            · cases read
            · next labelled =>
              cases read
              exact ⟨List.cons_ne_nil _ _,
                List.length_pos_iff.2 fun none => wide (List.isEmpty_iff.2 none),
                firstRagged?_eq_none_iff.1 ragged, known, same, rfl, rfl, filled,
                fun none => labelled (List.isEmpty_iff.2 none)⟩

theorem ArtGrid.ofRows_eq_ok_iff {rows : List (List Char)} {blank : Char} {grid : ArtGrid} :
    ArtGrid.ofRows rows blank = .ok grid ↔ grid.IsReadingOf rows blank :=
  ⟨isReadingOf_of_ofRows, IsReadingOf.ofRows_eq⟩

/-- Whether rows read as a drawing is decided without putting its labels in order. -/
instance (rows : List (List Char)) (blank : Char) (grid : ArtGrid) :
    Decidable (grid.IsReadingOf rows blank) :=
  decidable_of_iff (rows ≠ [] ∧ 0 < grid.cols ∧ (∀ row ∈ rows, row.length = grid.cols) ∧
      cellsOfRows blank 0 rows = .ok grid.cells ∧ grid.rows = rows.length ∧
      grid.labels = regionsMet grid.cells ∧
      checkSolid grid.cells (regionsMet grid.cells) = .ok () ∧ grid.labels ≠ [])
    ⟨fun ⟨high, wide, even, glyphs, rowCount, labels, solid, labelled⟩ =>
        ⟨high, wide, even, (cellsOfRows_eq_ok_iff.1 glyphs).2, (cellsOfRows_eq_ok_iff.1 glyphs).1,
          rowCount, labels, checkSolid_regionsMet.1 solid, labelled⟩,
      fun reading => ⟨reading.high, reading.wide, reading.even,
        cellsOfRows_eq_ok_iff.2 ⟨reading.cells, reading.known⟩, reading.rowCount, reading.labels,
        checkSolid_regionsMet.2 reading.filled, reading.labelled⟩⟩

def glyphAt? (rows : List (List Char)) (row col : Nat) : Option Char :=
  rows[row]? >>= fun across => across[col]?

theorem cellAt?_map_cellOf (rows : List (List Char)) (blank : Char) (row col : Nat) :
    cellAt? (rows.map (·.map (cellOf blank))) row col =
      (glyphAt? rows row col).map (cellOf blank) := by
  unfold cellAt? glyphAt?
  rw [List.getElem?_map]
  cases rows[row]? with
  | none => rfl
  | some across => exact List.getElem?_map

namespace ArtGrid.IsReadingOf

variable {grid : ArtGrid} {rows : List (List Char)} {blank : Char}

theorem cell?_eq (reading : grid.IsReadingOf rows blank) (row col : Nat) :
    grid.cell? row col = (glyphAt? rows row col).map (cellOf blank) := by
  unfold cell?
  rw [reading.cells, cellAt?_map_cellOf]

theorem cell?_eq_label_iff (reading : grid.IsReadingOf rows blank) {row col : Nat} {label : Char} :
    grid.cell? row col = some (.label label) ↔ glyphAt? rows row col = some label ∧ label ≠ blank := by
  rw [reading.cell?_eq, Option.map_eq_some_iff]
  constructor
  · rintro ⟨glyph, found, same⟩
    rcases cellOf_eq_label_iff.1 same with ⟨rfl, other⟩
    exact ⟨found, other⟩
  · rintro ⟨found, other⟩
    exact ⟨label, found, cellOf_eq_label_iff.2 ⟨rfl, other⟩⟩

/-- The scanned rectangles are those of the labels. -/
theorem bounds (reading : grid.IsReadingOf rows blank) {region : LabelRegion}
    (member : region ∈ grid.labels) : region.Bounds (labelledPlaces grid.cells) :=
  (scanned_regionsMet grid.cells).bounds region (reading.labels ▸ member)

/-- A drawing that is read from rows of glyphs is solid. -/
theorem solid (reading : grid.IsReadingOf rows blank) : grid.Solid := by
  have fills : ∀ region ∈ grid.labels, ∀ row col,
      region.bounds.containsCell row col = true ↔
        grid.cell? row col = some (.label region.label) := fun region member =>
    (reading.bounds member).containsCell_iff (reading.filled region (reading.labels ▸ member))
  constructor
  · rw [reading.rowCount]
    exact List.length_pos_iff.2 reading.high
  · exact reading.wide
  · rw [reading.cells, List.length_map, reading.rowCount]
  · intro across member
    rw [reading.cells] at member
    rcases List.mem_map.1 member with ⟨line, listed, rfl⟩
    rw [List.length_map]
    exact reading.even line listed
  · exact reading.labelled
  · rw [reading.labels, map_label_regionsMet]
  · rw [reading.labels]
    exact (scanned_regionsMet grid.cells).different
  · intro region member
    have upright := (reading.bounds member).upright
    have corner := (fills region member region.bounds.top region.bounds.left).1
      (CellRect.containsCell_iff.2 ⟨⟨Nat.le_refl _, upright.rows⟩, Nat.le_refl _, upright.cols⟩)
    rcases reading.cell?_eq_label_iff.1 corner with ⟨found, other⟩
    rcases Option.bind_eq_some_iff.1 found with ⟨line, here, own⟩
    exact reading.known line (List.mem_of_getElem? here) region.label (List.mem_of_getElem? own)
      other
  · exact fun region member => (reading.bounds member).upright
  · exact fills
  · intro row col label found
    have listed := mem_labelsOf found
    rw [← map_label_regionsMet, ← reading.labels] at listed
    exact List.mem_map.1 listed

end ArtGrid.IsReadingOf

theorem ArtGrid.solid_of_ofRows {rows : List (List Char)} {blank : Char} {grid : ArtGrid}
    (read : ArtGrid.ofRows rows blank = .ok grid) : grid.Solid :=
  (ArtGrid.isReadingOf_of_ofRows read).solid

theorem ArtGrid.solid_of_ofLines {lines : List (List Char)} {blank : Char} {grid : ArtGrid}
    (read : ArtGrid.ofLines lines blank = .ok grid) : grid.Solid :=
  ArtGrid.solid_of_ofRows read

namespace ArtGrid.Solid

variable {grid : ArtGrid}

theorem bounds_of_cell? (solid : grid.Solid) {row col : Nat} {cell : Cell}
    (found : grid.cell? row col = some cell) : row < grid.rows ∧ col < grid.cols := by
  unfold cell? cellAt? at found
  cases here : grid.cells[row]? with
  | none =>
    rw [here] at found
    cases found
  | some across =>
    rw [here] at found
    have high := (List.getElem?_eq_some_iff.1 here).1
    have wide := (List.getElem?_eq_some_iff.1 found).1
    rw [solid.colCount across (List.mem_of_getElem? here)] at wide
    rw [solid.rowCount] at high
    exact ⟨high, wide⟩

theorem exists_cell (solid : grid.Solid) {row col : Nat} (high : row < grid.rows)
    (wide : col < grid.cols) : ∃ cell, grid.cell? row col = some cell := by
  rw [← solid.rowCount] at high
  have across := List.getElem?_eq_getElem high
  rw [← solid.colCount _ (List.getElem_mem high)] at wide
  refine ⟨grid.cells[row][col], ?_⟩
  unfold cell? cellAt?
  rw [across]
  exact List.getElem?_eq_getElem wide

theorem bounds_upright (solid : grid.Solid) : grid.bounds.Upright := by
  have rows := solid.rows_pos
  have cols := solid.cols_pos
  unfold bounds CellRect.full
  constructor <;> simp only <;> omega

/-- The rectangles of the labels lie inside the drawing. -/
theorem bounds_contains (solid : grid.Solid) {region : LabelRegion}
    (member : region ∈ grid.labels) : grid.bounds.contains region.bounds = true := by
  have upright := solid.upright region member
  have rows := upright.rows
  have cols := upright.cols
  have corner : region.bounds.containsCell region.bounds.bottom region.bounds.right = true := by
    rw [CellRect.containsCell_iff]
    omega
  have inside := solid.bounds_of_cell? ((solid.fills region member _ _).1 corner)
  rw [CellRect.contains_iff]
  unfold bounds CellRect.full
  simp only
  omega

theorem eq_of_label_eq (solid : grid.Solid) {region other : LabelRegion}
    (member : region ∈ grid.labels) (otherMember : other ∈ grid.labels)
    (same : region.label = other.label) : region = other :=
  List.inj_on_of_nodup_map solid.different member otherMember same

/-- The rectangles of different labels share no cell. -/
theorem apart (solid : grid.Solid) {region other : LabelRegion} (member : region ∈ grid.labels)
    (otherMember : other ∈ grid.labels) (different : region ≠ other) :
    region.bounds.Apart other.bounds := by
  apply CellRect.apart_of_no_common_cell (solid.upright region member)
    (solid.upright other otherMember)
  rintro row col ⟨inside, otherInside⟩
  have first := (solid.fills region member row col).1 inside
  have second := (solid.fills other otherMember row col).1 otherInside
  rw [first] at second
  exact different (solid.eq_of_label_eq member otherMember (Cell.label.inj (Option.some.inj second)))

end ArtGrid.Solid
end Mosaic
