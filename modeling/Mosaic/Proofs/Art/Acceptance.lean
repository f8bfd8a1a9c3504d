import Mosaic.Proofs.Art.Solid

/-!
# Which drawings are accepted

Lines are accepted when they make a rectangle of blanks and labels in which every
label fills the bounding box of its cells.  This is said of the glyphs alone, by
their places.  The drawing that is made has the glyphs as its cells, and lists
every label once, with exactly its cells.  The labels are listed in the order of
their first cells, which is also the order of their upper left corners.
-/

namespace Mosaic

/-- Is the place in the bounding box of the cells that hold `label`? -/
structure InExtent (rows : List (List Char)) (label : Char) (row col : Nat) : Prop where
  above : ∃ upper col, glyphAt? rows upper col = some label ∧ upper ≤ row
  below : ∃ lower col, glyphAt? rows lower col = some label ∧ row ≤ lower
  before : ∃ row left, glyphAt? rows row left = some label ∧ left ≤ col
  behind : ∃ row right, glyphAt? rows row right = some label ∧ col ≤ right

/-- Rows of glyphs that make a drawing. -/
structure IsDrawable (rows : List (List Char)) (blank : Char) : Prop where
  high : rows ≠ []
  even : ∃ cols, 0 < cols ∧ ∀ row ∈ rows, row.length = cols
  known : ∀ row ∈ rows, ∀ glyph ∈ row, glyph = blank ∨
    (Unicode.isAlphanumeric glyph = true ∧ Unicode.displayWidth glyph = 1)
  labelled : ∃ row ∈ rows, ∃ glyph ∈ row, glyph ≠ blank
  solid : ∀ label, label ≠ blank → ∀ row col, InExtent rows label row col →
    glyphAt? rows row col = some label

/-- What a drawing has of the rows of glyphs that it was made from. -/
structure ArtGrid.Shows (grid : ArtGrid) (rows : List (List Char)) (blank : Char) : Prop where
  rowCount : grid.rows = rows.length
  colCount : ∀ row ∈ rows, row.length = grid.cols
  inside : ∀ row < grid.rows, ∀ col < grid.cols, ∃ glyph, glyphAt? rows row col = some glyph ∧
    grid.cell? row col = some (if glyph = blank then .blank else .label glyph)
  outside : ∀ row col, ¬ (row < grid.rows ∧ col < grid.cols) → grid.cell? row col = none
  /-- The labels are listed in the order of their first cells. -/
  met : grid.labels.map LabelRegion.label = (rows.flatten.filter (· ≠ blank)).eraseDups
  different : (grid.labels.map LabelRegion.label).Nodup
  listed : ∀ label, label ∈ grid.labels.map LabelRegion.label ↔
    label ≠ blank ∧ ∃ row col, glyphAt? rows row col = some label
  fills : ∀ region ∈ grid.labels, ∀ row col,
    region.bounds.containsCell row col = true ↔ grid.cell? row col = some (.label region.label)
  disjoint : grid.labels.Pairwise fun one other => ∀ row col,
    ¬ (one.bounds.containsCell row col = true ∧ other.bounds.containsCell row col = true)
  /-- They are also listed in the order of their upper left corners. -/
  ordered : grid.labels.Pairwise fun one other =>
    one.bounds.top < other.bounds.top ∨
      (one.bounds.top = other.bounds.top ∧ one.bounds.left < other.bounds.left)
  found : ∀ label region, grid.regionOf? label = some region ↔
    region ∈ grid.labels ∧ region.label = label

/-- A label glyph is a letter or number over one column. -/
theorem isLabelGlyph_of_ne_iff {blank glyph : Char} :
    (glyph ≠ blank → isLabelGlyph glyph = true) ↔
      glyph = blank ∨ (Unicode.isAlphanumeric glyph = true ∧ Unicode.displayWidth glyph = 1) := by
  unfold isLabelGlyph
  rw [Bool.and_eq_true, decide_eq_true_eq]
  by_cases same : glyph = blank <;> simp [same]

theorem exists_glyphAt?_iff {rows : List (List Char)} {glyph : Char} :
    (∃ row col, glyphAt? rows row col = some glyph) ↔ ∃ row ∈ rows, glyph ∈ row := by
  unfold glyphAt?
  constructor
  · rintro ⟨row, col, found⟩
    rcases Option.bind_eq_some_iff.1 found with ⟨across, here, own⟩
    exact ⟨across, List.mem_of_getElem? here, List.mem_of_getElem? own⟩
  · rintro ⟨across, listed, member⟩
    rcases List.getElem?_of_mem listed with ⟨row, here⟩
    rcases List.getElem?_of_mem member with ⟨col, own⟩
    exact ⟨row, col, Option.bind_eq_some_iff.2 ⟨across, here, own⟩⟩

/-- The labels of the cells are the glyphs that are not blank. -/
theorem filterMap_label?_cellOf (rows : List (List Char)) (blank : Char) :
    (rows.map (·.map (cellOf blank))).flatten.filterMap Cell.label? =
      rows.flatten.filter (· ≠ blank) := by
  have each : ∀ glyph, (cellOf blank glyph).label? = if glyph ≠ blank then some glyph else none := by
    intro glyph
    unfold cellOf
    by_cases same : glyph = blank <;> simp [same, Cell.label?]
  rw [← List.map_flatten, List.filterMap_map, ← List.filterMap_eq_filter]
  congr 1
  funext glyph
  rw [Function.comp_apply, each, Option.guard]
  simp

theorem mem_labelsOf_cellOf {rows : List (List Char)} {blank label : Char} :
    label ∈ labelsOf (rows.map (·.map (cellOf blank))) ↔
      label ≠ blank ∧ ∃ row ∈ rows, label ∈ row := by
  rw [labelsOf, filterMap_label?_cellOf, List.mem_eraseDups, List.mem_filter, List.mem_flatten,
    decide_eq_true_eq, and_comm]

/-- The labelled places of the cells are those of the glyphs that are not blank. -/
theorem mem_labelledPlaces_cellOf {rows : List (List Char)} {blank label : Char} {row col : Nat} :
    (label, (row, col)) ∈ labelledPlaces (rows.map (·.map (cellOf blank))) ↔
      glyphAt? rows row col = some label ∧ label ≠ blank := by
  rw [mem_labelledPlaces, cellAt?_map_cellOf, Option.map_eq_some_iff]
  constructor
  · rintro ⟨glyph, found, same⟩
    rcases cellOf_eq_label_iff.1 same with ⟨rfl, other⟩
    exact ⟨found, other⟩
  · rintro ⟨found, other⟩
    exact ⟨label, found, cellOf_eq_label_iff.2 ⟨rfl, other⟩⟩

/-- The rectangle of a label is the bounding box of its cells. -/
theorem LabelRegion.Bounds.containsCell_iff_inExtent {rows : List (List Char)} {blank : Char}
    {region : LabelRegion}
    (bounds : region.Bounds (labelledPlaces (rows.map (·.map (cellOf blank))))) {row col : Nat} :
    region.bounds.containsCell row col = true ↔ InExtent rows region.label row col := by
  rcases bounds with ⟨holds, ⟨topmost, topMember, top⟩, ⟨leftmost, leftMember, left⟩,
    ⟨lowest, bottomMember, bottom⟩, ⟨rightmost, rightMember, right⟩⟩
  have shown : ∀ {place}, (region.label, place) ∈ labelledPlaces (rows.map (·.map (cellOf blank))) →
      glyphAt? rows place.1 place.2 = some region.label :=
    fun member => (mem_labelledPlaces_cellOf.1 member).1
  have other := (mem_labelledPlaces_cellOf.1 topMember).2
  constructor
  · intro inside
    rw [CellRect.containsCell_iff] at inside
    exact ⟨⟨_, _, shown topMember, by omega⟩, ⟨_, _, shown bottomMember, by omega⟩,
      ⟨_, _, shown leftMember, by omega⟩, ⟨_, _, shown rightMember, by omega⟩⟩
  · rintro ⟨⟨upper, _, first, high⟩, ⟨lower, _, second, low⟩, ⟨_, before, third, near⟩,
      ⟨_, behind, fourth, far⟩⟩
    have held : ∀ {row col}, glyphAt? rows row col = some region.label →
        region.bounds.containsCell row col = true :=
      fun {row col} found => holds (row, col) (mem_labelledPlaces_cellOf.2 ⟨found, other⟩)
    have upmost := CellRect.containsCell_iff.1 (held first)
    have downmost := CellRect.containsCell_iff.1 (held second)
    have start := CellRect.containsCell_iff.1 (held third)
    have stop := CellRect.containsCell_iff.1 (held fourth)
    rw [CellRect.containsCell_iff]
    omega

theorem ArtGrid.mem_of_regionOf? {grid : ArtGrid} {label : Char} {region : LabelRegion}
    (found : grid.regionOf? label = some region) : region ∈ grid.labels ∧ region.label = label := by
  unfold ArtGrid.regionOf? at found
  exact ⟨List.mem_of_find?_eq_some found, by simpa using List.find?_some found⟩

theorem ArtGrid.regionOf?_label {grid : ArtGrid} (solid : grid.Solid) {region : LabelRegion}
    (member : region ∈ grid.labels) : grid.regionOf? region.label = some region := by
  cases found : grid.regionOf? region.label with
  | none =>
    unfold ArtGrid.regionOf? at found
    exact absurd (decide_eq_true rfl) (List.find?_eq_none.1 found region member)
  | some other =>
    have ⟨listed, same⟩ := ArtGrid.mem_of_regionOf? found
    rw [solid.eq_of_label_eq listed member same]

namespace ArtGrid.IsReadingOf

variable {grid : ArtGrid} {rows : List (List Char)} {blank : Char}

theorem containsCell_iff_inExtent (reading : grid.IsReadingOf rows blank) {region : LabelRegion}
    (member : region ∈ grid.labels) {row col : Nat} :
    region.bounds.containsCell row col = true ↔ InExtent rows region.label row col :=
  (reading.cells ▸ reading.bounds member).containsCell_iff_inExtent

theorem isDrawable (reading : grid.IsReadingOf rows blank) : IsDrawable rows blank := by
  have solid := reading.solid
  constructor
  · exact reading.high
  · exact ⟨grid.cols, reading.wide, reading.even⟩
  · exact fun row listed glyph member => isLabelGlyph_of_ne_iff.1 (reading.known row listed glyph member)
  · rcases List.exists_mem_of_ne_nil _ reading.labelled with ⟨region, member⟩
    have upright := solid.upright region member
    have corner := (solid.fills region member region.bounds.top region.bounds.left).1
      (CellRect.containsCell_iff.2 ⟨⟨Nat.le_refl _, upright.rows⟩, Nat.le_refl _, upright.cols⟩)
    rcases reading.cell?_eq_label_iff.1 corner with ⟨found, other⟩
    rcases exists_glyphAt?_iff.1 ⟨_, _, found⟩ with ⟨row, listed, own⟩
    exact ⟨row, listed, region.label, own, other⟩
  · intro label other row col extent
    rcases extent.above with ⟨upper, left, found, -⟩
    rcases solid.covered upper left label (reading.cell?_eq_label_iff.2 ⟨found, other⟩) with
      ⟨region, member, rfl⟩
    have inside := (reading.containsCell_iff_inExtent member).2 extent
    exact (reading.cell?_eq_label_iff.1 ((solid.fills region member row col).1 inside)).1

/-- A drawing has what its rows show. -/
theorem shows (reading : grid.IsReadingOf rows blank) : grid.Shows rows blank := by
  have solid := reading.solid
  have filled : ∀ region ∈ regionsMet grid.cells, ∀ row col,
      region.bounds.containsCell row col = true →
        cellAt? grid.cells row col = some (.label region.label) := reading.filled
  have covers : ∀ label, label ∈ grid.labels.map LabelRegion.label ↔
      label ≠ blank ∧ ∃ row col, glyphAt? rows row col = some label := by
    intro label
    rw [solid.met, reading.cells, mem_labelsOf_cellOf, exists_glyphAt?_iff]
  constructor
  · exact reading.rowCount
  · exact reading.even
  · intro row high col wide
    rcases solid.exists_cell high wide with ⟨cell, found⟩
    rw [reading.cell?_eq, Option.map_eq_some_iff] at found
    rcases found with ⟨glyph, own, rfl⟩
    exact ⟨glyph, own, by rw [reading.cell?_eq, own]; rfl⟩
  · intro row col beyond
    cases found : grid.cell? row col with
    | none => rfl
    | some cell => exact absurd (solid.bounds_of_cell? found) beyond
  · rw [solid.met, labelsOf, reading.cells, filterMap_label?_cellOf]
  · exact solid.different
  · exact covers
  · exact solid.fills
  · refine (List.pairwise_map.1 solid.different).imp_of_mem ?_
    rintro one other member otherMember different row col ⟨inside, otherInside⟩
    have first := (solid.fills one member row col).1 inside
    have second := (solid.fills other otherMember row col).1 otherInside
    exact different (Cell.label.inj (Option.some.inj (first.symm.trans second)))
  · rw [reading.labels]
    exact (pairwise_corner filled).imp isBefore_iff.1
  · intro label region
    exact ⟨fun found => mem_of_regionOf? found,
      fun ⟨member, same⟩ => same ▸ regionOf?_label solid member⟩

end ArtGrid.IsReadingOf

/-- Rows that can be drawn are read. -/
theorem IsDrawable.exists_reading {rows : List (List Char)} {blank : Char}
    (drawable : IsDrawable rows blank) : ∃ grid : ArtGrid, grid.IsReadingOf rows blank := by
  rcases drawable.even with ⟨cols, wide, even⟩
  let cells := rows.map (·.map (cellOf blank))
  have scanned := scanned_regionsMet cells
  refine ⟨⟨cells, rows.length, cols, regionsMet cells⟩, drawable.high, wide, even, ?_, rfl, rfl,
    rfl, ?_, ?_⟩
  · exact fun row listed glyph member => isLabelGlyph_of_ne_iff.2 (drawable.known row listed glyph member)
  · intro region member row col inside
    have bounds := scanned.bounds region member
    have extent := bounds.containsCell_iff_inExtent.1 inside
    rcases bounds.top with ⟨⟨upper, left⟩, topmost, -⟩
    have other := (mem_labelledPlaces_cellOf.1 topmost).2
    change cellAt? (rows.map (·.map (cellOf blank))) row col = _
    rw [cellAt?_map_cellOf, drawable.solid region.label other row col extent]
    exact congrArg some (cellOf_eq_label_iff.2 ⟨rfl, other⟩)
  · intro none
    have empty : labelsOf cells = [] := by
      rw [← map_label_regionsMet, show regionsMet cells = [] from none, List.map_nil]
    rcases drawable.labelled with ⟨row, listed, glyph, member, other⟩
    have met : glyph ∈ labelsOf cells := mem_labelsOf_cellOf.2 ⟨other, row, listed, member⟩
    rw [empty] at met
    cases met

/-- Lines are accepted exactly when their glyphs can be drawn, and an accepted drawing has what
its lines show. -/
theorem ofLines_ok_iff_drawable (lines : List (List Char)) (blank : Char) :
    ((∃ grid, ArtGrid.ofLines lines blank = .ok grid) ↔
        IsDrawable (lines.map Text.withoutEscapes) blank) ∧
      ∀ grid, ArtGrid.ofLines lines blank = .ok grid →
        grid.Shows (lines.map Text.withoutEscapes) blank := by
  refine ⟨⟨?_, ?_⟩, fun grid read => (ArtGrid.isReadingOf_of_ofRows read).shows⟩
  · rintro ⟨grid, read⟩
    exact (ArtGrid.isReadingOf_of_ofRows read).isDrawable
  · intro drawable
    rcases drawable.exists_reading with ⟨grid, reading⟩
    exact ⟨grid, reading.ofRows_eq⟩

/-- Three plots and an empty cell. -/
def notched : ArtGrid where
  cells := [[.label 'C', .label 'A', .label 'A'], [.label 'C', .label 'B', .blank]]
  rows := 2
  cols := 3
  labels := [⟨'C', 0, 0, 1, 0⟩, ⟨'A', 0, 1, 0, 2⟩, ⟨'B', 1, 1, 1, 1⟩]

theorem ofLines_ok_iff_drawable_notched :
    ArtGrid.ofLines ["\x1b[32mCAA\x1b[0m".toList, "CB.".toList] '.' = .ok notched ∧
      IsDrawable (["\x1b[32mCAA\x1b[0m".toList, "CB.".toList].map Text.withoutEscapes) '.' ∧
        notched.Shows (["\x1b[32mCAA\x1b[0m".toList, "CB.".toList].map Text.withoutEscapes) '.' := by
  have read : ArtGrid.ofLines ["\x1b[32mCAA\x1b[0m".toList, "CB.".toList] '.' = .ok notched :=
    ArtGrid.ofRows_eq_ok_iff.2 (by decide +kernel)
  have known := ofLines_ok_iff_drawable ["\x1b[32mCAA\x1b[0m".toList, "CB.".toList] '.'
  exact ⟨read, known.1.1 ⟨notched, read⟩, known.2 notched read⟩

end Mosaic
