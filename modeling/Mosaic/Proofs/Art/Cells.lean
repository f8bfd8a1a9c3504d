import Mosaic.Proofs.Art.Acceptance

/-!
# Drawings and their cells

The labels of a drawing that is read, and their rectangles, are determined by its cells.
Conversely, rows of cells can be drawn when they have one length, some label, and each
of their labels fills a rectangle: the dot is no label, no label is a control character,
and so the cells are read from lines of dots and labels.
-/

namespace Mosaic

namespace CellRect

variable {rect other : CellRect}

theorem Upright.containsCell_corners (upright : rect.Upright) :
    rect.containsCell rect.top rect.left = true ∧
      rect.containsCell rect.bottom rect.right = true := by
  rw [containsCell_iff, containsCell_iff]
  exact ⟨⟨⟨Nat.le_refl _, upright.rows⟩, Nat.le_refl _, upright.cols⟩,
    ⟨upright.rows, Nat.le_refl _⟩, upright.cols, Nat.le_refl _⟩

/-- A rectangle with some cells lies in every rectangle that has these cells. -/
theorem Upright.contains_of_cells (upright : other.Upright)
    (held : ∀ row col, other.containsCell row col = true → rect.containsCell row col = true) :
    rect.contains other = true := by
  have first := held _ _ upright.containsCell_corners.1
  have last := held _ _ upright.containsCell_corners.2
  rw [containsCell_iff] at first last
  rw [contains_iff]
  omega

theorem eq_of_containsCell (upright : rect.Upright) (otherUpright : other.Upright)
    (same : ∀ row col, rect.containsCell row col = true ↔ other.containsCell row col = true) :
    rect = other :=
  contains_antisymm (otherUpright.contains_of_cells fun row col => (same row col).2)
    (upright.contains_of_cells fun row col => (same row col).1)

end CellRect

namespace ArtGrid.Solid

variable {grid : ArtGrid}

/-- A label is listed with the rectangle that its cells fill. -/
theorem mem_labels_iff_cells (solid : grid.Solid) {region : LabelRegion} :
    region ∈ grid.labels ↔ region.bounds.Upright ∧ ∀ row col,
      region.bounds.containsCell row col = true ↔
        grid.cell? row col = some (.label region.label) := by
  constructor
  · exact fun listed => ⟨solid.upright region listed, solid.fills region listed⟩
  · rintro ⟨upright, fills⟩
    rcases solid.covered _ _ _ ((fills _ _).1 upright.containsCell_corners.1) with
      ⟨other, listed, same⟩
    have bounds : region.bounds = other.bounds := by
      apply CellRect.eq_of_containsCell upright (solid.upright other listed)
      intro row col
      rw [fills, solid.fills other listed, same]
    have whole : region = other := by
      cases region
      cases other
      cases same
      cases bounds
      rfl
    exact whole ▸ listed

theorem nodup_labels (solid : grid.Solid) : grid.labels.Nodup :=
  List.Nodup.of_map _ solid.different

end ArtGrid.Solid

/-! ## Cells that can be drawn -/

/-- Rows of cells that make a drawing. -/
structure IsArt (cells : List (List Cell)) : Prop where
  high : cells ≠ []
  even : ∃ cols, 0 < cols ∧ ∀ across ∈ cells, across.length = cols
  labelled : ∃ row col label, cellAt? cells row col = some (.label label)
  named : ∀ row col label, cellAt? cells row col = some (.label label) → isLabelGlyph label = true
  solid : ∀ row col label, cellAt? cells row col = some (.label label) →
    ∃ rect : CellRect, ∀ row col,
      rect.containsCell row col = true ↔ cellAt? cells row col = some (.label label)

theorem ArtGrid.Solid.isArt {grid : ArtGrid} (solid : grid.Solid) : IsArt grid.cells := by
  have listed : ∀ row col label, cellAt? grid.cells row col = some (.label label) →
      ∃ region ∈ grid.labels, region.label = label := solid.covered
  constructor
  · exact List.ne_nil_of_length_pos (solid.rowCount ▸ solid.rows_pos)
  · exact ⟨grid.cols, solid.cols_pos, solid.colCount⟩
  · rcases List.exists_mem_of_ne_nil _ solid.nonempty with ⟨region, member⟩
    exact ⟨_, _, region.label, (solid.fills region member _ _).1
      (solid.upright region member).containsCell_corners.1⟩
  · intro row col label found
    rcases listed row col label found with ⟨region, member, rfl⟩
    exact solid.named region member
  · intro row col label found
    rcases listed row col label found with ⟨region, member, rfl⟩
    exact ⟨region.bounds, solid.fills region member⟩

def Cell.glyph : Cell → Char
  | label name => name
  | blank => '.'

private theorem not_isLabelGlyph_dot : isLabelGlyph '.' = false := by
  decide +kernel

/-- No control character names a plot. -/
theorem isDroppedControl_of_isLabelGlyph {glyph : Char} (label : isLabelGlyph glyph = true) :
    Text.isDroppedControl glyph = false := by
  have clear : Unicode.alphanumericRanges.all (fun range => decide
      (0x20 ≤ range.1 ∧ (range.2 < 0x80 ∨ 0x9F < range.1))) = true := by
    decide +kernel
  rcases (Unicode.isIn_iff _ _).1 (Bool.and_eq_true_iff.1 label).1 with
    ⟨range, listed, lower, upper⟩
  have apart := of_decide_eq_true (List.all_eq_true.1 clear range listed)
  by_contra dropped
  simp only [Bool.not_eq_false, Text.isDroppedControl, Bool.or_eq_true, Bool.and_eq_true,
    decide_eq_true_eq] at dropped
  omega

/-- A cell that can be named is read from its glyph. -/
private theorem cellOf_glyph {cell : Cell}
    (named : ∀ label, cell = .label label → isLabelGlyph label = true) :
    cellOf '.' cell.glyph = cell := by
  cases cell with
  | blank => rfl
  | label name =>
    apply if_neg
    rintro dot
    have known := named name rfl
    rw [show name = '.' from dot, not_isLabelGlyph_dot] at known
    cases known

/-- The rows of glyphs that cells are drawn as. -/
def glyphRows (cells : List (List Cell)) : List (List Char) :=
  cells.map (·.map Cell.glyph)

theorem exists_cellAt?_iff {cells : List (List Cell)} {cell : Cell} :
    (∃ row col, cellAt? cells row col = some cell) ↔ ∃ across ∈ cells, cell ∈ across := by
  unfold cellAt?
  constructor
  · rintro ⟨row, col, found⟩
    rcases Option.bind_eq_some_iff.1 found with ⟨across, here, own⟩
    exact ⟨across, List.mem_of_getElem? here, List.mem_of_getElem? own⟩
  · rintro ⟨across, listed, member⟩
    rcases List.getElem?_of_mem listed with ⟨row, here⟩
    rcases List.getElem?_of_mem member with ⟨col, own⟩
    exact ⟨row, col, Option.bind_eq_some_iff.2 ⟨across, here, own⟩⟩

namespace IsArt

variable {cells : List (List Cell)}

theorem named_of_mem (art : IsArt cells) {across : List Cell} (listed : across ∈ cells)
    {label : Char} (member : .label label ∈ across) : isLabelGlyph label = true := by
  rcases exists_cellAt?_iff.2 ⟨across, listed, member⟩ with ⟨row, col, found⟩
  exact art.named row col label found

theorem map_cellOf_glyphRows (art : IsArt cells) :
    (glyphRows cells).map (·.map (cellOf '.')) = cells := by
  unfold glyphRows
  rw [List.map_map]
  nth_rewrite 2 [← List.map_id cells]
  apply List.map_congr_left
  intro across listed
  rw [Function.comp_apply, List.map_map]
  nth_rewrite 2 [← List.map_id across]
  apply List.map_congr_left
  rintro cell member
  apply cellOf_glyph
  rintro label rfl
  exact art.named_of_mem listed member

theorem glyphAt?_eq_label_iff (art : IsArt cells) {row col : Nat} {label : Char}
    (other : label ≠ '.') :
    glyphAt? (glyphRows cells) row col = some label ↔
      cellAt? cells row col = some (.label label) := by
  nth_rewrite 2 [← art.map_cellOf_glyphRows]
  rw [cellAt?_map_cellOf, Option.map_eq_some_iff]
  constructor
  · exact fun found => ⟨label, found, cellOf_eq_label_iff.2 ⟨rfl, other⟩⟩
  · rintro ⟨glyph, found, same⟩
    rw [found, (cellOf_eq_label_iff.1 same).1]

/-- Dots and labels are drawn as they are. -/
theorem withoutEscapes_glyphRows (art : IsArt cells) :
    (glyphRows cells).map Text.withoutEscapes = glyphRows cells := by
  nth_rewrite 2 [← List.map_id (glyphRows cells)]
  apply List.map_congr_left
  intro line drawn
  rcases List.mem_map.1 drawn with ⟨across, listed, rfl⟩
  apply Text.withoutEscapes_eq_self
  intro glyph shown
  rcases List.mem_map.1 shown with ⟨cell, member, rfl⟩
  cases cell with
  | blank => decide
  | label name => exact isDroppedControl_of_isLabelGlyph (art.named_of_mem listed member)

theorem isDrawable (art : IsArt cells) : IsDrawable (glyphRows cells) '.' := by
  have apart : ∀ {row col label}, cellAt? cells row col = some (.label label) → label ≠ '.' := by
    rintro row col label found rfl
    have known := art.named _ _ _ found
    rw [not_isLabelGlyph_dot] at known
    cases known
  constructor
  · exact fun none => art.high (List.map_eq_nil_iff.1 none)
  · rcases art.even with ⟨cols, positive, even⟩
    refine ⟨cols, positive, fun line drawn => ?_⟩
    rcases List.mem_map.1 drawn with ⟨across, listed, rfl⟩
    rw [List.length_map]
    exact even across listed
  · intro line drawn glyph shown
    rcases List.mem_map.1 drawn with ⟨across, listed, rfl⟩
    rcases List.mem_map.1 shown with ⟨cell, member, rfl⟩
    cases cell with
    | blank => exact Or.inl rfl
    | label name =>
      have known := art.named_of_mem listed member
      rw [isLabelGlyph, Bool.and_eq_true, decide_eq_true_eq] at known
      exact Or.inr known
  · rcases art.labelled with ⟨row, col, label, found⟩
    have shown := (art.glyphAt?_eq_label_iff (apart found)).2 found
    rcases exists_glyphAt?_iff.1 ⟨row, col, shown⟩ with ⟨line, drawn, member⟩
    exact ⟨line, drawn, label, member, apart found⟩
  · intro label other row col extent
    have cell : ∀ {row col}, glyphAt? (glyphRows cells) row col = some label →
        cellAt? cells row col = some (.label label) := (art.glyphAt?_eq_label_iff other).1
    rcases extent with ⟨⟨upper, _, first, high⟩, ⟨lower, _, second, low⟩, ⟨_, left, third, near⟩,
      ⟨_, right, fourth, far⟩⟩
    rcases art.solid _ _ _ (cell first) with ⟨rect, fills⟩
    have top := CellRect.containsCell_iff.1 ((fills _ _).2 (cell first))
    have bottom := CellRect.containsCell_iff.1 ((fills _ _).2 (cell second))
    have start := CellRect.containsCell_iff.1 ((fills _ _).2 (cell third))
    have stop := CellRect.containsCell_iff.1 ((fills _ _).2 (cell fourth))
    rw [art.glyphAt?_eq_label_iff other, ← fills, CellRect.containsCell_iff]
    omega

/-- Cells that can be drawn are the cells of a drawing that is read. -/
theorem exists_ofLines (art : IsArt cells) :
    ∃ lines blank grid, ArtGrid.ofLines lines blank = .ok grid ∧ grid.cells = cells := by
  rcases art.isDrawable.exists_reading with ⟨grid, reading⟩
  refine ⟨glyphRows cells, '.', grid, ?_, ?_⟩
  · rw [ArtGrid.ofLines, art.withoutEscapes_glyphRows]
    exact reading.ofRows_eq
  · rw [reading.cells, art.map_cellOf_glyphRows]

end IsArt
end Mosaic
