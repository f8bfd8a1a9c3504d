import Mosaic.Proofs.Art.Cells
import Mosaic.Proofs.Redrawing.Regions
import Mosaic.Proofs.Text.Escapes

/-!
# Parts of a drawing

No label crosses the region of a node, so what the region shows can be drawn alone.
The grid lines are moved back by the region's corner, and the labels are the labels of
the region.  Hence the subtree of the node is the partition of the part, except for what
comes from the splits above it: its depth, and the number in the name of a split whose
parent has the same labels.  How a region is cut up and how the nodes below are named
depends on its own cells alone, whatever was named before.
-/

namespace Mosaic

variable {α : Type}

/-! ## Cutting out rows of glyphs -/

/-- The entries of some rows that lie in a rectangle. -/
def CellRect.cutOut (rect : CellRect) (rows : List (List α)) : List (List α) :=
  ((rows.drop rect.top).take rect.height).map fun across =>
    (across.drop rect.left).take rect.width

/-- The rectangle with its places counted from the corner of `whole`. -/
def CellRect.seenFrom (whole rect : CellRect) : CellRect where
  top := rect.top - whole.top
  left := rect.left - whole.left
  bottom := rect.bottom - whole.top
  right := rect.right - whole.left

namespace CellRect

variable {rect other : CellRect} {rows : List (List Char)} {blank : Char}

/-- A place counted from the corner is in the rectangle if it is so near to the corner. -/
theorem containsCell_add_iff (upright : rect.Upright) {row col : Nat} :
    rect.containsCell (rect.top + row) (rect.left + col) = true ↔
      row < rect.height ∧ col < rect.width := by
  have high := upright.rows
  have wide := upright.cols
  rw [containsCell_iff, height, width]
  omega

theorem glyphAt?_cutOut_iff (upright : rect.Upright) {row col : Nat} {glyph : Char} :
    glyphAt? (rect.cutOut rows) row col = some glyph ↔
      rect.containsCell (rect.top + row) (rect.left + col) = true ∧
        glyphAt? rows (rect.top + row) (rect.left + col) = some glyph := by
  unfold glyphAt? cutOut
  rw [containsCell_add_iff upright, List.getElem?_map, List.getElem?_take, List.getElem?_drop]
  by_cases high : row < rect.height
  · rw [if_pos high]
    cases rows[rect.top + row]? with
    | none => simp
    | some across =>
      change ((across.drop rect.left).take rect.width)[col]? = some glyph ↔
        (row < rect.height ∧ col < rect.width) ∧ across[rect.left + col]? = some glyph
      rw [List.getElem?_take, List.getElem?_drop]
      by_cases wide : col < rect.width <;> simp [high, wide]
  · simp [high]

theorem length_cutOut (upright : rect.Upright) (low : rect.bottom < rows.length) :
    (rect.cutOut rows).length = rect.height := by
  have high := upright.rows
  rw [cutOut, List.length_map, List.length_take, List.length_drop, height]
  omega

theorem exists_of_mem_cutOut {across : List Char} (taken : across ∈ rect.cutOut rows) :
    ∃ row ∈ rows, across = (row.drop rect.left).take rect.width := by
  rcases List.mem_map.1 taken with ⟨row, member, rfl⟩
  exact ⟨row, List.mem_of_mem_drop (List.mem_of_mem_take member), rfl⟩

theorem length_of_mem_cutOut (upright : rect.Upright) (wide : ∀ row ∈ rows, rect.right < row.length)
    {across : List Char} (taken : across ∈ rect.cutOut rows) : across.length = rect.width := by
  have level := upright.cols
  rcases exists_of_mem_cutOut taken with ⟨row, listed, rfl⟩
  have far := wide row listed
  rw [List.length_take, List.length_drop, width]
  omega

end CellRect

/-- Every rectangle of a drawing that holds a label can be drawn. -/
theorem IsDrawable.cutOut {rows : List (List Char)} {blank : Char} {rect : CellRect}
    (drawable : IsDrawable rows blank) (upright : rect.Upright) (low : rect.bottom < rows.length)
    (wide : ∀ row ∈ rows, rect.right < row.length)
    (labelled : ∃ row col label, rect.containsCell row col = true ∧
      glyphAt? rows row col = some label ∧ label ≠ blank) :
    IsDrawable (rect.cutOut rows) blank := by
  constructor
  · apply List.ne_nil_of_length_pos
    rw [CellRect.length_cutOut upright low]
    exact Nat.succ_pos _
  · exact ⟨rect.width, Nat.succ_pos _, fun across => CellRect.length_of_mem_cutOut upright wide⟩
  · intro across taken glyph member
    rcases CellRect.exists_of_mem_cutOut taken with ⟨row, listed, rfl⟩
    exact drawable.known row listed glyph (List.mem_of_mem_drop (List.mem_of_mem_take member))
  · rcases labelled with ⟨row, col, label, inside, found, other⟩
    have within := CellRect.containsCell_iff.1 inside
    have moved : glyphAt? (rect.cutOut rows) (row - rect.top) (col - rect.left) = some label := by
      rw [CellRect.glyphAt?_cutOut_iff upright, Nat.add_sub_of_le within.1.1,
        Nat.add_sub_of_le within.2.1]
      exact ⟨inside, found⟩
    rcases exists_glyphAt?_iff.1 ⟨_, _, moved⟩ with ⟨across, taken, member⟩
    exact ⟨across, taken, label, member, other⟩
  · intro label other row col extent
    have held : ∀ {row col}, glyphAt? (rect.cutOut rows) row col = some label →
        (row < rect.height ∧ col < rect.width) ∧
          glyphAt? rows (rect.top + row) (rect.left + col) = some label := by
      intro row col found
      rw [CellRect.glyphAt?_cutOut_iff upright, CellRect.containsCell_add_iff upright] at found
      exact found
    rcases extent with ⟨⟨upper, _, first, above⟩, ⟨lower, _, second, below⟩,
      ⟨_, left, third, before⟩, ⟨_, right, fourth, behind⟩⟩
    have bottom := (held second).1
    have side := (held fourth).1
    rw [CellRect.glyphAt?_cutOut_iff upright, CellRect.containsCell_add_iff upright]
    refine ⟨⟨by omega, by omega⟩, drawable.solid label other _ _ ?_⟩
    exact ⟨⟨_, _, (held first).2, by omega⟩, ⟨_, _, (held second).2, by omega⟩,
      ⟨_, _, (held third).2, by omega⟩, ⟨_, _, (held fourth).2, by omega⟩⟩

/-! ## The part as a drawing -/

/-- A drawing of what a rectangle of another drawing shows. -/
structure ArtGrid.IsPartOf (part grid : ArtGrid) (rect : CellRect) : Prop where
  solid : part.Solid
  bounds : part.bounds = rect.seenFrom rect
  shown : ∀ row col cell, part.cell? row col = some cell ↔
    rect.containsCell (rect.top + row) (rect.left + col) = true ∧
      grid.cell? (rect.top + row) (rect.left + col) = some cell

/-- What is cut out of clean lines is clean already. -/
theorem CellRect.cutOut_withoutEscapes (rect : CellRect) (lines : List (List Char)) :
    (rect.cutOut (lines.map Text.withoutEscapes)).map Text.withoutEscapes =
      rect.cutOut (lines.map Text.withoutEscapes) := by
  refine (List.map_congr_left ?_).trans (List.map_id _)
  intro across taken
  rcases CellRect.exists_of_mem_cutOut taken with ⟨row, listed, rfl⟩
  rcases List.mem_map.1 listed with ⟨line, member, rfl⟩
  exact Text.withoutEscapes_of_subset fun glyph found =>
    List.mem_of_mem_drop (List.mem_of_mem_take found)

/-- The part of a drawing in a rectangle that holds a label is read as it is. -/
theorem ArtGrid.exists_part {lines : List (List Char)} {blank : Char} {grid : ArtGrid}
    (read : ArtGrid.ofLines lines blank = .ok grid) {rect : CellRect} (upright : rect.Upright)
    (inside : grid.bounds.contains rect = true)
    (labelled : ∃ row col label, rect.containsCell row col = true ∧
      grid.cell? row col = some (.label label)) :
    ∃ part : ArtGrid,
      ArtGrid.ofLines (rect.cutOut (lines.map Text.withoutEscapes)) blank = .ok part ∧
        part.IsPartOf grid rect := by
  have reading := ArtGrid.isReadingOf_of_ofRows read
  have solid := reading.solid
  have rows := solid.rows_pos
  have cols := solid.cols_pos
  have corner : rect.bottom ≤ grid.rows - 1 ∧ rect.right ≤ grid.cols - 1 :=
    (CellRect.contains_iff.1 inside).2.2
  have low : rect.bottom < (lines.map Text.withoutEscapes).length := by
    rw [← reading.rowCount]
    omega
  have wide : ∀ row ∈ lines.map Text.withoutEscapes, rect.right < row.length := by
    intro row listed
    rw [reading.even row listed]
    omega
  have shown : ∃ row col label, rect.containsCell row col = true ∧
      glyphAt? (lines.map Text.withoutEscapes) row col = some label ∧ label ≠ blank := by
    rcases labelled with ⟨row, col, label, within, found⟩
    exact ⟨row, col, label, within, reading.cell?_eq_label_iff.1 found⟩
  rcases (reading.isDrawable.cutOut upright low wide shown).exists_reading with ⟨part, partReading⟩
  refine ⟨part, ?_, partReading.solid, ?_, ?_⟩
  · rw [← partReading.ofRows_eq, ArtGrid.ofLines, rect.cutOut_withoutEscapes]
  · have high := partReading.rowCount
    rw [CellRect.length_cutOut upright low] at high
    rcases List.exists_mem_of_ne_nil _ partReading.high with ⟨across, taken⟩
    have broad := partReading.even across taken
    rw [CellRect.length_of_mem_cutOut upright wide taken] at broad
    simp only [ArtGrid.bounds, CellRect.full, CellRect.seenFrom, high, ← broad, CellRect.height,
      CellRect.width, Nat.sub_self, Nat.add_sub_cancel]
  · intro row col cell
    rw [partReading.cell?_eq, reading.cell?_eq, Option.map_eq_some_iff, Option.map_eq_some_iff]
    simp only [CellRect.glyphAt?_cutOut_iff upright, and_assoc, exists_and_left]

/-! ## Lines that are moved back -/

/-- The lines are counted from a later one on. -/
def LineMap.backTo (first : Nat) : LineMap :=
  ⟨fun line => line - first, 1, false⟩

theorem LineMap.regular_backTo {first : Nat} {range : Span} (behind : first ≤ range.first) :
    (backTo first).Regular range := by
  constructor
  · exact Nat.one_pos
  · intro _ place within
    have lower := within.1
    change place + 1 - first = place - first + 1
    omega
  · exact fun turned => nomatch turned

/-- The lines of both directions are counted from the corner of a rectangle. -/
def CellRect.countedFrom (whole : CellRect) (orientation : Orientation) : LineMap :=
  .backTo (whole.along orientation).first

theorem CellRect.redrawn_countedFrom (whole rect : CellRect) :
    rect.redrawn whole.countedFrom = whole.seenFrom rect := by
  have behind : ∀ last first : Nat, last + 1 - first - 1 = last - first := by omega
  simp only [redrawn, countedFrom, along, LineMap.span, LineMap.backTo, Bool.false_eq_true,
    if_false, behind, seenFrom]

namespace ArtGrid.IsPartOf

variable {part grid : ArtGrid} {rect : CellRect} {members : List LabelRegion}

theorem fills (partOf : part.IsPartOf grid rect) (solid : grid.Solid)
    (frames : Frames grid.labels rect members) {region : LabelRegion} (member : region ∈ members)
    (row col : Nat) :
    (rect.seenFrom region.bounds).containsCell row col = true ↔
      part.cell? row col = some (.label region.label) := by
  rcases frames.mem_iff.1 member with ⟨listed, contained⟩
  have upright := solid.upright region listed
  have rows := upright.rows
  have cols := upright.cols
  have within := CellRect.contains_iff.1 contained
  have own : rect.containsCell (rect.top + row) (rect.left + col) = true ∧
      region.bounds.containsCell (rect.top + row) (rect.left + col) = true ↔
        region.bounds.containsCell (rect.top + row) (rect.left + col) = true :=
    and_iff_right_of_imp (CellRect.containsCell_of_contains contained)
  rw [partOf.shown, ← solid.fills region listed, own, CellRect.containsCell_iff,
    CellRect.containsCell_iff]
  simp only [CellRect.seenFrom]
  omega

theorem mem_labels_iff (partOf : part.IsPartOf grid rect) (solid : grid.Solid)
    (frames : Frames grid.labels rect members) (region : LabelRegion) :
    region ∈ part.labels ↔
      ∃ member ∈ members, ⟨member.label, rect.seenFrom member.bounds⟩ = region := by
  have moved : ∀ member ∈ members,
      ⟨member.label, rect.seenFrom member.bounds⟩ ∈ part.labels := by
    intro member found
    have upright := solid.upright member (frames.mem_iff.1 found).1
    have rows := upright.rows
    have cols := upright.cols
    rw [partOf.solid.mem_labels_iff_cells]
    exact ⟨⟨Nat.sub_le_sub_right rows _, Nat.sub_le_sub_right cols _⟩,
      partOf.fills solid frames found⟩
  constructor
  · intro listed
    have corner := (partOf.solid.fills region listed _ _).1
      (partOf.solid.upright region listed).containsCell_corners.1
    rcases (partOf.shown _ _ _).1 corner with ⟨within, own⟩
    rcases solid.covered _ _ _ own with ⟨old, known, same⟩
    -- the label has a cell inside, and no label crosses the region
    have cell := (solid.fills old known _ _).2 (same ▸ own)
    have found : old ∈ members := by
      rcases frames.uncrossed old known with contained | apart
      · exact frames.mem_iff.2 ⟨known, contained⟩
      · rw [CellRect.not_containsCell_of_apart apart cell] at within
        cases within
    exact ⟨old, found, partOf.solid.eq_of_label_eq (moved old found) listed same⟩
  · rintro ⟨member, found, rfl⟩
    exact moved member found

/-- The part is its region redrawn. -/
theorem redraws (partOf : part.IsPartOf grid rect) (solid : grid.Solid)
    (frames : Frames grid.labels rect members) :
    Redraws rect.countedFrom rect members part.labels := by
  have listed : ∀ member ∈ members, member ∈ grid.labels ∧ rect.contains member.bounds = true :=
    fun member => frames.mem_iff.1
  have labels : members.map (LabelRegion.redrawn rect.countedFrom) =
      members.map fun member => ⟨member.label, rect.seenFrom member.bounds⟩ :=
    List.map_congr_left fun member _ => by
      rw [LabelRegion.redrawn, CellRect.redrawn_countedFrom]
  have different : (members.map fun member =>
      LabelRegion.mk member.label (rect.seenFrom member.bounds)).Nodup := by
    apply List.Nodup.of_map LabelRegion.label
    rw [List.map_map, frames.members_eq]
    exact solid.different.sublist (List.filter_sublist.map LabelRegion.label)
  constructor
  · exact fun orientation => LineMap.regular_backTo (Nat.le_refl _)
  · exact fun member found => solid.upright member (listed member found).1
  · exact fun member found => (listed member found).2
  · rw [labels, List.perm_ext_iff_of_nodup partOf.solid.nodup_labels different]
    intro region
    rw [partOf.mem_labels_iff solid frames, List.mem_map]
  · exact fun orientation => Or.inl rfl

end ArtGrid.IsPartOf

end Mosaic
