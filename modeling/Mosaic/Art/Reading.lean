import Mosaic.Art.Grid
import Mosaic.Fault
import Mosaic.Text.Lines
import Mosaic.Text.TerminalEscapes
import Mosaic.Unicode.Alphanumeric
import Mosaic.Unicode.DisplayWidth

/-!
Reading a drawing.  The rows must have equal lengths, every glyph must be the
blank mark or a label, and the cells of each label must fill a rectangle.  The
checks are made in this order, and within each of them row by row.
-/

namespace Mosaic

/-! ## Glyphs -/

/-- Can `glyph` name a plot?  It must be a letter or number of any script that
is drawn over exactly one column. -/
def isLabelGlyph (glyph : Char) : Bool :=
  Unicode.isAlphanumeric glyph && Unicode.displayWidth glyph = 1

/-- The cell that `glyph` stands for, at `row` and `col`. -/
def cellOfGlyph (blank glyph : Char) (row col : Nat) : Except Fault Cell :=
  if glyph = blank then .ok .blank
  else if isLabelGlyph glyph then .ok (.label glyph)
  else .error (.invalidGlyph glyph row col)

/-- The cells of one row, from its column `col` on. -/
def cellsOfRow (blank : Char) (row col : Nat) : List Char → Except Fault (List Cell)
  | [] => .ok []
  | glyph :: glyphs => do
    let cell ← cellOfGlyph blank glyph row col
    let rest ← cellsOfRow blank row (col + 1) glyphs
    return cell :: rest

/-- The cells of all rows, from the row numbered `row` on. -/
def cellsOfRows (blank : Char) (row : Nat) : List (List Char) → Except Fault (List (List Cell))
  | [] => .ok []
  | glyphs :: lines => do
    let cells ← cellsOfRow blank row 0 glyphs
    let rest ← cellsOfRows blank (row + 1) lines
    return cells :: rest

/-! ## Rectangles of labels -/

def labelledColumns (line : List Cell) : List (Char × Nat) :=
  line.zipIdx.filterMap fun entry => entry.1.label?.map fun label => (label, entry.2)

/-- The places that hold labels, row by row, each with its label. -/
def labelledPlaces (cells : List (List Cell)) : List (Char × (Nat × Nat)) :=
  cells.zipIdx.flatMap fun entry =>
    (labelledColumns entry.1).map fun found => (found.1, (entry.2, found.2))

theorem Cell.label?_eq_some_iff {cell : Cell} {label : Char} :
    cell.label? = some label ↔ cell = .label label := by
  cases cell <;> simp [Cell.label?]

theorem mem_labelledColumns {cells : List Cell} {label : Char} {col : Nat} :
    (label, col) ∈ labelledColumns cells ↔ cells[col]? = some (.label label) := by
  simp only [labelledColumns, List.mem_filterMap, Prod.exists]
  constructor
  · rintro ⟨cell, index, member, chosen⟩
    obtain ⟨name, named, same⟩ := Option.map_eq_some_iff.1 chosen
    cases same
    rw [List.mem_zipIdx_iff_getElem?] at member
    simpa [Cell.label?_eq_some_iff.1 named] using member
  · intro found
    exact ⟨.label label, col, List.mem_zipIdx_iff_getElem?.2 found, rfl⟩

theorem mem_labelledPlaces {cells : List (List Cell)} {label : Char} {row col : Nat} :
    (label, (row, col)) ∈ labelledPlaces cells ↔ cellAt? cells row col = some (.label label) := by
  simp only [labelledPlaces, cellAt?, List.mem_flatMap, List.mem_map, Prod.exists]
  constructor
  · rintro ⟨line, index, member, name, column, listed, same⟩
    cases same
    rw [List.mem_zipIdx_iff_getElem?] at member
    simpa [member] using mem_labelledColumns.1 listed
  · intro found
    cases here : cells[row]? with
    | none => simp [here] at found
    | some line =>
      rw [here] at found
      exact ⟨line, row, List.mem_zipIdx_iff_getElem?.2 here, label, col,
        mem_labelledColumns.2 found, rfl⟩

namespace CellRect

def single (place : Nat × Nat) : CellRect :=
  ⟨place.1, place.2, place.1, place.2⟩

/-- The least rectangle over `rect` and one more cell. -/
def enclose (rect : CellRect) (place : Nat × Nat) : CellRect where
  top := min rect.top place.1
  left := min rect.left place.2
  bottom := max rect.bottom place.1
  right := max rect.right place.2

/-- The cells of a rectangle, row by row. -/
def places (rect : CellRect) : List (Nat × Nat) :=
  (List.range' rect.top rect.height).flatMap fun row =>
    (List.range' rect.left rect.width).map fun col => (row, col)

/-- The listed cells of a rectangle are the ones it contains. -/
theorem mem_places {rect : CellRect} {row col : Nat} (upright : rect.top ≤ rect.bottom)
    (level : rect.left ≤ rect.right) :
    (row, col) ∈ rect.places ↔ rect.containsCell row col = true := by
  have listed : (row, col) ∈ rect.places ↔
      row ∈ List.range' rect.top rect.height ∧ col ∈ List.range' rect.left rect.width := by
    simp [places]
  rw [listed, containsCell_iff, List.mem_range'_1, List.mem_range'_1]
  unfold height width
  omega

theorem containsCell_enclose {rect : CellRect} {place : Nat × Nat} {row col : Nat}
    (member : rect.containsCell row col = true) :
    (rect.enclose place).containsCell row col = true := by
  rw [containsCell_iff] at member ⊢
  simp only [enclose]
  omega

theorem containsCell_enclose_self (rect : CellRect) (place : Nat × Nat) :
    (rect.enclose place).containsCell place.1 place.2 = true := by
  rw [containsCell_iff]
  simp only [enclose]
  omega

end CellRect

/-- Enter one more cell: the rectangle of its label grows over the cell, and a
label that was not met before is listed last. -/
def enterPlace (label : Char) (place : Nat × Nat) : List LabelRegion → List LabelRegion
  | [] => [⟨label, .single place⟩]
  | region :: regions =>
    if region.label = label then
      { region with bounds := region.bounds.enclose place } :: regions
    else region :: enterPlace label place regions

/-- The labels in the order in which they are met row by row, each with the
least rectangle over its cells. -/
def regionsMet (cells : List (List Cell)) : List LabelRegion :=
  (labelledPlaces cells).foldl (fun regions entry => enterPlace entry.1 entry.2 regions) []

/-- The first cell of `bounds` that does not hold `label`. -/
def firstGap? (cells : List (List Cell)) (label : Char) (bounds : CellRect) :
    Option (Nat × Nat) :=
  bounds.places.find? fun place => cellAt? cells place.1 place.2 ≠ some (.label label)

/-- Refuse the first label whose cells do not fill its rectangle. -/
def checkSolid (cells : List (List Cell)) : List LabelRegion → Except Fault Unit
  | [] => .ok ()
  | region :: regions =>
    match firstGap? cells region.label region.bounds with
    | some place => .error (.notSolid region.label place.1 place.2)
    | none => checkSolid cells regions

/-! ## Order of corners -/

/-- Is `place` met before `other` row by row? -/
def isBefore (place other : Nat × Nat) : Bool :=
  place.1 < other.1 || (place.1 = other.1 && place.2 < other.2)

def LabelRegion.corner (region : LabelRegion) : Nat × Nat :=
  (region.bounds.top, region.bounds.left)

/-- Regions in the order of their upper left corners, row by row. -/
def sortByCorner (regions : List LabelRegion) : List LabelRegion :=
  regions.mergeSort fun region other => !isBefore other.corner region.corner

/-! ## Drawings -/

/-- The first line, counting from `line`, whose length is not `expected`. -/
def firstRagged? (expected line : Nat) : List (List Char) → Option Fault
  | [] => none
  | row :: rows =>
    if row.length = expected then firstRagged? expected (line + 1) rows
    else some (.ragged line expected row.length)

namespace ArtGrid

def ofRows (rows : List (List Char)) (blank : Char) : Except Fault ArtGrid :=
  match rows with
  | [] => .error .emptyArt
  | first :: _ =>
    match firstRagged? first.length 0 rows with
    | some fault => .error fault
    | none =>
      if first.isEmpty then .error .emptyArt
      else do
        let cells ← cellsOfRows blank 0 rows
        let regions := regionsMet cells
        checkSolid cells regions
        let labels := sortByCorner regions
        if labels.isEmpty then .error .emptyArt
        else return { cells, rows := rows.length, cols := first.length, labels }

/-- A drawing from lines that are taken as they are, but for terminal control
sequences. -/
def ofLines (lines : List (List Char)) (blank : Char) : Except Fault ArtGrid :=
  ofRows (lines.map Text.withoutEscapes) blank

/-- One line of free text: control sequences are removed, then white space at
both ends, unless it is the blank mark. -/
def tidied (blank : Char) (line : List Char) : List Char :=
  Text.trimBy (fun glyph => Unicode.isWhiteSpace glyph && glyph ≠ blank)
    (Text.withoutEscapes line)

/-- A drawing from free text.  Lines of which nothing is left are skipped. -/
def ofText (text : List Char) (blank : Char) : Except Fault ArtGrid :=
  ofRows (((Text.lines text).map (tidied blank)).filter fun line => !line.isEmpty) blank

end ArtGrid
end Mosaic
