import Mosaic.Art.Grid

/-!
Where a region can be cut.  A grid line is named by the row or column that
starts after it.  A line is clean when no label of the region lies on both of
its sides; cutting at all clean lines of one direction gives the pieces of the
region in that direction.

The pieces are described without regard to what is done with them.  All that is
needed for cutting to come to an end is shown here: when there are several
pieces, each of them is smaller than the region.
-/

namespace Mosaic

/-- Does a run lie on both sides of a grid line? -/
def Span.straddles (span : Span) (line : Nat) : Bool :=
  span.first < line && line ≤ span.last

/-- Is a grid line straddled by none of the labels? -/
def isClean (orientation : Orientation) (members : List LabelRegion) (line : Nat) : Bool :=
  members.all fun member => !(member.bounds.along orientation).straddles line

/-- The grid lines strictly inside a run, in order. -/
def Span.innerLines (span : Span) : List Nat :=
  List.range' (span.first + 1) (span.last - span.first)

/-- The runs into which a run from `first` to `last` falls when it is cut at
the given lines. -/
def runsBetween (first : Nat) : List Nat → Nat → List Span
  | [], last => [⟨first, last⟩]
  | line :: lines, last => ⟨first, line - 1⟩ :: runsBetween line lines last

namespace CellRect

def cleanLines (region : CellRect) (orientation : Orientation)
    (members : List LabelRegion) : List Nat :=
  (region.along orientation).innerLines.filter (isClean orientation members)

def pieces (region : CellRect) (orientation : Orientation)
    (members : List LabelRegion) : List Span :=
  runsBetween (region.along orientation).first (region.cleanLines orientation members)
    (region.along orientation).last

/-- The direction in which a region is cut: into columns if it has several
column pieces, and otherwise into rows if it has several row pieces. -/
def direction? (region : CellRect) (members : List LabelRegion) : Option Orientation :=
  if 2 ≤ (region.pieces .columns members).length then some .columns
  else if 2 ≤ (region.pieces .rows members).length then some .rows
  else none

/-- How many grid lines are looked at before the direction is known. -/
def linesExamined (region : CellRect) : Option Orientation → Nat
  | some .columns => region.right - region.left
  | _ => (region.right - region.left) + (region.bottom - region.top)

def membersIn (region : CellRect) (members : List LabelRegion) : List LabelRegion :=
  members.filter fun member => region.contains member.bounds

/-- How many grid lines lie inside a region in both directions together. -/
def innerLineCount (region : CellRect) : Nat :=
  (region.right - region.left) + (region.bottom - region.top)

end CellRect

/-! ## Pieces are smaller than the region -/

theorem length_runsBetween (first : Nat) (lines : List Nat) (last : Nat) :
    (runsBetween first lines last).length = lines.length + 1 := by
  induction lines generalizing first with
  | nil => rfl
  | cons line lines ih => simp [runsBetween, ih]

private theorem runsBetween_extent {first last : Nat} {lines : List Nat}
    (inside : ∀ line ∈ lines, first < line ∧ line ≤ last)
    (increasing : lines.Pairwise (· < ·)) :
    ∀ span ∈ runsBetween first lines last,
      span.last - span.first ≤ last - first ∧
        (lines ≠ [] → span.last - span.first < last - first) := by
  induction lines generalizing first with
  | nil =>
    intro span member
    rcases List.mem_singleton.1 member with rfl
    exact ⟨Nat.le_refl _, fun some => absurd rfl some⟩
  | cons line lines ih =>
    intro span member
    have bounds := inside line List.mem_cons_self
    rw [List.pairwise_cons] at increasing
    have later : ∀ other ∈ lines, line < other ∧ other ≤ last := fun other found =>
      ⟨increasing.1 other found, (inside other (List.mem_cons_of_mem _ found)).2⟩
    rcases List.mem_cons.1 member with rfl | member
    · constructor
      · show line - 1 - first ≤ last - first
        omega
      · intro _
        show line - 1 - first < last - first
        omega
    · have smaller := (ih later increasing.2 span member).1
      constructor
      · omega
      · intro _
        omega

private theorem mem_innerLines {span : Span} {line : Nat} (member : line ∈ span.innerLines) :
    span.first < line ∧ line ≤ span.last := by
  unfold Span.innerLines at member
  rw [List.mem_range'_1] at member
  omega

/-- Of several pieces each one is shorter than the run they make up. -/
theorem CellRect.piece_shorter {region : CellRect} {orientation : Orientation}
    {members : List LabelRegion} {span : Span}
    (several : 2 ≤ (region.pieces orientation members).length)
    (member : span ∈ region.pieces orientation members) :
    span.last - span.first <
      (region.along orientation).last - (region.along orientation).first := by
  have some : region.cleanLines orientation members ≠ [] := by
    intro none
    simp [pieces, none, runsBetween] at several
  refine (runsBetween_extent ?_ ?_ span member).2 some
  · intro line found
    exact mem_innerLines (List.mem_filter.1 found).1
  · exact List.Pairwise.filter _ List.pairwise_lt_range'

end Mosaic
