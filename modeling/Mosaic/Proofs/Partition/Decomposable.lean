import Mosaic.Proofs.Partition.Frames

/-!
# Drawings that come apart

A rectangle is decomposable when single cuts, made in any order, take it apart
into labels and empty rectangles.  Nothing is said about which cut comes first.
A decomposition of a rectangle restricts to every part of it that no label
crosses: a cut that meets the part cuts it too, and any other cut leaves the part
on one side.  So no cut is ever a mistake.  The whole drawing is decomposable
exactly if cutting it comes to an end, which tries one direction first and cuts at
all clean lines at once.
-/

namespace Mosaic

/-- A rectangle that single cuts take apart into labels and empty rectangles. -/
inductive Decomposable (labels : List LabelRegion) : CellRect → Prop
  /-- No label lies inside. -/
  | empty {region : CellRect} (free : ∀ label ∈ labels, region.contains label.bounds = false) :
      Decomposable labels region
  /-- One label fills it. -/
  | filled {label : LabelRegion} (listed : label ∈ labels) : Decomposable labels label.bounds
  /-- No label inside straddles a line, and both halves are decomposable. -/
  | cut {region : CellRect} (orientation : Orientation) (line : Nat)
      (inside : (region.along orientation).first < line ∧
        line ≤ (region.along orientation).last)
      (clear : ∀ label ∈ labels, region.contains label.bounds = true →
        (label.bounds.along orientation).straddles line = false)
      (before : Decomposable labels
        (region.slice orientation ⟨(region.along orientation).first, line - 1⟩))
      (after : Decomposable labels
        (region.slice orientation ⟨line, (region.along orientation).last⟩)) :
      Decomposable labels region

variable {labels members : List LabelRegion} {region : CellRect}

/-! ## Parts -/

/-- A region that a clear line cuts is decomposable when its halves are, which no label
crosses again. -/
private theorem Decomposable.of_halves {orientation : Orientation} {line : Nat}
    (frames : Frames labels region members)
    (inside : (region.along orientation).first < line ∧ line ≤ (region.along orientation).last)
    (clear : ∀ member ∈ members, (member.bounds.along orientation).straddles line = false)
    (before : ∀ {inner : List LabelRegion},
      Frames labels (region.slice orientation ⟨(region.along orientation).first, line - 1⟩) inner →
        Decomposable labels
          (region.slice orientation ⟨(region.along orientation).first, line - 1⟩))
    (after : ∀ {inner : List LabelRegion},
      Frames labels (region.slice orientation ⟨line, (region.along orientation).last⟩) inner →
        Decomposable labels
          (region.slice orientation ⟨line, (region.along orientation).last⟩)) :
    Decomposable labels region := by
  have cuts := CutLines.single inside
  have only : ∀ other ∈ [line], ∀ member ∈ members,
      (member.bounds.along orientation).straddles other = false := by
    intro other single
    rw [List.mem_singleton.1 single]
    exact clear
  apply Decomposable.cut orientation line inside
  · intro label listed contained
    exact clear label (frames.mem_iff.2 ⟨listed, contained⟩)
  · exact before (frames.run cuts only List.mem_cons_self)
  · exact after (frames.run cuts only (List.mem_cons_of_mem _ List.mem_cons_self))

/-- A decomposition restricts to a part that no label crosses. -/
theorem Decomposable.restrict (decomposable : Decomposable labels region) {part : CellRect}
    (inside : region.contains part = true) (frames : Frames labels part members) :
    Decomposable labels part := by
  induction decomposable generalizing part members with
  | empty free =>
    apply Decomposable.empty
    intro label listed
    apply Bool.eq_false_iff.2
    intro contained
    exact Bool.eq_false_iff.1 (free label listed) (CellRect.contains_trans inside contained)
  | @filled label listed =>
    rcases frames.uncrossed label listed with contained | apart
    · rw [CellRect.contains_antisymm contained inside]
      exact .filled listed
    · exact absurd apart.symm (CellRect.not_apart_of_contains frames.upright inside)
  | @cut region orientation line within clear before after beforeIH afterIH =>
    have held := CellRect.holds_along inside orientation
    have proper := frames.upright.along orientation
    rw [Span.holds_iff] at held
    rcases Nat.lt_or_ge (part.along orientation).last line with early | meets
    · -- the part lies before the line
      apply beforeIH _ frames
      apply (CellRect.slice_contains_iff inside).2
      rw [Span.holds_iff]
      simp only
      omega
    rcases Nat.lt_or_ge (part.along orientation).first line with meets' | late
    · -- the line cuts the part as well, and each half of it lies in a half
      apply Decomposable.of_halves frames ⟨meets', meets⟩
      · intro member found
        rcases frames.mem_iff.1 found with ⟨listed, contained⟩
        exact clear member listed (CellRect.contains_trans inside contained)
      · refine fun framed => beforeIH ?_ framed
        apply CellRect.contains_slice_slice inside
        rw [Span.holds_iff]
        exact ⟨held.1, Nat.le_refl _⟩
      · refine fun framed => afterIH ?_ framed
        apply CellRect.contains_slice_slice inside
        rw [Span.holds_iff]
        exact ⟨Nat.le_refl _, held.2⟩
    · -- the part lies after the line
      apply afterIH _ frames
      apply (CellRect.slice_contains_iff inside).2
      rw [Span.holds_iff]
      exact ⟨late, held.2⟩

/-! ## Cutting makes a decomposition -/

/-- A slice is decomposable when the runs between clear lines are. -/
theorem Decomposable.of_runs {orientation : Orientation} {lines : List Nat} {first last : Nat}
    (cuts : CutLines first last lines) (lower : (region.along orientation).first ≤ first)
    (upper : last ≤ (region.along orientation).last)
    (clear : ∀ line ∈ lines, ∀ label ∈ labels, region.contains label.bounds = true →
      (label.bounds.along orientation).straddles line = false)
    (each : ∀ run ∈ runsBetween first lines last,
      Decomposable labels (region.slice orientation run)) :
    Decomposable labels (region.slice orientation ⟨first, last⟩) := by
  induction lines generalizing first with
  | nil => exact each _ List.mem_cons_self
  | cons line lines ih =>
    have inside := cuts.head
    have within : region.contains (region.slice orientation ⟨first, last⟩) = true :=
      CellRect.contains_slice lower upper
    apply Decomposable.cut orientation line
    · rw [CellRect.along_slice]
      exact inside
    · intro label listed contained
      exact clear line List.mem_cons_self label listed (CellRect.contains_trans within contained)
    · rw [CellRect.along_slice, CellRect.slice_slice]
      exact each _ List.mem_cons_self
    · rw [CellRect.along_slice, CellRect.slice_slice]
      apply ih cuts.tail (Nat.le_trans lower (Nat.le_of_lt inside.1))
      · exact fun other found => clear other (List.mem_cons_of_mem _ found)
      · exact fun run found => each run (List.mem_cons_of_mem _ found)

/-- What was cut up to the end is decomposable. -/
theorem decomposable_of_ok {α : Type} {spacingAt : Nat → Spacing α} {depth : Nat}
    {before after : Progress} {node : Node α}
    (done : partitionRegion spacingAt region members depth before = .ok node after)
    (frames : Frames labels region members) : Decomposable labels region := by
  revert frames
  refine partitionRegion_induction (motive := fun region members _ _ _ _ =>
    Frames labels region members → Decomposable labels region) ?_ ?_ ?_ done
  · intro region depth before frames
    apply Decomposable.empty
    intro label listed
    apply Bool.eq_false_iff.2
    intro contained
    exact List.not_mem_nil (frames.mem_iff.2 ⟨listed, contained⟩)
  · intro region members depth before label nonempty sole frames
    rcases CellRect.eq_singleton_of_soleLabel? sole with ⟨member, rfl, -, rfl⟩
    exact .filled (frames.mem_iff.1 List.mem_cons_self).1
  · intro region members depth before orientation children after cutInto swept frames
    rw [← region.slice_along orientation]
    apply Decomposable.of_runs (region.cutLines_cleanLines orientation members) (Nat.le_refl _)
      (Nat.le_refl _)
    · intro line clean label listed contained
      exact (CellRect.mem_cleanLines.1 clean).2 label (frames.mem_iff.2 ⟨listed, contained⟩)
    · intro run member
      rcases swept.exists_of_mem member with ⟨start, child, stop, decomposes⟩
      exact decomposes (frames.piece member)

/-! ## A decomposition leads to the end -/

/-- A decomposable region is not stuck. -/
theorem Decomposable.not_stuck (decomposable : Decomposable labels region)
    (laidOut : LaidOut labels) (frames : Frames labels region members) :
    ¬ region.Stuck members := by
  rintro ⟨nonempty, several, whole⟩
  cases decomposable with
  | empty free =>
    rcases List.exists_mem_of_ne_nil members nonempty with ⟨member, found⟩
    rcases frames.mem_iff.1 found with ⟨listed, contained⟩
    exact Bool.eq_false_iff.1 (free member listed) contained
  | filled listed =>
    rw [frames.soleLabel? laidOut listed] at several
    cases several
  | cut orientation line inside clear before after =>
    have clean : line ∈ region.cleanLines orientation members := by
      rw [CellRect.mem_cleanLines]
      refine ⟨inside, fun member found => ?_⟩
      rcases frames.mem_iff.1 found with ⟨listed, contained⟩
      exact clear member listed contained
    exact CellRect.direction?_ne_none clean whole

/-- Nor is any region that is reached from it. -/
theorem Decomposable.not_stuck_of_reached (laidOut : LaidOut labels) {other : CellRect}
    {others : List LabelRegion} (reached : Reached region members other others)
    (decomposable : Decomposable labels region) (frames : Frames labels region members) :
    ¬ other.Stuck others := by
  induction reached with
  | here region members => exact decomposable.not_stuck laidOut frames
  | @piece region other members others orientation piece cutInto member deeper ih =>
    have framed := frames.piece member
    exact ih (decomposable.restrict (frames.contains_piece member) framed) framed

/-! ## Whole drawings -/

/-- A drawing has a partition exactly if some order of cuts takes it apart, and
otherwise the partition fails at a region that cannot be cut. -/
theorem partition_ok_iff_decomposable {lines : List (List Char)} {blank : Char} {grid : ArtGrid}
    {settings : Settings} (read : ArtGrid.ofLines lines blank = .ok grid)
    (valid : settings.validate = .ok ()) :
    ((∃ tree, grid.partition settings = .ok tree) ↔ Decomposable grid.labels grid.bounds) ∧
      ∀ fault, grid.partition settings = .error fault →
        ∃ names region, fault = .inseparable names region := by
  have solid := ArtGrid.solid_of_ofLines read
  refine ⟨⟨?_, ?_⟩, ?_⟩
  · rintro ⟨tree, made⟩
    rcases (ArtGrid.partition_ok made).2.2.2 with ⟨after, done⟩
    exact decomposable_of_ok done solid.frames
  · intro decomposable
    cases made : grid.partition settings with
    | ok tree => exact ⟨tree, rfl⟩
    | error fault =>
      rcases ArtGrid.partition_error valid made with ⟨region, members, reached, stuck, -⟩
      exact absurd stuck (decomposable.not_stuck_of_reached solid.laidOut reached solid.frames)
  · intro fault failed
    rcases ArtGrid.partition_error valid failed with ⟨region, members, -, -, same⟩
    exact ⟨_, _, same⟩

/-- A drawing that is cut into rows, columns and rows again. -/
def nested : ArtGrid where
  cells := [[.label 'A', .label 'A', .label 'A'], [.label 'B', .blank, .blank],
    [.label 'B', .label 'C', .label 'D']]
  rows := 3
  cols := 3
  labels := [⟨'A', 0, 0, 0, 2⟩, ⟨'B', 1, 0, 2, 0⟩, ⟨'C', 2, 1, 2, 1⟩, ⟨'D', 2, 2, 2, 2⟩]

theorem partition_ok_iff_decomposable_nested :
    ArtGrid.ofLines [['A', 'A', 'A'], ['B', '.', '.'], ['B', 'C', 'D']] '.' = .ok nested ∧
      Settings.default.validate = .ok () ∧
      ((∃ tree, nested.partition Settings.default = .ok tree) ↔
        Decomposable nested.labels nested.bounds) ∧
      ∀ fault, nested.partition Settings.default = .error fault →
        ∃ names region, fault = .inseparable names region := by
  have read : ArtGrid.ofLines [['A', 'A', 'A'], ['B', '.', '.'], ['B', 'C', 'D']] '.' =
      .ok nested := ArtGrid.ofRows_eq_ok_iff.2 (by decide +kernel)
  have valid : Settings.default.validate = .ok () := by decide +kernel
  exact ⟨read, valid, partition_ok_iff_decomposable read valid⟩

end Mosaic
