import Mosaic.Proofs.Art.Solid
import Mosaic.Proofs.Partition.Cutting
import Mosaic.Proofs.Partition.Runs

/-!
# Regions that no label crosses

While a drawing is cut up, every region keeps two properties.  A label lies
inside it or is apart from it, and the labels handed on with it are the ones
inside, in the order of the drawing.  The whole drawing has them, and every piece
of a region that has them has them again.
-/

namespace Mosaic

/-- Labels over rectangles that share no cell. -/
structure LaidOut (labels : List LabelRegion) : Prop where
  different : labels.Nodup
  upright : ∀ label ∈ labels, label.bounds.Upright
  apart : ∀ label ∈ labels, ∀ other ∈ labels, label ≠ other → label.bounds.Apart other.bounds

/-- No label crosses the region, and its members are the labels inside. -/
structure Frames (labels : List LabelRegion) (region : CellRect) (members : List LabelRegion) :
    Prop where
  upright : region.Upright
  uncrossed : ∀ label ∈ labels, region.contains label.bounds = true ∨ region.Apart label.bounds
  members_eq : members = region.membersIn labels

/-- Does a label inside the region lie on both sides of a line? -/
def CellRect.Straddled (labels : List LabelRegion) (region : CellRect) (orientation : Orientation)
    (line : Nat) : Prop :=
  ∃ label ∈ labels, region.contains label.bounds = true ∧
    (label.bounds.along orientation).straddles line = true

namespace Frames

variable {labels members : List LabelRegion} {region : CellRect} {orientation : Orientation}

theorem mem_iff (frames : Frames labels region members) {label : LabelRegion} :
    label ∈ members ↔ label ∈ labels ∧ region.contains label.bounds = true := by
  rw [frames.members_eq]
  exact List.mem_filter

theorem mem_map_label_iff (frames : Frames labels region members) {name : Char} :
    name ∈ members.map LabelRegion.label ↔
      ∃ label ∈ labels, region.contains label.bounds = true ∧ label.label = name := by
  rw [List.mem_map]
  apply exists_congr
  intro label
  rw [frames.mem_iff, and_assoc]

theorem straddled_iff (frames : Frames labels region members) {line : Nat} :
    region.Straddled labels orientation line ↔
      ∃ member ∈ members, (member.bounds.along orientation).straddles line = true := by
  constructor
  · rintro ⟨label, listed, inside, straddles⟩
    exact ⟨label, frames.mem_iff.2 ⟨listed, inside⟩, straddles⟩
  · rintro ⟨member, found, straddles⟩
    rcases frames.mem_iff.1 found with ⟨listed, inside⟩
    exact ⟨member, listed, inside, straddles⟩

/-- The clean lines of a region are the ones inside that no label inside straddles. -/
theorem mem_cleanLines_iff (frames : Frames labels region members) {line : Nat} :
    line ∈ region.cleanLines orientation members ↔
      (region.along orientation).straddles line = true ∧
        ¬ region.Straddled labels orientation line := by
  rw [CellRect.mem_cleanLines, frames.straddled_iff, Span.straddles_iff, not_exists]
  apply and_congr_right
  intro inside
  apply forall_congr'
  intro member
  rw [not_and, Bool.not_eq_true]

theorem nodup (frames : Frames labels region members) (laidOut : LaidOut labels) :
    members.Nodup := by
  rw [frames.members_eq]
  exact laidOut.different.filter _

/-- A slice inside the region that no member crosses is framed again. -/
theorem slice (frames : Frames labels region members) {span : Span}
    (lower : (region.along orientation).first ≤ span.first) (proper : span.first ≤ span.last)
    (upper : span.last ≤ (region.along orientation).last)
    (clear : ∀ member ∈ members, span.holds (member.bounds.along orientation) = true ∨
      (member.bounds.along orientation).last < span.first ∨
        span.last < (member.bounds.along orientation).first) :
    Frames labels (region.slice orientation span)
      ((region.slice orientation span).membersIn members) := by
  have inside : region.contains (region.slice orientation span) = true :=
    CellRect.contains_slice lower upper
  constructor
  · exact frames.upright.slice proper
  · intro label listed
    rcases frames.uncrossed label listed with contained | apart
    · rcases clear label (frames.mem_iff.2 ⟨listed, contained⟩) with held | beside
      · exact Or.inl ((CellRect.slice_contains_iff contained).2 held)
      · exact Or.inr (CellRect.slice_apart beside)
    · exact Or.inr (apart.of_contains inside)
  · rw [frames.members_eq]
    unfold CellRect.membersIn
    rw [List.filter_filter]
    apply List.filter_congr
    intro label listed
    rw [Bool.and_eq_left_iff_imp]
    intro contained
    exact CellRect.contains_trans inside contained

/-- Runs between lines that no member straddles give slices that are framed again. -/
theorem run (frames : Frames labels region members) {lines : List Nat}
    (cuts : CutLines (region.along orientation).first (region.along orientation).last lines)
    (clear : ∀ line ∈ lines, ∀ member ∈ members,
      (member.bounds.along orientation).straddles line = false) {span : Span}
    (member : span ∈ runsBetween (region.along orientation).first lines
      (region.along orientation).last) :
    Frames labels (region.slice orientation span)
      ((region.slice orientation span).membersIn members) := by
  have whole := frames.upright.along orientation
  rcases cuts.run_spec whole span member with ⟨lower, ordered, upper, -, -⟩
  apply frames.slice lower ordered upper
  intro label found
  have within := CellRect.holds_along (frames.mem_iff.1 found).2 orientation
  rw [Span.holds_iff] at within
  exact cuts.holds_or_apart whole within.1 within.2 (fun line listed => clear line listed label found)
    member

/-- So every piece of a region is framed. -/
theorem piece (frames : Frames labels region members) {span : Span}
    (member : span ∈ region.pieces orientation members) :
    Frames labels (region.slice orientation span)
      ((region.slice orientation span).membersIn members) :=
  frames.run (region.cutLines_cleanLines orientation members)
    (fun _ clean => (CellRect.mem_cleanLines.1 clean).2) member

/-- A piece lies in its region. -/
theorem contains_piece (frames : Frames labels region members) {span : Span}
    (member : span ∈ region.pieces orientation members) :
    region.contains (region.slice orientation span) = true := by
  have cuts := region.cutLines_cleanLines orientation members
  rcases cuts.run_spec (frames.upright.along orientation) span member with ⟨lower, -, upper, -, -⟩
  exact CellRect.contains_slice lower upper

/-- So is every region that is reached. -/
theorem reached (frames : Frames labels region members) {other : CellRect}
    {others : List LabelRegion} (reached : Reached region members other others) :
    Frames labels other others := by
  induction reached with
  | here region members => exact frames
  | piece cutInto member deeper ih => exact ih (frames.piece member)

theorem contains_reached (frames : Frames labels region members) {other : CellRect}
    {others : List LabelRegion} (reached : Reached region members other others) :
    region.contains other = true := by
  induction reached with
  | here region members => exact CellRect.contains_refl region
  | piece cutInto member deeper ih =>
    exact CellRect.contains_trans (frames.contains_piece member) (ih (frames.piece member))

/-- A rectangle that a label fills has no other label inside. -/
theorem soleLabel? {label : LabelRegion} (frames : Frames labels label.bounds members)
    (laidOut : LaidOut labels) (listed : label ∈ labels) :
    label.bounds.soleLabel? members = some label.label := by
  have only : ∀ member ∈ members, member = label := by
    intro member found
    rcases frames.mem_iff.1 found with ⟨known, contained⟩
    by_contra different
    have apart := (laidOut.apart member known label listed different).symm
    exact CellRect.not_apart_of_contains (laidOut.upright member known) contained apart
  have whole : members = [label] := by
    apply List.perm_singleton.1
    rw [List.perm_ext_iff_of_nodup (frames.nodup laidOut) (List.nodup_singleton label)]
    intro member
    rw [List.mem_singleton]
    constructor
    · exact only member
    · rintro rfl
      exact frames.mem_iff.2 ⟨listed, CellRect.contains_refl _⟩
  rw [whole, CellRect.soleLabel?, if_pos rfl]

end Frames

namespace ArtGrid.Solid

variable {grid : ArtGrid}

theorem laidOut (solid : grid.Solid) : LaidOut grid.labels := by
  constructor
  · exact List.Nodup.of_map _ solid.different
  · exact solid.upright
  · exact fun label listed other known different => solid.apart listed known different

/-- The rectangle of a whole drawing is framed by all its labels. -/
theorem frames (solid : grid.Solid) : Frames grid.labels grid.bounds grid.labels := by
  constructor
  · exact solid.bounds_upright
  · exact fun label listed => Or.inl (solid.bounds_contains listed)
  · exact (List.filter_eq_self.2 fun label listed => solid.bounds_contains listed).symm

end ArtGrid.Solid
end Mosaic
