import Mosaic.Proofs.Partition.Frames
import Mosaic.Proofs.Redrawing.Lines

/-!
# Regions of a redrawn drawing

Moving the grid lines moves rectangles, and what is inside a rectangle or apart from
it stays so.  The labels of a region are therefore the moved labels of the region it
was.  A line that was clean is clean again where it goes.  A line that is new lies
inside one moved row or column, where some label of the region straddles it.  So both
regions have the same cuts, and they are cut in the same direction or not at all.
-/

namespace Mosaic

/-! ## Rectangles -/

/-- The rectangle over the moved columns and rows. -/
def CellRect.redrawn (change : Orientation → LineMap) (rect : CellRect) : CellRect where
  top := ((change .rows).span (rect.along .rows)).first
  left := ((change .columns).span (rect.along .columns)).first
  bottom := ((change .rows).span (rect.along .rows)).last
  right := ((change .columns).span (rect.along .columns)).last

def LabelRegion.redrawn (change : Orientation → LineMap) (region : LabelRegion) : LabelRegion :=
  ⟨region.label, region.bounds.redrawn change⟩

namespace CellRect

variable {change : Orientation → LineMap} {bounds rect other : CellRect}

theorem along_redrawn (change : Orientation → LineMap) (rect : CellRect)
    (orientation : Orientation) :
    (rect.redrawn change).along orientation =
      (change orientation).span (rect.along orientation) := by
  cases orientation <;> rfl

theorem slice_redrawn (change : Orientation → LineMap) (rect : CellRect) (orientation : Orientation)
    (span : Span) :
    (rect.slice orientation span).redrawn change =
      (rect.redrawn change).slice orientation ((change orientation).span span) := by
  cases orientation <;> rfl

/-- A rectangle is inside another one if it is so in both directions. -/
theorem contains_iff_holds :
    rect.contains other = true ↔
      ∀ orientation, (rect.along orientation).holds (other.along orientation) = true := by
  constructor
  · exact holds_along
  · intro held
    have columns := Span.holds_iff.1 (held .columns)
    have rows := Span.holds_iff.1 (held .rows)
    rw [contains_iff]
    simp only [along] at columns rows
    omega

/-- Rectangles are apart if they are so in one direction. -/
theorem apart_iff_exists :
    rect.Apart other ↔ ∃ orientation,
      (other.along orientation).last < (rect.along orientation).first ∨
        (rect.along orientation).last < (other.along orientation).first := by
  constructor
  · rintro (rows | columns)
    · exact ⟨.rows, rows⟩
    · exact ⟨.columns, columns⟩
  · rintro ⟨orientation, apart⟩
    cases orientation with
    | columns => exact Or.inr apart
    | rows => exact Or.inl apart

/-- A cell is in a rectangle if its column and its row are. -/
theorem containsCell_iff_has {row col : Nat} :
    rect.containsCell row col = true ↔
      (rect.along .rows).Has row ∧ (rect.along .columns).Has col :=
  containsCell_iff

theorem Upright.partOf (upright : rect.Upright) (inside : bounds.contains rect = true)
    (orientation : Orientation) : (rect.along orientation).PartOf (bounds.along orientation) := by
  have held := Span.holds_iff.1 (holds_along inside orientation)
  exact ⟨held.1, upright.along orientation, held.2⟩

section Regular

variable (regular : ∀ orientation, (change orientation).Regular (bounds.along orientation))

include regular

theorem Upright.redrawn (upright : rect.Upright) (inside : bounds.contains rect = true) :
    (rect.redrawn change).Upright :=
  ⟨(regular .rows).proper (upright.partOf inside .rows),
    (regular .columns).proper (upright.partOf inside .columns)⟩

theorem contains_redrawn_iff (upright : rect.Upright) (inside : bounds.contains rect = true)
    (otherUpright : other.Upright) (otherInside : bounds.contains other = true) :
    (rect.redrawn change).contains (other.redrawn change) = true ↔ rect.contains other = true := by
  rw [contains_iff_holds, contains_iff_holds]
  apply forall_congr'
  intro orientation
  rw [along_redrawn, along_redrawn]
  exact (regular orientation).holds_span_iff (upright.partOf inside orientation)
    (otherUpright.partOf otherInside orientation)

theorem apart_redrawn_iff (upright : rect.Upright) (inside : bounds.contains rect = true)
    (otherUpright : other.Upright) (otherInside : bounds.contains other = true) :
    (rect.redrawn change).Apart (other.redrawn change) ↔ rect.Apart other := by
  rw [apart_iff_exists, apart_iff_exists]
  apply exists_congr
  intro orientation
  rw [along_redrawn, along_redrawn]
  exact (regular orientation).apart_span_iff (upright.partOf inside orientation)
    (otherUpright.partOf otherInside orientation)

theorem redrawn_injective (upright : rect.Upright) (inside : bounds.contains rect = true)
    (otherUpright : other.Upright) (otherInside : bounds.contains other = true)
    (same : rect.redrawn change = other.redrawn change) : rect = other := by
  apply contains_antisymm
  · rw [← contains_redrawn_iff regular upright inside otherUpright otherInside, same]
    exact contains_refl _
  · rw [← contains_redrawn_iff regular otherUpright otherInside upright inside, same]
    exact contains_refl _

end Regular
end CellRect

/-! ## Labels -/

/-- Does every region inside `bounds` that no label crosses have a label at each place? -/
def Crowded (labels : List LabelRegion) (bounds : CellRect) (orientation : Orientation) : Prop :=
  ∀ region members, Frames labels region members → bounds.contains region = true →
    ∀ place, (region.along orientation).Has place →
      ∃ member ∈ members, (member.bounds.along orientation).Has place

/-- The labels of a drawing over `bounds`, and the labels of the redrawn one.  Where rows or
columns become longer, no region may have a row or column without a label. -/
structure Redraws (change : Orientation → LineMap) (bounds : CellRect)
    (labels others : List LabelRegion) : Prop where
  regular : ∀ orientation, (change orientation).Regular (bounds.along orientation)
  upright : ∀ label ∈ labels, label.bounds.Upright
  inside : ∀ label ∈ labels, bounds.contains label.bounds = true
  listed : others.Perm (labels.map (LabelRegion.redrawn change))
  crowded : ∀ orientation, (change orientation).scale = 1 ∨ Crowded labels bounds orientation

namespace Redraws

variable {change : Orientation → LineMap} {bounds region : CellRect}
  {labels others members : List LabelRegion} {orientation : Orientation}

theorem contains_iff (redraws : Redraws change bounds labels others)
    (frames : Frames labels region members) (inside : bounds.contains region = true)
    {label : LabelRegion} (listed : label ∈ labels) :
    (region.redrawn change).contains (label.bounds.redrawn change) = true ↔
      region.contains label.bounds = true :=
  CellRect.contains_redrawn_iff redraws.regular frames.upright inside (redraws.upright label listed)
    (redraws.inside label listed)

/-- The labels of a redrawn region are its redrawn labels. -/
theorem perm_membersIn (redraws : Redraws change bounds labels others)
    (frames : Frames labels region members) (inside : bounds.contains region = true) :
    ((region.redrawn change).membersIn others).Perm (members.map (LabelRegion.redrawn change)) := by
  have chosen : (labels.map (LabelRegion.redrawn change)).filter
      (fun member => (region.redrawn change).contains member.bounds) =
        (region.membersIn labels).map (LabelRegion.redrawn change) := by
    rw [List.filter_map]
    congr 1
    apply List.filter_congr
    intro label listed
    rw [Bool.eq_iff_iff]
    exact redraws.contains_iff frames inside listed
  rw [frames.members_eq, ← chosen]
  exact redraws.listed.filter _

theorem mem_membersIn_iff (redraws : Redraws change bounds labels others)
    (frames : Frames labels region members) (inside : bounds.contains region = true)
    {other : LabelRegion} :
    other ∈ (region.redrawn change).membersIn others ↔
      ∃ member ∈ members, member.redrawn change = other := by
  rw [(redraws.perm_membersIn frames inside).mem_iff, List.mem_map]

/-- No label crosses a redrawn region either. -/
theorem frames (redraws : Redraws change bounds labels others)
    (frames : Frames labels region members) (inside : bounds.contains region = true) :
    Frames others (region.redrawn change) ((region.redrawn change).membersIn others) := by
  constructor
  · exact frames.upright.redrawn redraws.regular inside
  · intro other listed
    rcases List.mem_map.1 (redraws.listed.mem_iff.1 listed) with ⟨label, known, rfl⟩
    rcases frames.uncrossed label known with contained | apart
    · exact Or.inl ((redraws.contains_iff frames inside known).2 contained)
    · exact Or.inr ((CellRect.apart_redrawn_iff redraws.regular frames.upright inside
        (redraws.upright label known) (redraws.inside label known)).2 apart)
  · rfl

theorem partOf (redraws : Redraws change bounds labels others)
    (frames : Frames labels region members) {member : LabelRegion} (found : member ∈ members)
    (orientation : Orientation) :
    (member.bounds.along orientation).PartOf (bounds.along orientation) := by
  have listed := (frames.mem_iff.1 found).1
  exact (redraws.upright member listed).partOf (redraws.inside member listed) orientation

/-! ## Cuts -/

/-- A line that is straddled nowhere is a moved line. -/
private theorem exists_line (redraws : Redraws change bounds labels others)
    (frames : Frames labels region members) (inside : bounds.contains region = true) {line : Nat}
    (within : ((change orientation).span (region.along orientation)).straddles line = true)
    (clear : ∀ member ∈ members,
      ((change orientation).span (member.bounds.along orientation)).straddles line = false) :
    ∃ old, (region.along orientation).straddles old = true ∧
      (change orientation).line old = line := by
  have regular := redraws.regular orientation
  have part := frames.upright.partOf inside orientation
  rcases regular.exists_line_or_inside part within with moved | ⟨old, member, straddled⟩
  · exact moved
  · exfalso
    rcases redraws.crowded orientation with exact | crowded
    · rw [regular.not_straddles_single exact
        ⟨part.lower.trans member.1, member.2.trans part.upper⟩] at straddled
      cases straddled
    · -- the label in this row or column straddles the line
      rcases crowded region members frames inside old member with ⟨label, found, has⟩
      have labelPart := redraws.partOf frames found orientation
      have thin : (Span.single old).PartOf (bounds.along orientation) :=
        ⟨labelPart.lower.trans has.1, Nat.le_refl _, has.2.trans labelPart.upper⟩
      have held := (regular.holds_span_iff labelPart thin).2 (Span.holds_iff.2 has)
      rw [Span.holds_iff] at held
      have free := Bool.eq_false_iff.1 (clear label found)
      rw [Span.straddles_iff] at straddled
      rw [Ne, Span.straddles_iff] at free
      omega

/-- The clean lines of a redrawn region are the moved clean lines. -/
theorem mem_cleanLines_iff (redraws : Redraws change bounds labels others)
    (frames : Frames labels region members) (inside : bounds.contains region = true) {line : Nat} :
    line ∈ (region.redrawn change).cleanLines orientation
        ((region.redrawn change).membersIn others) ↔
      ∃ old ∈ region.cleanLines orientation members, (change orientation).line old = line := by
  have regular := redraws.regular orientation
  have part := frames.upright.partOf inside orientation
  have straddles : ∀ {member}, member ∈ members → ∀ {old},
      (region.along orientation).straddles old = true →
      (((change orientation).span (member.bounds.along orientation)).straddles
          ((change orientation).line old) = false ↔
        (member.bounds.along orientation).straddles old = false) := by
    intro member found old within
    rw [Span.straddles_iff] at within
    have lower := part.lower
    have upper := part.upper
    rw [Bool.eq_false_iff, Bool.eq_false_iff, Ne, Ne,
      regular.straddles_line_iff (redraws.partOf frames found orientation) (by omega)]
  have each : (∀ other ∈ (region.redrawn change).membersIn others,
      (other.bounds.along orientation).straddles line = false) ↔ ∀ member ∈ members,
        ((change orientation).span (member.bounds.along orientation)).straddles line = false := by
    simp only [redraws.mem_membersIn_iff frames inside, forall_exists_index, and_imp,
      forall_apply_eq_imp_iff₂, LabelRegion.redrawn, CellRect.along_redrawn]
  rw [CellRect.mem_cleanLines, each, CellRect.along_redrawn, ← Span.straddles_iff]
  constructor
  · rintro ⟨within, clear⟩
    rcases redraws.exists_line frames inside within clear with ⟨old, interior, rfl⟩
    exact ⟨old, CellRect.mem_cleanLines.2 ⟨Span.straddles_iff.1 interior, fun member found =>
      (straddles found interior).1 (clear member found)⟩, rfl⟩
  · rintro ⟨old, clean, rfl⟩
    rcases CellRect.mem_cleanLines.1 clean with ⟨interior, clear⟩
    have within := Span.straddles_iff.2 interior
    have lower := part.lower
    have upper := part.upper
    exact ⟨(regular.straddles_line_iff part (by omega)).2 within,
      fun member found => (straddles found within).2 (clear member found)⟩

theorem cleanLines_eq (redraws : Redraws change bounds labels others)
    (frames : Frames labels region members) (inside : bounds.contains region = true)
    (orientation : Orientation) :
    (region.redrawn change).cleanLines orientation ((region.redrawn change).membersIn others) =
      (change orientation).arrange
        ((region.cleanLines orientation members).map (change orientation).line) := by
  have part := frames.upright.partOf inside orientation
  have cuts := region.cutLines_cleanLines orientation members
  have increasing := (redraws.regular orientation).pairwise_arrange (fun line clean => by
    have within := cuts.inside line clean
    have lower := part.lower
    have upper := part.upper
    omega) cuts.increasing
  have others_increasing := ((region.redrawn change).cutLines_cleanLines orientation
    ((region.redrawn change).membersIn others)).increasing
  apply List.Perm.eq_of_pairwise _ others_increasing increasing
  · rw [List.perm_ext_iff_of_nodup (others_increasing.imp Nat.ne_of_lt)
      (increasing.imp Nat.ne_of_lt)]
    intro line
    rw [redraws.mem_cleanLines_iff frames inside, LineMap.mem_arrange, List.mem_map]
  · exact fun one other _ _ before behind => absurd before (Nat.lt_asymm behind)

/-- The pieces of a redrawn region are the moved pieces, in their new order. -/
theorem pieces_eq (redraws : Redraws change bounds labels others)
    (frames : Frames labels region members) (inside : bounds.contains region = true)
    (orientation : Orientation) :
    (region.redrawn change).pieces orientation ((region.redrawn change).membersIn others) =
      (change orientation).arrange
        ((region.pieces orientation members).map (change orientation).span) := by
  unfold CellRect.pieces
  rw [redraws.cleanLines_eq frames inside, CellRect.along_redrawn]
  exact (change orientation).runsBetween_arrange (region.cutLines_cleanLines orientation members)

theorem length_pieces (redraws : Redraws change bounds labels others)
    (frames : Frames labels region members) (inside : bounds.contains region = true)
    (orientation : Orientation) :
    ((region.redrawn change).pieces orientation ((region.redrawn change).membersIn others)).length =
      (region.pieces orientation members).length := by
  rw [redraws.pieces_eq frames inside, LineMap.length_arrange, List.length_map]

/-- A redrawn region is cut in the same direction. -/
theorem direction?_eq (redraws : Redraws change bounds labels others)
    (frames : Frames labels region members) (inside : bounds.contains region = true) :
    (region.redrawn change).direction? ((region.redrawn change).membersIn others) =
      region.direction? members := by
  unfold CellRect.direction?
  rw [redraws.length_pieces frames inside, redraws.length_pieces frames inside]

/-- It is filled by the label that filled it. -/
theorem soleLabel?_eq (redraws : Redraws change bounds labels others)
    (frames : Frames labels region members) (inside : bounds.contains region = true) :
    (region.redrawn change).soleLabel? ((region.redrawn change).membersIn others) =
      region.soleLabel? members := by
  have same := redraws.perm_membersIn frames inside
  match members with
  | [] => rw [List.perm_nil.1 same]; rfl
  | [only] =>
    have listed := (frames.mem_iff.1 List.mem_cons_self).1
    have fills : only.bounds.redrawn change = region.redrawn change ↔ only.bounds = region :=
      ⟨CellRect.redrawn_injective redraws.regular (redraws.upright only listed)
        (redraws.inside only listed) frames.upright inside, fun equal => equal ▸ rfl⟩
    rw [List.perm_singleton.1 same]
    unfold CellRect.soleLabel? LabelRegion.redrawn
    simp only [fills]
  | one :: other :: more =>
    have count := same.length_eq
    generalize (region.redrawn change).membersIn others = moved at count
    match moved with
    | [] => cases count
    | [only] => simp at count
    | _ :: _ :: _ => rfl

theorem cutInto_iff (redraws : Redraws change bounds labels others)
    (frames : Frames labels region members) (inside : bounds.contains region = true) :
    (region.redrawn change).CutInto ((region.redrawn change).membersIn others) orientation ↔
      region.CutInto members orientation := by
  unfold CellRect.CutInto
  rw [redraws.soleLabel?_eq frames inside, redraws.direction?_eq frames inside, Ne,
    ← List.length_eq_zero_iff, (redraws.perm_membersIn frames inside).length_eq, List.length_map,
    List.length_eq_zero_iff]

theorem stuck_iff (redraws : Redraws change bounds labels others)
    (frames : Frames labels region members) (inside : bounds.contains region = true) :
    (region.redrawn change).Stuck ((region.redrawn change).membersIn others) ↔
      region.Stuck members := by
  unfold CellRect.Stuck
  rw [redraws.soleLabel?_eq frames inside, redraws.direction?_eq frames inside, Ne,
    ← List.length_eq_zero_iff, (redraws.perm_membersIn frames inside).length_eq, List.length_map,
    List.length_eq_zero_iff]

end Redraws
end Mosaic
