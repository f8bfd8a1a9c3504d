import Mathlib.Data.List.Induction
import Mathlib.Data.List.Nodup
import Mosaic.Proofs.CellRect

/-!
# Scanning a drawing for its labels

The cells of a drawing are gone through once, row by row.  After any number of
cells the labels that were met are listed in the order of their first cells, and
the rectangle of each is the least one over its cells so far.  When a rectangle
holds nothing else than its label, its upper left corner is the first cell of the
label.  So the corners of solid labels come in the order of the list, and sorting
by corners changes nothing.
-/

namespace Mosaic

/-- The labels of a drawing, each at its first cell. -/
def labelsOf (cells : List (List Cell)) : List Char :=
  (cells.flatten.filterMap Cell.label?).eraseDups

/-! ## The order of the scan -/

theorem isBefore_iff {place other : Nat × Nat} :
    isBefore place other = true ↔
      place.1 < other.1 ∨ (place.1 = other.1 ∧ place.2 < other.2) := by
  simp [isBefore]

private theorem pairwise_zipIdx {α : Type} (entries : List α) :
    entries.zipIdx.Pairwise fun one other => one.2 < other.2 := by
  have indices : (entries.zipIdx.map Prod.snd).Pairwise (· < ·) := by
    rw [List.zipIdx_map_snd]
    exact List.pairwise_lt_range'
  exact List.pairwise_map.1 indices

private theorem pairwise_labelledColumns (line : List Cell) :
    (labelledColumns line).Pairwise fun one other => one.2 < other.2 := by
  unfold labelledColumns
  refine (pairwise_zipIdx line).filterMap _ ?_
  intro entry other earlier found chosen later selected
  rcases Option.map_eq_some_iff.1 chosen with ⟨name, -, rfl⟩
  rcases Option.map_eq_some_iff.1 selected with ⟨otherName, -, rfl⟩
  exact earlier

theorem pairwise_labelledPlaces (cells : List (List Cell)) :
    (labelledPlaces cells).Pairwise fun one other => isBefore one.2 other.2 = true := by
  unfold labelledPlaces
  rw [List.pairwise_flatMap]
  constructor
  · intro entry member
    rw [List.pairwise_map]
    refine (pairwise_labelledColumns entry.1).imp ?_
    intro one other earlier
    exact isBefore_iff.2 (Or.inr ⟨rfl, earlier⟩)
  · refine (pairwise_zipIdx cells).imp ?_
    intro entry other above one found two selected
    rcases List.mem_map.1 found with ⟨place, -, rfl⟩
    rcases List.mem_map.1 selected with ⟨otherPlace, -, rfl⟩
    exact isBefore_iff.2 (Or.inl above)

private theorem map_fst_labelledColumns (line : List Cell) :
    (labelledColumns line).map Prod.fst = line.filterMap Cell.label? := by
  have names : line.filterMap Cell.label? = (line.zipIdx.map Prod.fst).filterMap Cell.label? := by
    rw [List.zipIdx_map_fst]
  rw [labelledColumns, List.map_filterMap, names, List.filterMap_map]
  congr 1
  funext entry
  change Option.map _ (Option.map _ entry.1.label?) = entry.1.label?
  rw [Option.map_map]
  exact Option.map_id'

theorem map_fst_labelledPlaces (cells : List (List Cell)) :
    (labelledPlaces cells).map Prod.fst = cells.flatten.filterMap Cell.label? := by
  have each : ∀ entry : List Cell × Nat,
      ((labelledColumns entry.1).map fun found => (found.1, (entry.2, found.2))).map Prod.fst =
        entry.1.filterMap Cell.label? := by
    intro entry
    rw [List.map_map, ← map_fst_labelledColumns]
    rfl
  have rows : cells.flatten = cells.zipIdx.flatMap Prod.fst := by
    rw [List.flatMap_def, List.zipIdx_map_fst]
  rw [labelledPlaces, List.map_flatMap, rows, List.filterMap_flatMap]
  exact congrArg (List.flatMap · _) (funext each)

/-! ## First cells -/

theorem nodup_eraseDups {α : Type} [BEq α] [LawfulBEq α] (entries : List α) :
    entries.eraseDups.Nodup := by
  induction count : entries.length using Nat.strongRecOn generalizing entries with
  | ind count ih =>
    cases entries with
    | nil => exact List.nodup_nil
    | cons entry entries =>
      rw [List.eraseDups_cons, List.nodup_cons]
      constructor
      · rw [List.mem_eraseDups, List.mem_filter]
        simp
      · apply ih _ _ _ rfl
        rw [← count, List.length_cons]
        exact Nat.lt_succ_of_le (List.length_filter_le _ _)

/-- One more entry is listed at the end, unless it is listed already. -/
theorem eraseDups_concat {α : Type} [BEq α] [LawfulBEq α] [DecidableEq α] (entries : List α)
    (entry : α) : (entries ++ [entry]).eraseDups =
      if entry ∈ entries then entries.eraseDups else entries.eraseDups ++ [entry] := by
  rw [List.eraseDups_append]
  by_cases known : entry ∈ entries
  · rw [if_pos known]
    simp [List.removeAll, known]
  · rw [if_neg known]
    simp [List.removeAll, known, List.eraseDups_cons]

/-- A cell of one label comes before every cell of another one. -/
def StartsBefore (entries : List (Char × (Nat × Nat))) (label other : Char) : Prop :=
  ∃ place, (label, place) ∈ entries ∧
    ∀ later, (other, later) ∈ entries → isBefore place later = true

/-- Labels in the order of their first cells start one before the other. -/
theorem pairwise_startsBefore {entries : List (Char × (Nat × Nat))}
    (rowwise : entries.Pairwise fun one other => isBefore one.2 other.2 = true) :
    (entries.map Prod.fst).eraseDups.Pairwise (StartsBefore entries) := by
  induction entries using List.reverseRecOn with
  | nil => exact List.Pairwise.nil
  | append_singleton entries entry ih =>
    rcases List.pairwise_append.1 rowwise with ⟨earlier, -, behind⟩
    have last : ∀ one ∈ entries, isBefore one.2 entry.2 = true :=
      fun one member => behind one member entry (List.mem_singleton.2 rfl)
    have kept : (entries.map Prod.fst).eraseDups.Pairwise
        (StartsBefore (entries ++ [entry])) := by
      refine (ih earlier).imp ?_
      rintro label other ⟨place, member, first⟩
      refine ⟨place, List.mem_append_left _ member, ?_⟩
      intro later found
      rcases List.mem_append.1 found with known | new
      · exact first later known
      · rcases List.mem_singleton.1 new with rfl
        exact last _ member
    rw [List.map_append, List.map_singleton, eraseDups_concat]
    split
    · exact kept
    · next new =>
      rw [List.pairwise_append]
      refine ⟨kept, List.pairwise_singleton _ _, ?_⟩
      intro label listed other same
      rw [List.mem_singleton.1 same]
      rcases List.mem_map.1 (List.mem_eraseDups.1 listed) with ⟨one, member, rfl⟩
      refine ⟨one.2, List.mem_append_left _ member, ?_⟩
      intro later found
      rcases List.mem_append.1 found with known | own
      · exact absurd (List.mem_map.2 ⟨_, known, rfl⟩) new
      · have behind := last one member
        rwa [← List.mem_singleton.1 own] at behind

/-! ## Rectangles under way -/

/-- The rectangle is the least one over the cells of its label. -/
structure LabelRegion.Bounds (entries : List (Char × (Nat × Nat))) (region : LabelRegion) :
    Prop where
  holds : ∀ place, (region.label, place) ∈ entries →
    region.bounds.containsCell place.1 place.2 = true
  top : ∃ place, (region.label, place) ∈ entries ∧ place.1 = region.bounds.top
  left : ∃ place, (region.label, place) ∈ entries ∧ place.2 = region.bounds.left
  bottom : ∃ place, (region.label, place) ∈ entries ∧ place.1 = region.bounds.bottom
  right : ∃ place, (region.label, place) ∈ entries ∧ place.2 = region.bounds.right

namespace LabelRegion.Bounds

variable {entries : List (Char × (Nat × Nat))} {region : LabelRegion} {label : Char}
  {place : Nat × Nat}

theorem upright (bounds : region.Bounds entries) : region.bounds.Upright := by
  rcases bounds.top with ⟨place, member, -⟩
  have inside := CellRect.containsCell_iff.1 (bounds.holds place member)
  constructor <;> omega

/-- A cell of another label changes nothing. -/
theorem skip (bounds : region.Bounds entries) (other : region.label ≠ label) :
    region.Bounds (entries ++ [(label, place)]) := by
  have same : ∀ cell, (region.label, cell) ∈ entries ++ [(label, place)] ↔
      (region.label, cell) ∈ entries := by
    intro cell
    simp [other]
  constructor
  · exact fun cell member => bounds.holds cell ((same cell).1 member)
  · simpa only [same] using bounds.top
  · simpa only [same] using bounds.left
  · simpa only [same] using bounds.bottom
  · simpa only [same] using bounds.right

/-- A cell of the label is enclosed. -/
theorem grow (bounds : region.Bounds entries) (own : region.label = label) :
    LabelRegion.Bounds (entries ++ [(label, place)])
      { region with bounds := region.bounds.enclose place } := by
  subst own
  have new : (region.label, place) ∈ entries ++ [(region.label, place)] :=
    List.mem_append_right _ (List.mem_singleton.2 rfl)
  have old : ∀ {cell}, (region.label, cell) ∈ entries →
      (region.label, cell) ∈ entries ++ [(region.label, place)] :=
    fun member => List.mem_append_left _ member
  rcases bounds with ⟨holds, ⟨topmost, topMember, top⟩, ⟨leftmost, leftMember, left⟩,
    ⟨lowest, bottomMember, bottom⟩, ⟨rightmost, rightMember, right⟩⟩
  constructor
  · intro cell member
    rcases List.mem_append.1 member with known | last
    · exact CellRect.containsCell_enclose (holds cell known)
    · rw [(Prod.mk.inj (List.mem_singleton.1 last)).2]
      exact CellRect.containsCell_enclose_self region.bounds place
  · rcases Nat.le_total region.bounds.top place.1 with first | second
    · exact ⟨topmost, old topMember, by simp only [CellRect.enclose]; omega⟩
    · exact ⟨place, new, by simp only [CellRect.enclose]; omega⟩
  · rcases Nat.le_total region.bounds.left place.2 with first | second
    · exact ⟨leftmost, old leftMember, by simp only [CellRect.enclose]; omega⟩
    · exact ⟨place, new, by simp only [CellRect.enclose]; omega⟩
  · rcases Nat.le_total place.1 region.bounds.bottom with first | second
    · exact ⟨lowest, old bottomMember, by simp only [CellRect.enclose]; omega⟩
    · exact ⟨place, new, by simp only [CellRect.enclose]; omega⟩
  · rcases Nat.le_total place.2 region.bounds.right with first | second
    · exact ⟨rightmost, old rightMember, by simp only [CellRect.enclose]; omega⟩
    · exact ⟨place, new, by simp only [CellRect.enclose]; omega⟩

/-- The first cell of a label is its rectangle. -/
theorem single (new : label ∉ entries.map Prod.fst) (place : Nat × Nat) :
    LabelRegion.Bounds (entries ++ [(label, place)]) ⟨label, .single place⟩ := by
  have member : (label, place) ∈ entries ++ [(label, place)] :=
    List.mem_append_right _ (List.mem_singleton.2 rfl)
  constructor
  · intro cell found
    rcases List.mem_append.1 found with known | last
    · exact absurd (List.mem_map.2 ⟨_, known, rfl⟩) new
    · rw [(Prod.mk.inj (List.mem_singleton.1 last)).2, CellRect.containsCell_iff]
      simp only [CellRect.single]
      omega
  · exact ⟨place, member, rfl⟩
  · exact ⟨place, member, rfl⟩
  · exact ⟨place, member, rfl⟩
  · exact ⟨place, member, rfl⟩

end LabelRegion.Bounds

/-! ## One more cell -/

theorem map_label_enterPlace (label : Char) (place : Nat × Nat) (regions : List LabelRegion) :
    (enterPlace label place regions).map LabelRegion.label =
      if label ∈ regions.map LabelRegion.label then regions.map LabelRegion.label
      else regions.map LabelRegion.label ++ [label] := by
  induction regions with
  | nil => rfl
  | cons region regions ih =>
    unfold enterPlace
    by_cases same : region.label = label
    · simp [same]
    · have other : ¬ label = region.label := fun equal => same equal.symm
      rw [if_neg same, List.map_cons, ih, List.map_cons]
      by_cases known : label ∈ regions.map LabelRegion.label
      · rw [if_pos known, if_pos (List.mem_cons_of_mem _ known)]
      · rw [if_neg known, if_neg (List.not_mem_cons_of_ne_of_not_mem other known),
          List.cons_append]

/-- After a cell was entered, a region is a new one, one that has grown, or one of
another label. -/
theorem mem_enterPlace {label : Char} {place : Nat × Nat} {regions : List LabelRegion}
    {region : LabelRegion} (different : (regions.map LabelRegion.label).Nodup)
    (member : region ∈ enterPlace label place regions) :
    (label ∉ regions.map LabelRegion.label ∧ region = ⟨label, .single place⟩) ∨
      (∃ old ∈ regions, old.label = label ∧
        region = { old with bounds := old.bounds.enclose place }) ∨
      (region ∈ regions ∧ region.label ≠ label) := by
  induction regions with
  | nil => exact Or.inl ⟨List.not_mem_nil, List.mem_singleton.1 member⟩
  | cons first regions ih =>
    rw [List.map_cons, List.nodup_cons] at different
    unfold enterPlace at member
    by_cases same : first.label = label
    · rw [if_pos same] at member
      rcases List.mem_cons.1 member with rfl | later
      · exact Or.inr (Or.inl ⟨first, List.mem_cons_self, same, rfl⟩)
      · refine Or.inr (Or.inr ⟨List.mem_cons_of_mem _ later, fun own => different.1 ?_⟩)
        rw [same, ← own]
        exact List.mem_map_of_mem later
    · rw [if_neg same] at member
      rcases List.mem_cons.1 member with rfl | later
      · exact Or.inr (Or.inr ⟨List.mem_cons_self, same⟩)
      · rcases ih different.2 later with ⟨new, rfl⟩ | ⟨old, found, own, rfl⟩ | ⟨found, other⟩
        · refine Or.inl ⟨fun listed => ?_, rfl⟩
          rcases List.mem_cons.1 listed with here | there
          · exact same here.symm
          · exact new there
        · exact Or.inr (Or.inl ⟨old, List.mem_cons_of_mem _ found, own, rfl⟩)
        · exact Or.inr (Or.inr ⟨List.mem_cons_of_mem _ found, other⟩)

/-! ## The whole scan -/

/-- What is known after some cells were entered. -/
structure Scanned (entries : List (Char × (Nat × Nat))) (regions : List LabelRegion) : Prop where
  labels : regions.map LabelRegion.label = (entries.map Prod.fst).eraseDups
  bounds : ∀ region ∈ regions, region.Bounds entries

namespace Scanned

variable {entries : List (Char × (Nat × Nat))} {regions : List LabelRegion}

theorem different (scanned : Scanned entries regions) :
    (regions.map LabelRegion.label).Nodup := by
  rw [scanned.labels]
  exact nodup_eraseDups _

/-- Entering one more cell keeps what is known. -/
theorem enter (scanned : Scanned entries regions) (label : Char) (place : Nat × Nat) :
    Scanned (entries ++ [(label, place)]) (enterPlace label place regions) := by
  have known : label ∈ regions.map LabelRegion.label ↔ label ∈ entries.map Prod.fst := by
    rw [scanned.labels, List.mem_eraseDups]
  constructor
  · rw [map_label_enterPlace, List.map_append, List.map_singleton, eraseDups_concat,
      scanned.labels]
    simp only [List.mem_eraseDups]
  · intro region member
    rcases mem_enterPlace scanned.different member with
      ⟨new, rfl⟩ | ⟨old, found, own, rfl⟩ | ⟨found, other⟩
    · exact .single (mt known.2 new) place
    · exact (scanned.bounds old found).grow own
    · exact (scanned.bounds region found).skip other

theorem foldl (entries : List (Char × (Nat × Nat))) :
    Scanned entries
      (entries.foldl (fun regions entry => enterPlace entry.1 entry.2 regions) []) := by
  induction entries using List.reverseRecOn with
  | nil => exact ⟨rfl, fun _ member => absurd member List.not_mem_nil⟩
  | append_singleton entries entry ih =>
    rw [List.foldl_append]
    exact ih.enter entry.1 entry.2

end Scanned

/-- The scan of a drawing knows its labels and their least rectangles. -/
theorem scanned_regionsMet (cells : List (List Cell)) :
    Scanned (labelledPlaces cells) (regionsMet cells) :=
  .foldl (labelledPlaces cells)

theorem map_label_regionsMet (cells : List (List Cell)) :
    (regionsMet cells).map LabelRegion.label = labelsOf cells := by
  rw [(scanned_regionsMet cells).labels, map_fst_labelledPlaces]
  rfl

/-! ## Solid labels -/

/-- A label has no gap when all cells of its rectangle hold it. -/
theorem firstGap?_eq_none_iff {cells : List (List Cell)} {label : Char} {rect : CellRect}
    (upright : rect.Upright) :
    firstGap? cells label rect = none ↔
      ∀ row col, rect.containsCell row col = true → cellAt? cells row col = some (.label label) := by
  unfold firstGap?
  rw [List.find?_eq_none]
  constructor
  · intro gapless row col inside
    have listed := (CellRect.mem_places upright.rows upright.cols).2 inside
    simpa using gapless (row, col) listed
  · rintro filled ⟨row, col⟩ listed
    simpa using filled row col ((CellRect.mem_places upright.rows upright.cols).1 listed)

theorem checkSolid_eq_ok_iff {cells : List (List Cell)} {regions : List LabelRegion}
    (upright : ∀ region ∈ regions, region.bounds.Upright) :
    checkSolid cells regions = .ok () ↔
      ∀ region ∈ regions, ∀ row col, region.bounds.containsCell row col = true →
        cellAt? cells row col = some (.label region.label) := by
  induction regions with
  | nil => simp [checkSolid]
  | cons region regions ih =>
    rw [List.forall_mem_cons] at upright ⊢
    rw [← ih upright.2, ← firstGap?_eq_none_iff upright.1, checkSolid]
    cases firstGap? cells region.label region.bounds <;> simp

/-- The rectangle of a label that passes the check holds exactly its cells. -/
theorem LabelRegion.Bounds.containsCell_iff {cells : List (List Cell)} {region : LabelRegion}
    (bounds : region.Bounds (labelledPlaces cells))
    (filled : ∀ row col, region.bounds.containsCell row col = true →
      cellAt? cells row col = some (.label region.label)) (row col : Nat) :
    region.bounds.containsCell row col = true ↔
      cellAt? cells row col = some (.label region.label) :=
  ⟨filled row col, fun own => bounds.holds (row, col) (mem_labelledPlaces.2 own)⟩

/-- The corner of a solid label is one of its cells, and comes before every other one. -/
theorem LabelRegion.Bounds.corner_first {cells : List (List Cell)} {region : LabelRegion}
    (bounds : region.Bounds (labelledPlaces cells))
    (filled : ∀ row col, region.bounds.containsCell row col = true →
      cellAt? cells row col = some (.label region.label)) :
    (region.label, region.corner) ∈ labelledPlaces cells ∧
      ∀ place, (region.label, place) ∈ labelledPlaces cells →
        isBefore place region.corner = false := by
  have upright := bounds.upright
  constructor
  · apply mem_labelledPlaces.2
    apply filled
    rw [CellRect.containsCell_iff]
    exact ⟨⟨Nat.le_refl _, upright.rows⟩, Nat.le_refl _, upright.cols⟩
  · intro place member
    have inside := CellRect.containsCell_iff.1 (bounds.holds place member)
    rw [← Bool.not_eq_true, isBefore_iff]
    simp only [corner]
    omega

/-- Solid labels are met in the order of their corners. -/
theorem pairwise_corner {cells : List (List Cell)}
    (filled : ∀ region ∈ regionsMet cells, ∀ row col,
      region.bounds.containsCell row col = true →
        cellAt? cells row col = some (.label region.label)) :
    (regionsMet cells).Pairwise fun one other => isBefore one.corner other.corner = true := by
  have scanned := scanned_regionsMet cells
  have ordered := pairwise_startsBefore (pairwise_labelledPlaces cells)
  rw [← scanned.labels, List.pairwise_map] at ordered
  refine ordered.imp_of_mem ?_
  rintro one other member otherMember ⟨place, own, first⟩
  have start := (scanned.bounds one member).corner_first (filled one member)
  have otherStart := (scanned.bounds other otherMember).corner_first (filled other otherMember)
  have behind := isBefore_iff.1 (first other.corner otherStart.1)
  have least := mt isBefore_iff.2 (Bool.eq_false_iff.1 (start.2 place own))
  rw [isBefore_iff]
  omega

/-! ## Sorting -/

/-- Regions in the order of their corners are left alone. -/
theorem sortByCorner_eq_self {regions : List LabelRegion}
    (ordered : regions.Pairwise fun one other => isBefore one.corner other.corner = true) :
    sortByCorner regions = regions := by
  refine List.mergeSort_of_pairwise (ordered.imp fun {one other} before => ?_)
  rw [isBefore_iff] at before
  rw [Bool.not_eq_true', ← Bool.not_eq_true, isBefore_iff]
  omega

end Mosaic
