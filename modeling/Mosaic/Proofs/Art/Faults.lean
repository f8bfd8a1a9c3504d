import Mosaic.Proofs.Art.Acceptance

/-!
# Which fault is reported

Lines can have several defects at once.  The checks are made one after the other, each over
the whole drawing, and the first one that finds something ends the reading.  What it reports
is the first place of its kind: row by row for glyphs, and for labels first the label that
appears first among the broken ones, and then the first cell that breaks it.  So the fault
is determined by the glyphs, and it is described here without the scan that finds it.
-/

namespace Mosaic

/-! ## First entries and first places -/

/-- The first entry of a list with some property. -/
structure IsFirstEntry {α : Type} (wanted : α → Prop) (entries : List α) (index : Nat) (entry : α) :
    Prop where
  found : entries[index]? = some entry
  holds : wanted entry
  earlier : ∀ before < index, ∀ other, entries[before]? = some other → ¬ wanted other

namespace IsFirstEntry

variable {α : Type} {wanted : α → Prop} {entries : List α} {index : Nat} {entry other : α}

theorem head (own : wanted entry) : IsFirstEntry wanted (entry :: entries) 0 entry :=
  ⟨rfl, own, fun _ before => absurd before (Nat.not_lt_zero _)⟩

theorem cons (skipped : ¬ wanted other) (later : IsFirstEntry wanted entries index entry) :
    IsFirstEntry wanted (other :: entries) (index + 1) entry := by
  refine ⟨later.found, later.holds, ?_⟩
  intro before early earlier found
  cases before with
  | zero =>
    cases found
    exact skipped
  | succ before => exact later.earlier before (Nat.lt_of_succ_lt_succ early) earlier found

theorem unique {otherIndex : Nat} (first : IsFirstEntry wanted entries index entry)
    (second : IsFirstEntry wanted entries otherIndex other) : index = otherIndex ∧ entry = other := by
  rcases Nat.lt_trichotomy index otherIndex with before | rfl | behind
  · exact absurd first.holds (second.earlier index before entry first.found)
  · exact ⟨rfl, Option.some.inj (first.found.symm.trans second.found)⟩
  · exact absurd second.holds (first.earlier otherIndex behind other second.found)

end IsFirstEntry

/-- Is a place met before another one, row by row? -/
def Precedes (row col otherRow otherCol : Nat) : Prop :=
  row < otherRow ∨ (row = otherRow ∧ col < otherCol)

/-- The first place, row by row, with some property. -/
structure IsFirstPlace (wanted : Nat → Nat → Prop) (row col : Nat) : Prop where
  holds : wanted row col
  earlier : ∀ otherRow otherCol, Precedes otherRow otherCol row col → ¬ wanted otherRow otherCol

theorem IsFirstPlace.unique {wanted : Nat → Nat → Prop} {row col otherRow otherCol : Nat}
    (first : IsFirstPlace wanted row col) (second : IsFirstPlace wanted otherRow otherCol) :
    row = otherRow ∧ col = otherCol := by
  have notBefore : ¬ Precedes row col otherRow otherCol :=
    fun before => second.earlier _ _ before first.holds
  have notBehind : ¬ Precedes otherRow otherCol row col :=
    fun behind => first.earlier _ _ behind second.holds
  unfold Precedes at notBefore notBehind
  omega

/-- The first glyph of the first row with such glyphs is the first one row by row. -/
theorem IsFirstEntry.isFirstPlace {wanted : Char → Prop} {rows : List (List Char)} {row col : Nat}
    {line : List Char} {glyph : Char}
    (above : IsFirstEntry (fun line => ∃ glyph ∈ line, wanted glyph) rows row line)
    (own : IsFirstEntry wanted line col glyph) :
    IsFirstPlace (fun row col => ∃ glyph, glyphAt? rows row col = some glyph ∧ wanted glyph)
      row col := by
  refine ⟨⟨glyph, Option.bind_eq_some_iff.2 ⟨line, above.found, own.found⟩, own.holds⟩, ?_⟩
  rintro otherRow otherCol before ⟨other, shown, held⟩
  rcases Option.bind_eq_some_iff.1 shown with ⟨across, listed, member⟩
  rcases before with higher | ⟨rfl, nearer⟩
  · exact above.earlier _ higher across listed ⟨other, List.mem_of_getElem? member, held⟩
  · cases listed.symm.trans above.found
    exact own.earlier _ nearer other member held

/-! ## Defects -/

/-- Is the glyph neither the blank mark nor a letter or number over one column? -/
def IsStray (blank glyph : Char) : Prop :=
  ¬ (glyph = blank ∨ (Unicode.isAlphanumeric glyph = true ∧ Unicode.displayWidth glyph = 1))

/-- Does a place in the bounding box of a label show another glyph? -/
def Breaks (rows : List (List Char)) (label : Char) (row col : Nat) : Prop :=
  InExtent rows label row col ∧ ∃ glyph, glyphAt? rows row col = some glyph ∧ glyph ≠ label

/-- Does a label appear before another one? -/
def AppearsBefore (rows : List (List Char)) (label other : Char) : Prop :=
  ∃ row col, glyphAt? rows row col = some label ∧ ∀ otherRow otherCol,
    glyphAt? rows otherRow otherCol = some other → Precedes row col otherRow otherCol

/-- What the checks find, numbered in the order of the checks. -/
inductive Defect (rows : List (List Char)) (blank : Char) : Nat → Fault → Prop
  | noLines (none : rows = []) : Defect rows blank 0 .emptyArt
  /-- The lengths are compared with that of the first line. -/
  | ragged {first row : List Char} {line : Nat} (start : rows[0]? = some first)
      (uneven : IsFirstEntry (fun row => row.length ≠ first.length) rows line row) :
      Defect rows blank 1 (.ragged line first.length row.length)
  | noColumns (start : rows[0]? = some []) : Defect rows blank 2 .emptyArt
  | stray {glyph : Char} {row col : Nat} (shown : glyphAt? rows row col = some glyph)
      (place : IsFirstPlace
        (fun row col => ∃ glyph, glyphAt? rows row col = some glyph ∧ IsStray blank glyph) row col) :
      Defect rows blank 3 (.invalidGlyph glyph row col)
  | broken {label : Char} {row col : Nat} (named : label ≠ blank)
      (first : ∀ other, other ≠ blank → other ≠ label → (∃ row col, Breaks rows other row col) →
        AppearsBefore rows label other)
      (place : IsFirstPlace (Breaks rows label) row col) :
      Defect rows blank 4 (.notSolid label row col)
  | noLabels (all : ∀ row ∈ rows, ∀ glyph ∈ row, glyph = blank) : Defect rows blank 5 .emptyArt

/-- The first checks, up to this number of them, find nothing. -/
def PassesChecks (rows : List (List Char)) (blank : Char) (count : Nat) : Prop :=
  ∀ check < count, ∀ fault, ¬ Defect rows blank check fault

/-- The fault is that of the first check that finds something. -/
def IsFirstDefect (rows : List (List Char)) (blank : Char) (fault : Fault) : Prop :=
  ∃ check, Defect rows blank check fault ∧ PassesChecks rows blank check

section Defects

variable {rows : List (List Char)} {blank : Char} {check : Nat} {fault other : Fault}

/-- Two labels do not both appear before the other. -/
theorem AppearsBefore.asymm {label other : Char} (first : AppearsBefore rows label other) :
    ¬ AppearsBefore rows other label := by
  rintro ⟨otherRow, otherCol, second, before⟩
  rcases first with ⟨row, col, shown, behind⟩
  have one := behind _ _ second
  have two := before _ _ shown
  unfold Precedes at one two
  omega

/-- Each check finds at most one defect. -/
theorem Defect.unique (first : Defect rows blank check fault)
    (second : Defect rows blank check other) : fault = other := by
  cases first with
  | noLines none => cases second; rfl
  | noColumns start => cases second; rfl
  | noLabels all => cases second; rfl
  | ragged start uneven =>
    cases second with
    | ragged otherStart otherUneven =>
      cases start.symm.trans otherStart
      rcases uneven.unique otherUneven with ⟨rfl, rfl⟩
      rfl
  | stray shown place =>
    cases second with
    | stray otherShown otherPlace =>
      rcases place.unique otherPlace with ⟨rfl, rfl⟩
      cases shown.symm.trans otherShown
      rfl
  | @broken label row col named first place =>
    cases second with
    | @broken otherLabel otherRow otherCol otherNamed otherFirst otherPlace =>
      by_cases same : label = otherLabel
      · subst same
        rcases place.unique otherPlace with ⟨rfl, rfl⟩
        rfl
      · have before := first otherLabel otherNamed (Ne.symm same) ⟨_, _, otherPlace.holds⟩
        have behind := otherFirst label named same ⟨_, _, place.holds⟩
        exact absurd behind before.asymm

theorem IsFirstDefect.unique (first : IsFirstDefect rows blank fault)
    (second : IsFirstDefect rows blank other) : fault = other := by
  rcases first with ⟨check, found, earlier⟩
  rcases second with ⟨otherCheck, otherFound, otherEarlier⟩
  rcases Nat.lt_trichotomy check otherCheck with before | rfl | behind
  · exact absurd found (otherEarlier check before fault)
  · exact found.unique otherFound
  · exact absurd otherFound (earlier otherCheck behind other)

theorem passesChecks_zero (rows : List (List Char)) (blank : Char) : PassesChecks rows blank 0 :=
  fun _ early => absurd early (Nat.not_lt_zero _)

theorem PassesChecks.next (passes : PassesChecks rows blank check)
    (clear : ∀ fault, ¬ Defect rows blank check fault) : PassesChecks rows blank (check + 1) := by
  intro earlier early
  rcases Nat.lt_succ_iff_lt_or_eq.1 early with before | rfl
  · exact passes earlier before
  · exact clear

theorem not_ragged {cols : Nat} (even : ∀ row ∈ rows, row.length = cols) (fault : Fault) :
    ¬ Defect rows blank 1 fault := by
  rintro ⟨⟩
  next start uneven =>
    apply uneven.holds
    rw [even _ (List.mem_of_getElem? uneven.found), even _ (List.mem_of_getElem? start)]

theorem not_stray (known : ∀ row ∈ rows, ∀ glyph ∈ row, ¬ IsStray blank glyph) (fault : Fault) :
    ¬ Defect rows blank 3 fault := by
  rintro ⟨⟩
  next shown place =>
    rcases place.holds with ⟨glyph, found, stray⟩
    rcases exists_glyphAt?_iff.1 ⟨_, _, found⟩ with ⟨row, listed, member⟩
    exact known row listed glyph member stray

/-- Rows that can be drawn have no defect. -/
theorem IsDrawable.not_defect (drawable : IsDrawable rows blank) : ¬ Defect rows blank check fault := by
  rcases drawable.even with ⟨cols, wide, even⟩
  intro defect
  have found := defect
  cases found with
  | noLines none => exact drawable.high none
  | ragged start uneven => exact not_ragged even _ defect
  | noColumns start =>
    rw [← even _ (List.mem_of_getElem? start)] at wide
    exact Nat.lt_irrefl 0 wide
  | stray shown place =>
    exact not_stray (fun row listed glyph member => not_not_intro
      (drawable.known row listed glyph member)) _ defect
  | @broken label row col named first place =>
    rcases place.holds with ⟨inside, glyph, shown, different⟩
    exact different (Option.some.inj (shown.symm.trans (drawable.solid label named row col inside)))
  | noLabels all =>
    rcases drawable.labelled with ⟨row, listed, glyph, member, different⟩
    exact different (all row listed glyph member)

end Defects

/-! ## The checks -/

/-- The first line of another length is reported. -/
theorem exists_uneven_of_firstRagged? {expected start : Nat} {rows : List (List Char)}
    {fault : Fault} (found : firstRagged? expected start rows = some fault) :
    ∃ line row, IsFirstEntry (fun row => row.length ≠ expected) rows line row ∧
      fault = .ragged (start + line) expected row.length := by
  induction rows generalizing start with
  | nil => cases found
  | cons row rows ih =>
    rw [firstRagged?] at found
    by_cases same : row.length = expected
    · rw [if_pos same] at found
      rcases ih found with ⟨line, other, first, rfl⟩
      refine ⟨line + 1, other, first.cons (not_not_intro same), ?_⟩
      rw [Nat.add_assoc, Nat.add_comm 1 line]
    · rw [if_neg same] at found
      cases found
      exact ⟨0, row, .head same, rfl⟩

theorem not_isStray_iff {blank glyph : Char} :
    ¬ IsStray blank glyph ↔ (glyph ≠ blank → isLabelGlyph glyph = true) := by
  rw [IsStray, Classical.not_not, isLabelGlyph_of_ne_iff]

theorem isStray_of_cellOfGlyph {blank glyph : Char} {row col : Nat} {fault : Fault}
    (refused : cellOfGlyph blank glyph row col = .error fault) :
    IsStray blank glyph ∧ fault = .invalidGlyph glyph row col := by
  constructor
  · by_contra known
    rw [cellOfGlyph_eq_ok_iff.2 ⟨rfl, not_isStray_iff.1 known⟩] at refused
    cases refused
  · unfold cellOfGlyph at refused
    split at refused
    · cases refused
    · split at refused <;> cases refused
      rfl

theorem exists_stray_of_cellsOfRow {blank : Char} {row start : Nat} {glyphs : List Char}
    {fault : Fault} (refused : cellsOfRow blank row start glyphs = .error fault) :
    ∃ col glyph, IsFirstEntry (IsStray blank) glyphs col glyph ∧
      fault = .invalidGlyph glyph row (start + col) := by
  induction glyphs generalizing start with
  | nil => cases refused
  | cons glyph glyphs ih =>
    rw [cellsOfRow] at refused
    cases here : cellOfGlyph blank glyph row start with
    | error cause =>
      rw [here] at refused
      cases refused
      rcases isStray_of_cellOfGlyph here with ⟨stray, rfl⟩
      exact ⟨0, glyph, .head stray, rfl⟩
    | ok cell =>
      rw [here] at refused
      cases later : cellsOfRow blank row (start + 1) glyphs with
      | ok rest =>
        rw [later] at refused
        cases refused
      | error cause =>
        rw [later] at refused
        cases refused
        have known := not_isStray_iff.2 (cellOfGlyph_eq_ok_iff.1 here).2
        rcases ih later with ⟨col, other, first, rfl⟩
        refine ⟨col + 1, other, first.cons known, ?_⟩
        rw [Nat.add_assoc, Nat.add_comm 1 col]

theorem exists_stray_of_cellsOfRows {blank : Char} {start : Nat} {rows : List (List Char)}
    {fault : Fault} (refused : cellsOfRows blank start rows = .error fault) :
    ∃ row col line glyph,
      IsFirstEntry (fun line => ∃ glyph ∈ line, IsStray blank glyph) rows row line ∧
        IsFirstEntry (IsStray blank) line col glyph ∧
          fault = .invalidGlyph glyph (start + row) col := by
  induction rows generalizing start with
  | nil => cases refused
  | cons line rows ih =>
    rw [cellsOfRows] at refused
    cases here : cellsOfRow blank start 0 line with
    | error cause =>
      rw [here] at refused
      cases refused
      rcases exists_stray_of_cellsOfRow here with ⟨col, glyph, first, rfl⟩
      rw [Nat.zero_add]
      exact ⟨0, col, line, glyph,
        .head ⟨glyph, List.mem_of_getElem? first.found, first.holds⟩, first, rfl⟩
    | ok across =>
      rw [here] at refused
      cases later : cellsOfRows blank (start + 1) rows with
      | ok rest =>
        rw [later] at refused
        cases refused
      | error cause =>
        rw [later] at refused
        cases refused
        have known : ¬ ∃ glyph ∈ line, IsStray blank glyph := by
          rintro ⟨glyph, member, stray⟩
          exact not_isStray_iff.2 ((cellsOfRow_eq_ok_iff.1 here).2 glyph member) stray
        rcases ih later with ⟨row, col, other, glyph, first, own, rfl⟩
        refine ⟨row + 1, col, other, glyph, first.cons known, own, ?_⟩
        rw [Nat.add_assoc, Nat.add_comm 1 row]

/-- The first label with a gap is reported, at its first gap. -/
theorem exists_gap_of_checkSolid {cells : List (List Cell)} {regions : List LabelRegion}
    {fault : Fault} (refused : checkSolid cells regions = .error fault) :
    ∃ front region back place, regions = front ++ region :: back ∧
      (∀ other ∈ front, firstGap? cells other.label other.bounds = none) ∧
        firstGap? cells region.label region.bounds = some place ∧
          fault = .notSolid region.label place.1 place.2 := by
  induction regions with
  | nil => cases refused
  | cons region regions ih =>
    rw [checkSolid] at refused
    cases gap : firstGap? cells region.label region.bounds with
    | some place =>
      rw [gap] at refused
      cases refused
      exact ⟨[], region, regions, place, rfl, fun _ none => absurd none List.not_mem_nil, gap, rfl⟩
    | none =>
      rw [gap] at refused
      rcases ih refused with ⟨front, other, back, place, rfl, gapless, found, rfl⟩
      exact ⟨region :: front, other, back, place, rfl, List.forall_mem_cons.2 ⟨gap, gapless⟩, found,
        rfl⟩

/-- The cells of a rectangle are listed row by row. -/
theorem CellRect.pairwise_places (rect : CellRect) :
    rect.places.Pairwise fun one other => Precedes one.1 one.2 other.1 other.2 := by
  unfold places
  rw [List.pairwise_flatMap]
  constructor
  · intro row member
    rw [List.pairwise_map]
    have along : (List.range' rect.left rect.width).Pairwise (· < ·) := List.pairwise_lt_range'
    exact along.imp fun nearer => Or.inr ⟨rfl, nearer⟩
  · have down : (List.range' rect.top rect.height).Pairwise (· < ·) := List.pairwise_lt_range'
    refine down.imp ?_
    intro row otherRow higher one found other selected
    rcases List.mem_map.1 found with ⟨col, -, rfl⟩
    rcases List.mem_map.1 selected with ⟨otherCol, -, rfl⟩
    exact Or.inl higher

/-- The first gap is the first place of the rectangle that does not hold the label. -/
theorem isFirstPlace_of_firstGap? {cells : List (List Cell)} {label : Char} {rect : CellRect}
    (upright : rect.Upright) {place : Nat × Nat} (found : firstGap? cells label rect = some place) :
    IsFirstPlace (fun row col => rect.containsCell row col = true ∧
      cellAt? cells row col ≠ some (.label label)) place.1 place.2 := by
  rcases List.find?_eq_some_iff_append.1 found with ⟨gap, front, back, split, gapless⟩
  have listed : ∀ {row col}, rect.containsCell row col = true ↔ (row, col) ∈ front ++ place :: back :=
    fun {row col} => split ▸ (CellRect.mem_places upright.rows upright.cols).symm
  have ordered := rect.pairwise_places
  rw [split, List.pairwise_append] at ordered
  have later := (List.pairwise_cons.1 ordered.2.1).1
  refine ⟨⟨listed.2 (List.mem_append_right _ List.mem_cons_self), of_decide_eq_true gap⟩, ?_⟩
  rintro row col before ⟨inside, other⟩
  rcases List.mem_append.1 (listed.1 inside) with early | late
  · have held := gapless _ early
    simp [other] at held
  · rcases List.mem_cons.1 late with rfl | behind
    · unfold Precedes at before
      omega
    · have reversed := later _ behind
      unfold Precedes at before reversed
      omega

/-! ## Broken labels -/

section Labels

variable {rows : List (List Char)} {blank : Char}

/-- The bounding box of a label lies in rows of one length. -/
theorem InExtent.exists_glyph {label : Char} {row col cols : Nat} (inside : InExtent rows label row col)
    (even : ∀ line ∈ rows, line.length = cols) : ∃ glyph, glyphAt? rows row col = some glyph := by
  rcases inside.below with ⟨lower, _, low, down⟩
  rcases inside.behind with ⟨_, right, far, along⟩
  rcases Option.bind_eq_some_iff.1 low with ⟨lowest, listed, -⟩
  rcases Option.bind_eq_some_iff.1 far with ⟨line, shown, member⟩
  have high := (List.getElem?_eq_some_iff.1 listed).1
  have wide := (List.getElem?_eq_some_iff.1 member).1
  rw [even line (List.mem_of_getElem? shown)] at wide
  have here : row < rows.length := by omega
  have across : col < rows[row].length := by
    rw [even _ (List.getElem_mem here)]
    omega
  exact ⟨_, Option.bind_eq_some_iff.2
    ⟨_, List.getElem?_eq_getElem here, List.getElem?_eq_getElem across⟩⟩

/-- A label is broken where its rectangle has other cells. -/
theorem LabelRegion.Bounds.breaks_iff {region : LabelRegion} {cols : Nat}
    (bounds : region.Bounds (labelledPlaces (rows.map (·.map (cellOf blank)))))
    (even : ∀ line ∈ rows, line.length = cols) {row col : Nat} :
    Breaks rows region.label row col ↔ region.bounds.containsCell row col = true ∧
      cellAt? (rows.map (·.map (cellOf blank))) row col ≠ some (.label region.label) := by
  rcases bounds.top with ⟨⟨upper, left⟩, topmost, -⟩
  have named := (mem_labelledPlaces_cellOf.1 topmost).2
  rw [bounds.containsCell_iff_inExtent]
  apply and_congr_right
  intro inside
  rcases inside.exists_glyph even with ⟨glyph, shown⟩
  have cell : cellAt? (rows.map (·.map (cellOf blank))) row col = some (.label region.label) ↔
      glyph = region.label := by
    rw [← mem_labelledPlaces, mem_labelledPlaces_cellOf, shown, Option.some.injEq]
    exact and_iff_left named
  rw [Ne, cell]
  constructor
  · rintro ⟨other, found, different⟩
    cases shown.symm.trans found
    exact different
  · exact fun different => ⟨glyph, shown, different⟩

/-- A label that is broken somewhere is one of those that were met. -/
theorem exists_region_of_breaks {label : Char} (named : label ≠ blank) {row col : Nat}
    (breaks : Breaks rows label row col) :
    ∃ region ∈ regionsMet (rows.map (·.map (cellOf blank))), region.label = label := by
  rcases breaks.1.above with ⟨upper, left, shown, -⟩
  have listed := mem_labelledPlaces.1 (mem_labelledPlaces_cellOf.2 ⟨shown, named⟩)
  have member := mem_labelsOf listed
  rw [← map_label_regionsMet] at member
  exact List.mem_map.1 member

/-- Labels are listed in the order in which they appear. -/
theorem pairwise_appearsBefore (rows : List (List Char)) (blank : Char) :
    (regionsMet (rows.map (·.map (cellOf blank)))).Pairwise fun one other =>
      other.label ≠ blank → AppearsBefore rows one.label other.label := by
  have ordered := pairwise_startsBefore
    (pairwise_labelledPlaces (rows.map (·.map (cellOf blank))))
  rw [← (scanned_regionsMet _).labels, List.pairwise_map] at ordered
  refine ordered.imp ?_
  rintro one other ⟨⟨row, col⟩, shown, first⟩ named
  refine ⟨row, col, (mem_labelledPlaces_cellOf.1 shown).1, ?_⟩
  intro otherRow otherCol found
  exact isBefore_iff.1 (first (otherRow, otherCol) (mem_labelledPlaces_cellOf.2 ⟨found, named⟩))

/-- The label that is refused is the first broken one. -/
theorem defect_of_checkSolid {cols : Nat} (even : ∀ line ∈ rows, line.length = cols) {fault : Fault}
    (refused : checkSolid (rows.map (·.map (cellOf blank)))
      (regionsMet (rows.map (·.map (cellOf blank)))) = .error fault) :
    Defect rows blank 4 fault := by
  rcases exists_gap_of_checkSolid refused with ⟨front, region, back, place, split, gapless, gap, rfl⟩
  have bounds : ∀ {other}, other ∈ front ++ region :: back →
      other.Bounds (labelledPlaces (rows.map (·.map (cellOf blank)))) :=
    fun member => (scanned_regionsMet _).bounds _ (split ▸ member)
  have own := bounds (List.mem_append_right _ List.mem_cons_self)
  have ordered := pairwise_appearsBefore rows blank
  rw [split, List.pairwise_append] at ordered
  have later := (List.pairwise_cons.1 ordered.2.1).1
  have first := isFirstPlace_of_firstGap? own.upright gap
  refine .broken ?_ ?_ ?_
  · rcases own.top with ⟨⟨upper, left⟩, topmost, -⟩
    exact (mem_labelledPlaces_cellOf.1 topmost).2
  · rintro other named different ⟨row, col, breaks⟩
    rcases exists_region_of_breaks named breaks with ⟨culprit, listed, rfl⟩
    rw [split] at listed
    have broken := ((bounds listed).breaks_iff even).1 breaks
    rcases List.mem_append.1 listed with early | late
    · -- the labels in front have no gap
      exact absurd ((firstGap?_eq_none_iff (bounds listed).upright).1 (gapless culprit early) row col
        broken.1) broken.2
    · rcases List.mem_cons.1 late with rfl | behind
      · exact absurd rfl different
      · exact later culprit behind named
  · refine ⟨(own.breaks_iff even).2 first.holds, ?_⟩
    intro otherRow otherCol before breaks
    exact first.earlier otherRow otherCol before ((own.breaks_iff even).1 breaks)

/-- No label is broken when all are solid. -/
theorem not_breaks_of_checkSolid {cols : Nat} (even : ∀ line ∈ rows, line.length = cols)
    (solid : checkSolid (rows.map (·.map (cellOf blank)))
      (regionsMet (rows.map (·.map (cellOf blank)))) = .ok ()) {label : Char} (named : label ≠ blank)
    {row col : Nat} : ¬ Breaks rows label row col := by
  intro breaks
  rcases exists_region_of_breaks named breaks with ⟨region, listed, rfl⟩
  have broken := (((scanned_regionsMet _).bounds region listed).breaks_iff even).1 breaks
  exact broken.2 (checkSolid_regionsMet.1 solid region listed row col broken.1)

end Labels

/-! ## Whole drawings -/

section Rows

variable {rows : List (List Char)} {blank : Char} {fault : Fault}

/-- What is reported of rows of glyphs is their first defect. -/
theorem isFirstDefect_of_ofRows (refused : ArtGrid.ofRows rows blank = .error fault) :
    IsFirstDefect rows blank fault := by
  unfold ArtGrid.ofRows at refused
  cases rows with
  | nil =>
    cases refused
    exact ⟨0, .noLines rfl, fun _ early => absurd early (Nat.not_lt_zero _)⟩
  | cons first others =>
    have some : PassesChecks (first :: others) blank 1 :=
      (passesChecks_zero _ _).next fun fault found => by cases found; contradiction
    dsimp only at refused
    cases ragged : firstRagged? first.length 0 (first :: others) with
    | some cause =>
      rw [ragged] at refused
      cases refused
      rcases exists_uneven_of_firstRagged? ragged with ⟨line, row, uneven, rfl⟩
      rw [Nat.zero_add]
      exact ⟨1, .ragged rfl uneven, some⟩
    | none =>
      rw [ragged] at refused
      have even := firstRagged?_eq_none_iff.1 ragged
      have level := some.next (not_ragged even)
      dsimp only at refused
      by_cases empty : first.isEmpty = true
      · rw [if_pos empty] at refused
        cases refused
        exact ⟨2, .noColumns (congrArg Option.some (List.isEmpty_iff.1 empty)), level⟩
      · rw [if_neg empty] at refused
        have wide : PassesChecks (first :: others) blank 3 := level.next fun fault found => by
          cases found
          next start =>
            cases start
            exact empty rfl
        cases glyphs : cellsOfRows blank 0 (first :: others) with
        | error cause =>
          rw [glyphs] at refused
          cases refused
          rcases exists_stray_of_cellsOfRows glyphs with ⟨row, col, line, glyph, above, own, rfl⟩
          rw [Nat.zero_add]
          have place := above.isFirstPlace own
          exact ⟨3, .stray (Option.bind_eq_some_iff.2 ⟨line, above.found, own.found⟩) place, wide⟩
        | ok cells =>
          rcases cellsOfRows_eq_ok_iff.1 glyphs with ⟨rfl, known⟩
          have named := wide.next (not_stray fun row listed glyph member =>
            not_isStray_iff.2 (known row listed glyph member))
          cases solid : checkSolid ((first :: others).map (·.map (cellOf blank)))
              (regionsMet ((first :: others).map (·.map (cellOf blank)))) with
          | error cause =>
            simp only [glyphs, solid, bind, Except.bind] at refused
            cases refused
            exact ⟨4, defect_of_checkSolid even solid, named⟩
          | ok nothing =>
            have whole : PassesChecks (first :: others) blank 5 := named.next fun fault found => by
              cases found
              next other _ place => exact not_breaks_of_checkSolid even solid other place.holds
            simp only [glyphs, solid, bind, Except.bind,
              sortByCorner_eq_self (pairwise_corner (checkSolid_regionsMet.1 solid))] at refused
            split at refused
            · next unlabelled =>
              cases refused
              refine ⟨5, .noLabels fun row listed glyph member => ?_, whole⟩
              by_contra other
              have met := mem_labelsOf_cellOf.2 ⟨other, row, listed, member⟩
              rw [← map_label_regionsMet, List.isEmpty_iff.1 unlabelled] at met
              cases met
            · cases refused

end Rows

/-- Lines are refused when they have a defect, and the fault is that of the first check that
finds one. -/
theorem ofLines_error_iff_firstDefect (lines : List (List Char)) (blank : Char) (fault : Fault) :
    ArtGrid.ofLines lines blank = .error fault ↔
      IsFirstDefect (lines.map Text.withoutEscapes) blank fault := by
  constructor
  · exact isFirstDefect_of_ofRows
  · intro first
    cases read : ArtGrid.ofLines lines blank with
    | error other => rw [first.unique (isFirstDefect_of_ofRows read)]
    | ok grid =>
      rcases first with ⟨check, defect, -⟩
      exact absurd defect (ArtGrid.isReadingOf_of_ofRows read).isDrawable.not_defect

/-- The second line of this art has a stray glyph, and both of its labels are broken.  Without
the stray glyph it is the label `B` that is reported, since it appears first. -/
example :
    ArtGrid.ofLines ["BAB".toList, "A?A".toList] '.' = .error (.invalidGlyph '?' 1 1) ∧
      ArtGrid.ofLines ["BAB".toList, "A.A".toList] '.' = .error (.notSolid 'B' 0 1) := by
  decide +kernel

end Mosaic
