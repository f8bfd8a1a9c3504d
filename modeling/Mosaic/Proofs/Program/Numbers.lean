import Mosaic.Proofs.Partition.Distinct
import Mosaic.Proofs.Partition.Proportions
import Mosaic.Proofs.Program.Compiled
import Mosaic.Proofs.Settings.Extents

/-!
# Numbers of a program

A program writes the size of its figure and the spacing of its grids as real numbers.  They
are literals exactly where they are finite.  All of them are computed from accepted settings,
and so they pass the checks of the settings again unless a product overflows: the size is a
factor times a count, and the spacing of a split is scaled once for every split above it.
Dividing spacing by an average extent adds nothing to this, since no average is below one.
-/

namespace Mosaic

open Decimal

/-! ## Literals -/

/-- Text that is read as a real number, and not as a count or a name: it has digits, and a
decimal point or an exponent as well. -/
structure IsFloatLiteral (text : List Char) : Prop where
  digits : ∃ glyph ∈ text, isDigit glyph = true
  marked : '.' ∈ text ∨ 'e' ∈ text

/-- A number is written as a literal exactly if it is finite. -/
theorem isFloatLiteral_numberText_iff {number : Float} :
    IsFloatLiteral (Program.numberText number).toList ↔ number.isFinite = true := by
  constructor
  · rintro ⟨⟨glyph, member, digit⟩, -⟩
    have word : ∀ letters : List Char, letters.all (fun letter => !isDigit letter) = true →
        glyph ∉ letters := by
      intro letters plain inside
      have letter := List.all_eq_true.1 plain glyph inside
      rw [digit] at letter
      cases letter
    rw [isFinite_iff]
    unfold Program.numberText text at member
    split at member
    · exact absurd member (word _ (by decide))
    · next numeric =>
      split at member
      · split at member
        · exact absurd member (word _ (by decide))
        · exact absurd member (word _ (by decide))
      · next bounded => exact ⟨Bool.eq_false_iff.2 numeric, Bool.eq_false_iff.2 bounded⟩
  · intro finite
    rcases exists_unsigned_finiteText Program.numberStyle number with
      ⟨unsigned, shown, ⟨first, rest, rfl, digit⟩, mark⟩
    have inside : first :: rest ⊆ (Program.numberText number).toList := by
      unfold Program.numberText
      rw [text_of_isFinite Program.numberStyle finite]
      rcases shown with plain | signed
      · rw [plain]
        exact List.Subset.refl _
      · rw [signed]
        exact List.subset_cons_self _ _
    exact ⟨⟨first, inside List.mem_cons_self, digit⟩,
      (mark rfl).imp (fun point => inside point) (fun letter => inside letter)⟩

/-! ## Written numbers -/

def Spacing.given {α : Type} (spacing : Spacing α) : List α :=
  spacing.wspace.toList ++ spacing.hspace.toList

def GridRequest.spacing {α : Type} (request : GridRequest α) : Spacing α :=
  ⟨request.wspace, request.hspace⟩

namespace PartitionTree

/-- The real numbers of a tree's program. -/
def writtenNumbers (tree : PartitionTree Float) (settings : Settings) : List Float :=
  let size := settings.figureSize tree.rows tree.cols
  [size.width, size.height, settings.dpi] ++
    tree.root.splits.flatMap fun split => (GridRequest.ofCut split.1 split.2).spacing.given

/-- The size of the figure and all spacing pass the checks of the settings, and the program
writes its numbers as literals. -/
structure Measured (tree : PartitionTree Float) (settings : Settings) : Prop where
  width : isPositive (settings.figureSize tree.rows tree.cols).width = true
  height : isPositive (settings.figureSize tree.rows tree.cols).height = true
  stored : ∀ split ∈ tree.root.splits, ∀ space ∈ split.1.spacing.given, isNonNegative space = true
  requested : ∀ split ∈ tree.root.splits,
    ∀ space ∈ (GridRequest.ofCut split.1 split.2).spacing.given, isNonNegative space = true
  literals : ∀ number ∈ tree.writtenNumbers settings,
    IsFloatLiteral (Program.numberText number).toList

/-- Neither a side of the figure nor the spacing of a split overflows. -/
structure WithinRange (tree : PartitionTree Float) (settings : Settings) : Prop where
  width : (settings.figureSize tree.rows tree.cols).width.isFinite = true
  height : (settings.figureSize tree.rows tree.cols).height.isFinite = true
  spacing : ∀ split ∈ tree.root.splits, ∀ space ∈ split.1.spacing.given, space.isFinite = true

end PartitionTree

theorem Spacing.mem_given_iff {α : Type} {spacing : Spacing α} {space : α} :
    space ∈ spacing.given ↔ spacing.wspace = some space ∨ spacing.hspace = some space := by
  unfold given
  rw [List.mem_append, Option.mem_toList, Option.mem_toList]

/-! ## Sizes -/

namespace Settings

variable {settings : Settings} {rows cols : Nat}

/-- A figure for a drawing with rows and columns has a size, unless it overflows. -/
theorem Usable.isPositive_figureSize (usable : settings.Usable) (someRows : 0 < rows)
    (someCols : 0 < cols) (high : rows ≤ largestWord) (wide : cols ≤ largestWord) :
    isPositive (settings.figureSize rows cols).width =
        (settings.figureSize rows cols).width.isFinite ∧
      isPositive (settings.figureSize rows cols).height =
        (settings.figureSize rows cols).height.isFinite := by
  have given : ∀ value : Float, isPositive value = true → isPositive value = value.isFinite :=
    fun value positive => positive.trans (isFinite_of_isPositive positive).symm
  unfold figureSize
  dsimp only
  constructor
  · cases factor : settings.widthFactor with
    | none => exact given _ usable.width
    | some factor' => exact isPositive_scaled (usable.widthFactor factor' factor) someCols wide
  · cases factor : settings.heightFactor with
    | none => exact given _ usable.height
    | some factor' => exact isPositive_scaled (usable.heightFactor factor' factor) someRows high

/-- No spacing is below zero, however it is scaled. -/
theorem Usable.notBelowZero_spacingAt (usable : settings.Usable) (depth : Nat) {space : Float}
    (member : space ∈ (settings.spacingAt depth).given) : NotBelowZero (unpacked space) := by
  have unsigned := usable.isUnsigned_scaleAt depth
  rcases Spacing.mem_given_iff.1 member with wide | high
  · rcases Option.map_eq_some_iff.1 wide with ⟨base, given, rfl⟩
    exact notBelowZero_scaled (usable.wspace base given) unsigned
  · rcases Option.map_eq_some_iff.1 high with ⟨base, given, rfl⟩
    exact notBelowZero_scaled (usable.hspace base given) unsigned

end Settings

/-! ## Requests -/

/-- The average extents of the grid for a split are finite numbers from one on. -/
theorem Cut.Proportioned.isLarge_meanExtent {cut : Cut Float} {children : List (Node Float)}
    (proportioned : cut.Proportioned children) (writable : cut.Writable children.length) :
    ∀ extents, extents = cut.widthRatios ∨ extents = cut.heightRatios →
      IsLarge (unpacked (meanExtent extents)) ∧ (meanExtent extents : Float).isFinite = true := by
  have single : ∀ extent, 0 < extent → extent ≤ largestWord →
      IsLarge (unpacked (meanExtent [extent])) ∧ (meanExtent [extent] : Float).isFinite = true := by
    intro extent positive word
    apply Mosaic.isLarge_meanExtent
    · exact List.forall_mem_singleton.2 positive
    · exact List.cons_ne_nil _ _
    · rwa [List.sum_singleton]
  have several : (cut.region.along cut.orientation).size ≤ largestWord →
      IsLarge (unpacked (meanExtent cut.ratios)) ∧
        (meanExtent cut.ratios : Float).isFinite = true := by
    intro word
    exact Mosaic.isLarge_meanExtent proportioned.positive writable.someRatio
      (proportioned.total ▸ word)
  rintro extents (rfl | rfl)
  · unfold widthRatios
    cases direction : cut.orientation with
    | columns => exact several (direction ▸ writable.width)
    | rows => exact single _ (Nat.succ_pos _) writable.width
  · unfold heightRatios
    cases direction : cut.orientation with
    | columns => exact single _ (Nat.succ_pos _) writable.height
    | rows => exact several (direction ▸ writable.height)

/-- What a grid is wanted with is the spacing of the split divided by such an average. -/
theorem GridRequest.exists_of_mem_given {cut : Cut Float} {childCount : Nat} {space : Float}
    (member : space ∈ (ofCut cut childCount).spacing.given) :
    ∃ own ∈ cut.spacing.given, ∃ extents, (extents = cut.widthRatios ∨ extents = cut.heightRatios) ∧
      space = own / meanExtent extents := by
  rcases Spacing.mem_given_iff.1 member with wide | high
  · rcases Option.map_eq_some_iff.1 wide with ⟨own, given, rfl⟩
    exact ⟨own, Spacing.mem_given_iff.2 (Or.inl given), _, Or.inl rfl, rfl⟩
  · rcases Option.map_eq_some_iff.1 high with ⟨own, given, rfl⟩
    exact ⟨own, Spacing.mem_given_iff.2 (Or.inr given), _, Or.inr rfl, rfl⟩

/-! ## Whole programs -/

namespace ArtGrid.Solid

variable {grid : ArtGrid} {settings : Settings} {tree : PartitionTree Float}
  {split : Cut Float × Nat} {space : Float}

/-- No split is stored with spacing below zero. -/
theorem notBelowZero_stored (solid : grid.Solid) (made : grid.partition settings = .ok tree)
    (member : split ∈ tree.root.splits) (given : space ∈ split.1.spacing.given) :
    NotBelowZero (unpacked space) := by
  have usable := Settings.validate_ok_iff.1 (valid_of_partition_ok made)
  rcases solid.exists_spacingAt made member with ⟨depth, same⟩
  rw [same] at given
  exact usable.notBelowZero_spacingAt depth given

/-- Where the stored spacing is finite, so is the spacing that the grid is wanted with. -/
theorem isNonNegative_requested (solid : grid.Solid) (made : grid.partition settings = .ok tree)
    (writable : tree.Writable) (member : split ∈ tree.root.splits)
    (finite : ∀ own ∈ split.1.spacing.given, own.isFinite = true)
    (given : space ∈ (GridRequest.ofCut split.1 split.2).spacing.given) :
    isNonNegative space = true := by
  rcases split with ⟨cut, childCount⟩
  rcases GridRequest.exists_of_mem_given given with ⟨own, ownGiven, extents, which, rfl⟩
  rcases Node.mem_splits_iff.1 member with ⟨children, below, -⟩
  rcases Node.mem_descendants_iff.1 below with ⟨above, lineage⟩
  rcases solid.cut_madeAt made lineage with ⟨members, known⟩
  have average := known.proportioned.isLarge_meanExtent (writable _ below) extents which
  have range := quotient_in_range (solid.notBelowZero_stored made member ownGiven)
    average.1 average.2
  rw [isNonNegative_eq_isFinite range.1, range.2]
  exact finite own ownGiven

end ArtGrid.Solid

/-- All numbers of a program are sound exactly if neither the size of the figure nor the
spacing of a split overflows. -/
theorem measured_iff_withinRange {lines : List (List Char)} {blank : Char} {grid : ArtGrid}
    {settings : Settings} {tree : PartitionTree Float}
    (read : ArtGrid.ofLines lines blank = .ok grid) (high : grid.rows ≤ largestWord)
    (wide : grid.cols ≤ largestWord) (made : grid.partition settings = .ok tree) :
    tree.Measured settings ↔ tree.WithinRange settings := by
  have solid := ArtGrid.solid_of_ofLines read
  have usable := Settings.validate_ok_iff.1 (ArtGrid.valid_of_partition_ok made)
  have writable : tree.Writable :=
    PartitionTree.IsCompiled.writable ⟨lines, blank, grid, settings, read, high, wide, made⟩
  have size := usable.isPositive_figureSize solid.rows_pos solid.cols_pos high wide
  rcases ArtGrid.partition_ok made with ⟨rows, cols, -⟩
  rw [← rows, ← cols] at size
  constructor
  · intro measured
    exact ⟨size.1.symm.trans measured.width, size.2.symm.trans measured.height,
      fun split member space given =>
        isFinite_of_isNonNegative (measured.stored split member space given)⟩
  · intro within
    have requested : ∀ split ∈ tree.root.splits,
        ∀ space ∈ (GridRequest.ofCut split.1 split.2).spacing.given, isNonNegative space = true :=
      fun split member space given =>
        solid.isNonNegative_requested made writable member (within.spacing split member) given
    constructor
    · exact size.1.trans within.width
    · exact size.2.trans within.height
    · intro split member space given
      rw [isNonNegative_eq_isFinite (solid.notBelowZero_stored made member given)]
      exact within.spacing split member space given
    · exact requested
    · intro number written
      rw [isFloatLiteral_numberText_iff]
      rcases List.mem_append.1 written with figure | grids
      · simp only [List.mem_cons, List.not_mem_nil, or_false] at figure
        rcases figure with rfl | rfl | rfl
        · exact within.width
        · exact within.height
        · exact isFinite_of_isPositive usable.dpi
      · rcases List.mem_flatMap.1 grids with ⟨split, member, given⟩
        exact isFinite_of_isNonNegative (requested split member number given)

theorem measured_iff_withinRange_mixed :
    ArtGrid.ofLines [['A', 'A', 'C'], ['B', '.', 'C']] '.' = .ok mixed ∧
      mixed.rows ≤ largestWord ∧ mixed.cols ≤ largestWord ∧
        mixed.partition Settings.default = .ok mixedTree ∧
          (mixedTree.Measured Settings.default ↔ mixedTree.WithinRange Settings.default) := by
  exact ⟨ofLines_mixed, by decide, by decide, partition_mixed,
    measured_iff_withinRange ofLines_mixed (by decide) (by decide) partition_mixed⟩

/-- Where the square of the factor overflows, a space of zero is not a number two splits further
down. -/
theorem not_measured_gapless :
    ArtGrid.ofLines [['A', 'A', 'C'], ['B', '.', 'C']] '.' = .ok mixed ∧
      (gapless 1e200).validate = .ok () ∧
        mixed.partition (gapless 1e200) = .ok (gaplessTree 1e200) ∧
          ¬ (gaplessTree 1e200).Measured (gapless 1e200) := by
  have valid : (gapless 1e200).validate = .ok () := by decide +kernel
  refine ⟨ofLines_mixed, valid, partition_gapless valid, fun measured => ?_⟩
  have start : (gaplessTree 1e200).root.Lineage [] (gaplessTree 1e200).root := .root
  have lineage := (start.child List.mem_cons_self).child
    (List.mem_cons_of_mem _ List.mem_cons_self)
  have member := Node.mem_splits_iff.2 ⟨_, Node.mem_descendants_iff.2 ⟨_, lineage⟩, rfl⟩
  have checked : isNonNegative (0 * Settings.scaleAt (.geometric 1e200) 2) = false := by
    decide +kernel
  have passed : isNonNegative (0 * Settings.scaleAt (.geometric 1e200) 2) = true :=
    measured.stored _ member _ (Spacing.mem_given_iff.2 (Or.inl rfl))
  rw [checked] at passed
  cases passed

end Mosaic
