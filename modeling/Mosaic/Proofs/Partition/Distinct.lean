import Mosaic.Proofs.Partition.Descent
import Mosaic.Proofs.Partition.Reproduction
import Mosaic.Proofs.Settings.Spacing
import Mosaic.Proofs.Tree.Json

/-!
# Different partitions have different texts

Null stands for spacing that is missing, infinite or not a number.  But the spacing of
the root is that of the settings, which is finite where it is given.  So the text tells
which spacing the settings give, and then a null further down is missing spacing exactly
where the settings give none, and one particular overflow everywhere else.
-/

namespace Mosaic

open Decimal

/-! ## Spacing and null -/

/-- Numbers are read off their JSON, but for those that are not finite. -/
theorem Json.eq_of_ofFloat_eq {real other : Float} (same : Json.ofFloat real = Json.ofFloat other)
    (overflow : real.isFinite = false → other.isFinite = false → real = other) : real = other := by
  unfold ofFloat at same
  split at same
  · split at same
    · exact Number.real.inj (number.inj same)
    · cases same
  · next infinite =>
    split at same
    · cases same
    · next otherInfinite =>
      exact overflow (Bool.eq_false_iff.2 infinite) (Bool.eq_false_iff.2 otherInfinite)

/-- Spacing that is finite where it is given is read off its JSON. -/
theorem Json.eq_of_ofFloat?_eq {space other : Option Float}
    (finite : ∀ value ∈ space, value.isFinite = true)
    (otherFinite : ∀ value ∈ other, value.isFinite = true)
    (same : Json.ofFloat? space = Json.ofFloat? other) : space = other := by
  have given : ∀ value : Float, value.isFinite = true → Json.ofFloat value ≠ .null := by
    intro value known none
    unfold ofFloat at none
    rw [if_pos known] at none
    cases none
  cases space with
  | none =>
    cases other with
    | none => rfl
    | some value => exact absurd same.symm (given value (otherFinite value rfl))
  | some value =>
    have known := finite value rfl
    cases other with
    | none => exact absurd same (given value known)
    | some otherValue =>
      refine congrArg some (eq_of_ofFloat_eq same fun infinite => ?_)
      rw [known] at infinite
      cases infinite

/-- Multiples of one base are the same where their JSON is. -/
theorem eq_of_ofFloat?_scaled_eq {base : Option Float} {scale other : Float}
    (nonNegative : ∀ space ∈ base, isNonNegative space = true)
    (unsigned : IsUnsigned (unpacked scale)) (otherUnsigned : IsUnsigned (unpacked other))
    (same : Json.ofFloat? (base.map (· * scale)) = Json.ofFloat? (base.map (· * other))) :
    base.map (· * scale) = base.map (· * other) := by
  cases base with
  | none => rw [Option.map_none, Option.map_none]
  | some space =>
    rw [Option.map_some, Option.map_some] at same ⊢
    exact congrArg some (Json.eq_of_ofFloat_eq same
      (Settings.eq_of_overflow (nonNegative space rfl) unsigned otherUnsigned))

theorem Spacing.toJson_eq_iff {spacing other : Spacing Float} :
    spacing.toJson = other.toJson ↔
      Json.ofFloat? spacing.wspace = Json.ofFloat? other.wspace ∧
        Json.ofFloat? spacing.hspace = Json.ofFloat? other.hspace := by
  simp [toJson]

theorem isFinite_of_isNonNegative {value : Float} (nonNegative : isNonNegative value = true) :
    value.isFinite = true :=
  (Bool.and_eq_true_iff.1 nonNegative).1

namespace Settings

variable {settings other : Settings}

/-- Settings show their spacing at the root. -/
theorem Usable.spacing_eq (usable : settings.Usable) (otherUsable : other.Usable)
    (same : (settings.spacingAt 0).toJson = (other.spacingAt 0).toJson) :
    settings.wspace = other.wspace ∧ settings.hspace = other.hspace := by
  rw [spacingAt_zero, spacingAt_zero, Spacing.toJson_eq_iff] at same
  exact ⟨Json.eq_of_ofFloat?_eq (fun value given => isFinite_of_isNonNegative (usable.wspace value given))
      (fun value given => isFinite_of_isNonNegative (otherUsable.wspace value given)) same.1,
    Json.eq_of_ofFloat?_eq (fun value given => isFinite_of_isNonNegative (usable.hspace value given))
      (fun value given => isFinite_of_isNonNegative (otherUsable.hspace value given)) same.2⟩

/-- With the same base spacing, all spacing is told apart by its JSON. -/
theorem Usable.toldFrom (usable : settings.Usable) (otherUsable : other.Usable)
    (wspace : settings.wspace = other.wspace) (hspace : settings.hspace = other.hspace)
    (depth otherDepth : Nat) :
    (settings.spacingAt depth).ToldFrom (other.spacingAt otherDepth) := by
  intro same
  have unsigned := usable.isUnsigned_scaleAt depth
  have otherUnsigned := otherUsable.isUnsigned_scaleAt otherDepth
  rw [Spacing.toJson_eq_iff] at same
  unfold spacingAt at same ⊢
  rw [← wspace, ← hspace] at same ⊢
  rw [Spacing.mk.injEq]
  exact ⟨eq_of_ofFloat?_scaled_eq usable.wspace unsigned otherUnsigned same.1,
    eq_of_ofFloat?_scaled_eq usable.hspace unsigned otherUnsigned same.2⟩

end Settings

/-! ## Partitions -/

namespace ArtGrid.Solid

variable {grid other : ArtGrid} {settings otherSettings : Settings}
  {tree otherTree : PartitionTree Float}

/-- A root with the same JSON as another one has the same spacing, if it is a split. -/
theorem spacing_eq (solid : grid.Solid) (made : grid.partition settings = .ok tree)
    (otherSolid : other.Solid) (otherMade : other.partition otherSettings = .ok otherTree)
    (same : tree.root.toJson = otherTree.root.toJson) {split otherSplit : Cut Float × Nat}
    (member : split ∈ tree.root.splits) (otherMember : otherSplit ∈ otherTree.root.splits) :
    (settings.spacingAt 0).toJson = (otherSettings.spacingAt 0).toJson := by
  cases root : tree.root with
  | leaf contents =>
    rw [root, Node.splits_leaf] at member
    cases member
  | blank region =>
    rw [root, Node.splits_blank] at member
    cases member
  | split cut children =>
    cases otherRoot : otherTree.root with
    | leaf contents =>
      rw [otherRoot, Node.splits_leaf] at otherMember
      cases otherMember
    | blank region =>
      rw [otherRoot, Node.splits_blank] at otherMember
      cases otherMember
    | split otherCut others =>
      have start : tree.root.Lineage [] (.split cut children) := root ▸ .root
      have otherStart : otherTree.root.Lineage [] (.split otherCut others) := otherRoot ▸ .root
      rcases solid.cut_madeAt made start with ⟨members, known⟩
      rcases otherSolid.cut_madeAt otherMade otherStart with ⟨otherMembers, otherKnown⟩
      rw [root, otherRoot] at same
      rcases Node.parts_of_toJson_eq same with ⟨-, -, -, -, -, -, shown⟩
      rw [known.spaced, otherKnown.spaced] at shown
      exact shown

end ArtGrid.Solid

/-- Partitions with the same canonical text are the same, whatever drawings and settings they
were made from. -/
theorem eq_of_canonical_eq {lines otherLines : List (List Char)} {blank otherBlank : Char}
    {grid other : ArtGrid} {settings otherSettings : Settings} {tree otherTree : PartitionTree Float}
    (read : ArtGrid.ofLines lines blank = .ok grid)
    (otherRead : ArtGrid.ofLines otherLines otherBlank = .ok other)
    (made : grid.partition settings = .ok tree)
    (otherMade : other.partition otherSettings = .ok otherTree)
    (same : tree.canonical = otherTree.canonical) : tree = otherTree := by
  have solid := ArtGrid.solid_of_ofLines read
  have otherSolid := ArtGrid.solid_of_ofLines otherRead
  have usable := Settings.validate_ok_iff.1 (ArtGrid.valid_of_partition_ok made)
  have otherUsable := Settings.validate_ok_iff.1 (ArtGrid.valid_of_partition_ok otherMade)
  rcases PartitionTree.parts_of_canonical_eq same with ⟨json, rows, cols, labels⟩
  have root : tree.root = otherTree.root := by
    refine Node.eq_of_toJson_eq _ _ (fun split member otherSplit otherMember => ?_) json
    have bases := usable.spacing_eq otherUsable
      (solid.spacing_eq made otherSolid otherMade json member otherMember)
    rcases solid.exists_spacingAt made member with ⟨depth, spacing⟩
    rcases otherSolid.exists_spacingAt otherMade otherMember with ⟨otherDepth, otherSpacing⟩
    rw [spacing, otherSpacing]
    exact usable.toldFrom otherUsable bases.1 bases.2 depth otherDepth
  rcases tree with ⟨⟩
  rcases otherTree with ⟨⟩
  dsimp only at root rows cols labels
  rw [root, rows, cols, labels]

/-- Settings without space between columns, scaled by a factor whose square is infinite if it
is large enough. -/
def gapless (factor : Float) : Settings :=
  { Settings.default with wspace := some 0, hspace := none, spacingRule := .geometric factor }

def gaplessTree (factor : Float) : PartitionTree Float :=
  { mixedTree with root := mixedRoot (gapless factor).spacingAt }

theorem partition_gapless {factor : Float} (valid : (gapless factor).validate = .ok ()) :
    mixed.partition (gapless factor) = .ok (gaplessTree factor) := by
  rw [ArtGrid.partition_eq mixed valid, partitionRegion_mixed]
  rfl

/-- At the third level the space is zero times infinity, whichever the factor was. -/
theorem eq_of_canonical_eq_gapless :
    ArtGrid.ofLines [['A', 'A', 'C'], ['B', '.', 'C']] '.' = .ok mixed ∧
      ArtGrid.ofLines [['A', 'A', 'C'], ['B', ':', 'C']] ':' = .ok mixed ∧
      mixed.partition (gapless 1e308) = .ok (gaplessTree 1e308) ∧
      mixed.partition (gapless 1.5e308) = .ok (gaplessTree 1.5e308) ∧
      (gaplessTree 1e308).canonical = (gaplessTree 1.5e308).canonical ∧
      gaplessTree 1e308 = gaplessTree 1.5e308 := by
  have otherRead : ArtGrid.ofLines [['A', 'A', 'C'], ['B', ':', 'C']] ':' = .ok mixed :=
    ArtGrid.ofRows_eq_ok_iff.2 (by decide +kernel)
  have valid : (gapless 1e308).validate = .ok () := by decide +kernel
  have otherValid : (gapless 1.5e308).validate = .ok () := by decide +kernel
  have made := partition_gapless valid
  have otherMade := partition_gapless otherValid
  have levels : ∀ depth < 3, (gapless 1e308).spacingAt depth = (gapless 1.5e308).spacingAt depth := by
    decide +kernel
  have same : (gaplessTree 1e308).canonical = (gaplessTree 1.5e308).canonical := by
    unfold gaplessTree mixedRoot
    rw [levels 0 (by decide), levels 1 (by decide), levels 2 (by decide)]
  exact ⟨ofLines_mixed, otherRead, made, otherMade, same,
    eq_of_canonical_eq ofLines_mixed otherRead made otherMade same⟩

end Mosaic
