import Mosaic.Canvas.Basic
import Mosaic.Proofs.Decimal.Quotient
import Mosaic.Proofs.Settings.Spacing

/-!
# Sizes and spacing within the range

Settings are checked before they are multiplied.  What is computed from accepted settings is
never below zero, and a size is never zero, so it passes the same checks again exactly where
it is finite.  The average extents that spacing is divided by are numbers from one on, and
so the quotient is finite where the spacing is.  They are formed of sums in machine words,
which are the sums themselves as long as those fit in a word.
-/

namespace Mosaic

open Decimal
open Float.Model (UnpackedFloat)

/-! ## Sums of counts -/

theorem toNat_foldl_counts (counts : List Nat) (start : UInt64) :
    (counts.foldl (fun total count => total + UInt64.ofNat count) start).toNat =
      (start.toNat + counts.sum) % UInt64.size := by
  induction counts generalizing start with
  | nil => exact (Nat.mod_eq_of_lt start.toNat_lt).symm
  | cons count counts ih =>
    rw [List.foldl_cons, ih, UInt64.toNat_add, UInt64.toNat_ofNat', List.sum_cons]
    change ((start.toNat + count % UInt64.size) % UInt64.size + counts.sum) % UInt64.size = _
    rw [Nat.mod_add_mod, Nat.add_right_comm, Nat.add_mod_mod, Nat.add_right_comm, Nat.add_assoc]

/-- What is added up in words is the sum but for multiples of the size of a word. -/
theorem wordSum_eq_mod (counts : List Nat) : wordSum counts = counts.sum % UInt64.size := by
  have total := toNat_foldl_counts counts 0
  rwa [UInt64.toNat_zero, Nat.zero_add] at total

theorem wordSum_eq_sum {counts : List Nat} (word : counts.sum ≤ largestWord) :
    wordSum counts = counts.sum := by
  rw [wordSum_eq_mod, Nat.mod_eq_of_lt (Nat.lt_of_le_pred (by decide) word)]

/-! ## Checks of computed numbers -/

theorem isPositive_of_unpacked {value : Float} {mantissa : Nat} {exponent : Int}
    {nonzero : 0 < mantissa}
    (known : unpacked value = .finite .positive mantissa exponent nonzero) :
    isPositive value = true := by
  have above : (0 : Float).toModel < value.toModel := by
    change UnpackedFloat.lt (unpacked 0) (unpacked value) = true
    rw [known]
    rfl
  unfold isPositive
  rw [isFinite_of_unpacked known, Bool.true_and]
  exact decide_eq_true (decide_eq_true above)

theorem isFinite_of_isPositive {value : Float} (positive : isPositive value = true) :
    value.isFinite = true :=
  (Bool.and_eq_true_iff.1 positive).1

/-- A number that is not less than zero passes the check where it is finite. -/
theorem isNonNegative_eq_isFinite {value : Float} (notBelow : NotBelowZero (unpacked value)) :
    isNonNegative value = value.isFinite := by
  unfold isNonNegative
  rw [Bool.and_eq_left_iff_imp]
  intro finite
  apply decide_eq_true
  apply decide_eq_true
  change (unpacked value).isFinite = true at finite
  change UnpackedFloat.le (unpacked 0) (unpacked value) = true
  generalize unpacked value = number at finite notBelow ⊢
  cases number with
  | notANumber => cases finite
  | infinity sign => cases finite
  | zero sign => cases sign <;> rfl
  | finite sign mantissa exponent nonzero =>
    cases sign with
    | positive => rfl
    | negative => exact absurd rfl (notBelow mantissa exponent nonzero)

/-! ## Sizes -/

/-- A positive number for each of several rows or columns makes a positive size, unless it
overflows. -/
theorem isPositive_scaled {factor : Float} {count : Nat} (positive : isPositive factor = true)
    (counted : 0 < count) (word : count ≤ largestWord) :
    isPositive (factor * Float.ofNat count) = (factor * Float.ofNat count).isFinite := by
  rcases unpacked_of_isPositive positive with ⟨mantissa, exponent, nonzero, known⟩
  rcases exists_product known (isLarge_ofNat counted word) (isFinite_ofNat counted word) with
    ⟨product, place, productNonzero, result⟩
  rw [overflown_finite] at result
  split at result
  · -- it overflows
    have infinite : (factor * Float.ofNat count).isFinite = false := by
      change (unpacked (factor * Float.ofNat count)).isFinite = false
      rw [result]
      rfl
    unfold isPositive
    rw [infinite, Bool.false_and]
  · rw [isPositive_of_unpacked result, isFinite_of_unpacked result]

/-! ## Quotients -/

/-- Divided by a number from one on, numbers stay on their side of zero and in the range. -/
theorem quotient_in_range {space divisor : Float} (notBelow : NotBelowZero (unpacked space))
    (large : IsLarge (unpacked divisor)) (finite : divisor.isFinite = true) :
    NotBelowZero (unpacked (space / divisor)) ∧ (space / divisor).isFinite = space.isFinite := by
  have divided := unpacked_div space divisor
  rcases large.exists_finite finite with ⟨other, otherExponent, otherPositive, otherKnown⟩
  change NotBelowZero (unpacked (space / divisor)) ∧
    (unpacked (space / divisor)).isFinite = (unpacked space).isFinite
  rw [otherKnown] at divided
  cases known : unpacked space with
  | notANumber =>
    rw [divided, known]
    exact ⟨nofun, rfl⟩
  | infinity sign =>
    rw [divided, known]
    exact ⟨nofun, rfl⟩
  | zero sign =>
    rw [divided, known]
    exact ⟨nofun, rfl⟩
  | finite sign mantissa exponent positive =>
    cases sign with
    | negative => exact absurd known (notBelow mantissa exponent positive)
    | positive =>
      rcases rounds_quotient known large finite with ⟨target, rounds⟩
      rcases rounds.nearest with ⟨rounded, shape, -⟩
      generalize unpacked (space / divisor) = result at shape ⊢
      cases shape with
      | zero => exact ⟨nofun, rfl⟩
      | settled => exact ⟨nofun, rfl⟩
      | carry => exact ⟨nofun, rfl⟩

/-- The average of extents that are not zero is a finite number from one on. -/
theorem isLarge_meanExtent {extents : List Nat} (positive : ∀ extent ∈ extents, 0 < extent)
    (nonempty : extents ≠ []) (word : extents.sum ≤ largestWord) :
    IsLarge (unpacked (meanExtent extents)) ∧ (meanExtent extents : Float).isFinite = true := by
  have counted : extents.length ≤ extents.sum := List.length_le_sum_of_one_le extents positive
  have whole : Scalar.sum Float extents = extents.sum := wordSum_eq_sum word
  unfold meanExtent
  rw [whole]
  exact isLarge_ratio (List.length_pos_iff.2 nonempty) counted word

end Mosaic
