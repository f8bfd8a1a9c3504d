import Mosaic.Proofs.Decimal.Product
import Mosaic.Settings.Basic

/-!
# Spacing of valid settings

Settings are accepted when each of their numbers passes its own check.  Then the scale
of a depth is never negative and never fails to be a number: a factor from one on has
powers from one on, and one below has powers up to one.  So spacing that overflows is
infinite, or it is zero times infinity, and which of these depends on the base alone.
-/

namespace Mosaic

open Decimal
open Float.Model (UnpackedFloat)

/-! ## Signs of checked numbers -/

private theorem unpacked_zero : unpacked 0 = .zero .positive := by
  rfl

theorem unpacked_of_isPositive {value : Float} (positive : isPositive value = true) :
    ∃ mantissa exponent nonzero, unpacked value = .finite .positive mantissa exponent nonzero := by
  have both := Bool.and_eq_true_iff.1 positive
  have finite : (unpacked value).isFinite = true := both.1
  have above : (0 : Float).toModel < value.toModel :=
    of_decide_eq_true (of_decide_eq_true both.2)
  change UnpackedFloat.lt (unpacked 0) (unpacked value) = true at above
  rw [unpacked_zero] at above
  generalize unpacked value = number at finite above ⊢
  cases number with
  | notANumber => cases finite
  | infinity sign => cases finite
  | zero sign => cases above
  | finite sign mantissa exponent nonzero =>
    cases sign with
    | positive => exact ⟨mantissa, exponent, nonzero, rfl⟩
    | negative => cases above

/-- A number that is not negative is a zero with some sign, or it is positive. -/
theorem unpacked_of_isNonNegative {value : Float} (nonNegative : isNonNegative value = true) :
    (∃ sign, unpacked value = .zero sign) ∨
      ∃ mantissa exponent nonzero,
        unpacked value = .finite .positive mantissa exponent nonzero := by
  have both := Bool.and_eq_true_iff.1 nonNegative
  have finite : (unpacked value).isFinite = true := both.1
  have above : (0 : Float).toModel ≤ value.toModel :=
    of_decide_eq_true (of_decide_eq_true both.2)
  change UnpackedFloat.le (unpacked 0) (unpacked value) = true at above
  rw [unpacked_zero] at above
  generalize unpacked value = number at finite above ⊢
  cases number with
  | notANumber => cases finite
  | infinity sign => cases finite
  | zero sign => exact Or.inl ⟨sign, rfl⟩
  | finite sign mantissa exponent nonzero =>
    cases sign with
    | positive => exact Or.inr ⟨mantissa, exponent, nonzero, rfl⟩
    | negative => cases above

/-! ## Powers -/

/-- What holds of products holds of powers. -/
theorem powerFrom_induction {α : Type} [Mul α] (Holds : α → Prop)
    (product : ∀ number other, Holds number → Holds other → Holds (number * other)) {result base : α}
    (start : Holds result) (factor : Holds base) (exponent : Nat) :
    Holds (powerFrom result base exponent) := by
  induction result, base, exponent using powerFrom.induct with
  | case1 result base exponent last =>
    rw [powerFrom, if_pos last]
    split
    · exact product _ _ start factor
    · exact start
  | case2 result base exponent next more ih =>
    rw [powerFrom, if_neg more]
    refine ih ?_ (product _ _ factor factor)
    dsimp only [next]
    split
    · exact product _ _ start factor
    · exact start

/-- A power of a positive number has no sign, though it may be zero or infinite. -/
theorem isUnsigned_power {factor : Float} (positive : isPositive factor = true) (exponent : Nat) :
    IsUnsigned (unpacked (power factor exponent)) := by
  rcases unpacked_of_isPositive positive with ⟨mantissa, place, nonzero, known⟩
  have side := isLarge_or_isSmall place nonzero
  rw [← known] at side
  rcases side with large | small
  · have powers : IsLarge (unpacked (power factor exponent)) :=
      powerFrom_induction (fun number => IsLarge (unpacked number)) (fun _ _ => isLarge_product)
        isLarge_one large exponent
    exact powers.isUnsigned
  · -- products of small numbers may be rounded up to one, but not further
    have product : ∀ number other : Float, (IsSmall (unpacked number) ∨ number = 1) →
        (IsSmall (unpacked other) ∨ other = 1) →
          IsSmall (unpacked (number * other)) ∨ number * other = 1 := by
      rintro number other (below | rfl) (otherBelow | rfl)
      · exact isSmall_product below otherBelow
      · rw [product_one]
        exact Or.inl below
      · rw [one_product]
        exact Or.inl otherBelow
      · rw [product_one]
        exact Or.inr rfl
    have powers : IsSmall (unpacked (power factor exponent)) ∨ power factor exponent = 1 :=
      powerFrom_induction (fun number => IsSmall (unpacked number) ∨ number = 1) product
        (Or.inr rfl) (Or.inl small) exponent
    rcases powers with below | one
    · exact below.isUnsigned
    · rw [one]
      exact isLarge_one.isUnsigned

namespace Settings

/-! ## Accepted settings -/

/-- Settings of which each number passes its check. -/
structure Usable (settings : Settings) : Prop where
  width : isPositive settings.width = true
  height : isPositive settings.height = true
  dpi : isPositive settings.dpi = true
  widthFactor : ∀ factor ∈ settings.widthFactor, isPositive factor = true
  heightFactor : ∀ factor ∈ settings.heightFactor, isPositive factor = true
  wspace : ∀ space ∈ settings.wspace, isNonNegative space = true
  hspace : ∀ space ∈ settings.hspace, isNonNegative space = true
  factor : ∀ factor ∈ ruleFactor settings.spacingRule, isPositive factor = true
  blank : isBlankMark settings.blank = true

private theorem bind_eq_ok {first rest : Except SettingsFault Unit} :
    (first >>= fun _ => rest) = .ok () ↔ first = .ok () ∧ rest = .ok () := by
  cases first with
  | error cause => exact ⟨nofun, fun both => nomatch both.1⟩
  | ok done => exact ⟨fun run => ⟨rfl, run⟩, fun both => both.2⟩

private theorem checkPositive_ok_iff (field : String) (value : Float) :
    checkPositive field value = .ok () ↔ isPositive value = true := by
  unfold checkPositive
  split <;> simp_all

private theorem checkNonNegative_ok_iff (field : String) (value : Float) :
    checkNonNegative field value = .ok () ↔ isNonNegative value = true := by
  unfold checkNonNegative
  split <;> simp_all

private theorem checkGiven_ok_iff {check : String → Float → Except SettingsFault Unit}
    {passes : Float → Bool}
    (sound : ∀ field value, check field value = .ok () ↔ passes value = true) (field : String)
    (given : Option Float) :
    checkGiven check field given = .ok () ↔ ∀ value ∈ given, passes value = true := by
  cases given with
  | none => exact ⟨fun _ value member => (nomatch member), fun _ => rfl⟩
  | some value =>
    refine (sound field value).trans ⟨fun passed other member => ?_, fun all => all value rfl⟩
    cases member
    exact passed

/-- Exactly the settings that are usable are accepted. -/
theorem validate_ok_iff {settings : Settings} : settings.validate = .ok () ↔ settings.Usable := by
  have mark : (if isBlankMark settings.blank then .ok ()
      else .error (.blankMarker settings.blank) : Except SettingsFault Unit) = .ok () ↔
        isBlankMark settings.blank = true := by
    split <;> simp_all
  have positive := checkGiven_ok_iff checkPositive_ok_iff
  have nonNegative := checkGiven_ok_iff checkNonNegative_ok_iff
  unfold validate
  simp only [bind_eq_ok, mark, checkPositive_ok_iff, positive, nonNegative]
  constructor
  · rintro ⟨width, height, dpi, widthFactor, heightFactor, wspace, hspace, factor, blank⟩
    exact ⟨width, height, dpi, widthFactor, heightFactor, wspace, hspace, factor, blank⟩
  · rintro ⟨width, height, dpi, widthFactor, heightFactor, wspace, hspace, factor, blank⟩
    exact ⟨width, height, dpi, widthFactor, heightFactor, wspace, hspace, factor, blank⟩

/-! ## Scales and spacing -/

variable {settings : Settings}

theorem Usable.isUnsigned_scaleAt (usable : settings.Usable) (depth : Nat) :
    IsUnsigned (unpacked (scaleAt settings.spacingRule depth)) := by
  have positive := usable.factor
  cases rule : settings.spacingRule with
  | uniform => exact isLarge_one.isUnsigned
  | geometric factor =>
    rw [rule] at positive
    exact isUnsigned_power (positive factor rfl) _

/-- The root is not scaled. -/
theorem scaleAt_zero (rule : SpacingRule) : scaleAt rule 0 = 1 := by
  cases rule with
  | uniform => rfl
  | geometric factor =>
    change powerFrom 1 factor 0 = 1
    rw [powerFrom]
    rfl

theorem spacingAt_zero (settings : Settings) :
    settings.spacingAt 0 = ⟨settings.wspace, settings.hspace⟩ := by
  have whole : (fun space : Float => space * 1) = id := by
    funext space
    exact product_one space
  unfold spacingAt
  rw [scaleAt_zero, whole, Option.map_id, id, id]

/-- Scaled spacing is not less than zero, though it may be infinite or not a number. -/
theorem notBelowZero_scaled {space scale : Float} (nonNegative : isNonNegative space = true)
    (unsigned : IsUnsigned (unpacked scale)) : NotBelowZero (unpacked (space * scale)) := by
  rcases unpacked_of_isNonNegative nonNegative with ⟨sign, known⟩ | ⟨_, _, _, known⟩
  · rw [zero_product known unsigned]
    intro mantissa exponent positive
    split <;> exact nofun
  · exact (isUnsigned_product known unsigned).notBelowZero

/-- Where two multiples of one base overflow, they are the same. -/
theorem eq_of_overflow {space scale other : Float} (nonNegative : isNonNegative space = true)
    (unsigned : IsUnsigned (unpacked scale)) (otherUnsigned : IsUnsigned (unpacked other))
    (overflow : (space * scale).isFinite = false)
    (otherOverflow : (space * other).isFinite = false) : space * scale = space * other := by
  change (unpacked (space * scale)).isFinite = false at overflow
  change (unpacked (space * other)).isFinite = false at otherOverflow
  apply unpacked_injective
  rcases unpacked_of_isNonNegative nonNegative with ⟨sign, known⟩ | ⟨_, _, _, known⟩
  · have product := zero_product known unsigned
    have otherProduct := zero_product known otherUnsigned
    rw [product] at overflow
    rw [otherProduct] at otherOverflow
    split at overflow
    · cases overflow
    · next infinite =>
      split at otherOverflow
      · cases otherOverflow
      · next otherInfinite =>
        rw [product, otherProduct, if_neg infinite, if_neg otherInfinite]
  · have product := isUnsigned_product known unsigned
    have otherProduct := isUnsigned_product known otherUnsigned
    rw [product.eq_infinity overflow, otherProduct.eq_infinity otherOverflow]

end Settings
end Mosaic
