import Mosaic.Proofs.Decimal.Rounding

/-!
# Products

A product is rounded by cutting its mantissa down to fifty-three bits, and it is settled
again.  Products of positive numbers are never negative, and a product with one is the
other number.  No product of two numbers from one on is below one, and none of two numbers
up to one is above it.  So repeated products stay on their side of one, and infinity never
meets zero on the way.
-/

namespace Mosaic
namespace Decimal

open Float.Model
open Float.Model.UnpackedFloat (Sign ExtendedMantissa roundWithAccuracy
  shiftToTargetExponent shiftToExponent)

/-! ## Rounding -/

/-- What rounding may make of a number: zero, or a settled number with the exponent for its
size, or the smallest mantissa with the next exponent. -/
inductive Rounds (sign : Sign) (target : Int) : UnpackedFloat → Prop
  | zero : target = -1074 → Rounds sign target (.zero sign)
  | settled {mantissa : Nat} (positive : 0 < mantissa) (settled : Settled mantissa target) :
      Rounds sign target (.finite sign mantissa target positive)
  | carry : Rounds sign target (.finite sign (2 ^ 52) (target + 1) (by decide))

/-- The nearest number has one of these forms. -/
theorem RoundsTo.rounds {sign : Sign} {target : Int} {exact : ℚ} {result : UnpackedFloat}
    (known : RoundsTo sign target exact result) : Rounds sign target result := by
  rcases known.nearest with ⟨mantissa, rounded, near⟩
  cases rounded with
  | zero =>
    apply Rounds.zero
    apply known.above.resolve_right
    intro large
    have power : (0 : ℚ) < 2 ^ target := by positivity
    rw [zpow_add₀ two_ne_zero] at large
    norm_num at large
    rw [Nat.cast_zero, zero_mul, abs_le] at near
    linarith
  | settled positive settled => exact .settled positive settled
  | carry => exact .carry

/-- Rounding settles a number that is not too short. -/
theorem rounds {mantissa : Nat} {exponent : Int}
    (long : 52 ≤ mantissa.log2 ∨ exponent ≤ -1074) (sign : Sign) :
    Rounds sign (max ((mantissa.log2 : Int) + exponent - 52) (-1074))
      (roundWithAccuracy Format.binary64 sign mantissa exponent .exact) :=
  (round_nearest (Represents.whole mantissa) long sign).rounds

theorem log2_scaled {mantissa : Nat} (positive : 0 < mantissa) (shift : Nat) :
    (mantissa * 2 ^ shift).log2 = mantissa.log2 + shift := by
  have bounds := (Nat.log2_eq_iff (Nat.ne_of_gt positive)).1 rfl
  have scaled := Nat.mul_pos positive (Nat.two_pow_pos shift)
  rw [Nat.log2_eq_iff (Nat.ne_of_gt scaled), Nat.add_right_comm, Nat.pow_add, Nat.pow_add _ _ shift]
  exact ⟨Nat.mul_le_mul_right _ bounds.1,
    Nat.mul_lt_mul_of_pos_right bounds.2 (Nat.two_pow_pos shift)⟩

/-- Rounding takes appended zeros away again. -/
theorem round_scaled {mantissa : Nat} {exponent : Int} (settled : Settled mantissa exponent)
    (positive : 0 < mantissa) (sign : Sign) (shift : Nat) :
    roundWithAccuracy Format.binary64 sign (mantissa * 2 ^ shift) (exponent - shift) .exact =
      .finite sign mantissa exponent positive := by
  have total : totalExponent (mantissa * 2 ^ shift) (exponent - shift) =
      totalExponent mantissa exponent := by
    unfold totalExponent
    rw [log2_scaled positive]
    push_cast
    ring
  have distance : (exponent - (exponent - (shift : Int))).toNat = shift := by omega
  have place : exponent - (shift : Int) + shift = exponent := by omega
  have first : shiftToTargetExponent Format.binary64 (mantissa * 2 ^ shift) (exponent - shift)
      .exact = (ExtendedMantissa.ofMantissaAndAccuracy mantissa .exact, exponent) := by
    unfold shiftToTargetExponent shiftToExponent
    rw [total, settled.target_eq positive]
    dsimp only
    rw [distance, shiftRight_scaled, place]
  have rounded : (ExtendedMantissa.ofMantissaAndAccuracy mantissa .exact).roundedMantissa =
      mantissa := rfl
  have own : (ExtendedMantissa.ofMantissaAndAccuracy mantissa .exact).mantissa = mantissa := rfl
  unfold roundWithAccuracy
  simp only [first, rounded, shift_settled settled positive, own, dif_neg (Nat.ne_of_gt positive)]

/-! ## Products of numbers -/

/-- The product of settled numbers is long enough to be settled. -/
theorem long_mul {mantissa other : Nat} {exponent otherExponent : Int}
    (settled : Settled mantissa exponent) (otherSettled : Settled other otherExponent)
    (positive : 0 < mantissa) (otherPositive : 0 < other) :
    52 ≤ (mantissa * other).log2 ∨ exponent + otherExponent ≤ -1074 := by
  have nonzero : mantissa * other ≠ 0 := Nat.ne_of_gt (Nat.mul_pos positive otherPositive)
  rw [Nat.le_log2 nonzero]
  rcases settled.full with large | lowest
  · exact Or.inl (large.trans (Nat.le_mul_of_pos_right mantissa otherPositive))
  · rcases otherSettled.full with large | otherLowest
    · exact Or.inl (large.trans (Nat.le_mul_of_pos_left other positive))
    · right
      omega

theorem Rounds.isSettled {sign : Sign} {target : Int} {number : UnpackedFloat}
    (rounds : Rounds sign target number) (least : -1074 ≤ target) : IsSettled number := by
  cases rounds with
  | zero => trivial
  | settled positive settled => exact settled
  | carry => exact ⟨by decide, by omega, Or.inl (Nat.le_refl _)⟩

theorem isSettled_mul {number other : UnpackedFloat} (settled : IsSettled number)
    (otherSettled : IsSettled other) :
    IsSettled (UnpackedFloat.mul Format.binary64 number other) := by
  cases number <;> cases other <;> try trivial
  next positive _ _ _ otherPositive =>
    have long := long_mul settled otherSettled positive otherPositive
    exact (rounds long _).isSettled (le_max_right _ _)

theorem unpacked_mul (number other : Float) :
    unpacked (number * other) =
      overflown (UnpackedFloat.mul Format.binary64 (unpacked number) (unpacked other)) :=
  unpack_pack (isSettled_mul (isSettled_unpacked number) (isSettled_unpacked other))

/-! ## One -/

private def unit : UnpackedFloat :=
  .finite .positive (2 ^ 52) (-52) (by decide)

private theorem unpacked_one : unpacked 1 = unit := by
  rfl

private theorem sign_mul_positive (sign : Sign) : sign * .positive = sign := by
  cases sign <;> rfl

private theorem sign_positive_mul (sign : Sign) : .positive * sign = sign := by
  cases sign <;> rfl

theorem overflown_unpacked (number : Float) : overflown (unpacked number) = unpacked number := by
  rw [← unpack_pack (isSettled_unpacked number)]
  exact congrArg unpacked (pack_unpacked number)

private theorem mul_unit {number : UnpackedFloat} (settled : IsSettled number) :
    UnpackedFloat.mul Format.binary64 number unit = number := by
  cases number with
  | notANumber => rfl
  | infinity sign => exact congrArg UnpackedFloat.infinity (sign_mul_positive sign)
  | zero sign => exact congrArg UnpackedFloat.zero (sign_mul_positive sign)
  | finite sign mantissa exponent positive =>
    have scaled := round_scaled settled positive (sign * .positive) 52
    rw [sign_mul_positive] at scaled
    exact (congrArg (roundWithAccuracy _ · _ _ _) (sign_mul_positive sign)).trans scaled

private theorem unit_mul {number : UnpackedFloat} (settled : IsSettled number) :
    UnpackedFloat.mul Format.binary64 unit number = number := by
  cases number with
  | notANumber => rfl
  | infinity sign => exact congrArg UnpackedFloat.infinity (sign_positive_mul sign)
  | zero sign => exact congrArg UnpackedFloat.zero (sign_positive_mul sign)
  | finite sign mantissa exponent positive =>
    have scaled := round_scaled settled positive (.positive * sign) 52
    rw [sign_positive_mul] at scaled
    change roundWithAccuracy _ (.positive * sign) (2 ^ 52 * mantissa) (-52 + exponent) _ = _
    rw [sign_positive_mul, Nat.mul_comm, Int.add_comm]
    exact scaled

theorem product_one (number : Float) : number * 1 = number := by
  apply unpacked_injective
  rw [unpacked_mul, unpacked_one, mul_unit (isSettled_unpacked number), overflown_unpacked]

theorem one_product (number : Float) : 1 * number = number := by
  apply unpacked_injective
  rw [unpacked_mul, unpacked_one, unit_mul (isSettled_unpacked number), overflown_unpacked]

/-! ## On either side of one -/

/-- Numbers from one on, and infinity. -/
inductive IsLarge : UnpackedFloat → Prop
  | infinity : IsLarge (.infinity .positive)
  | finite {mantissa : Nat} {exponent : Int} {positive : 0 < mantissa} (high : -52 ≤ exponent) :
      IsLarge (.finite .positive mantissa exponent positive)

/-- Zero, and positive numbers below one. -/
inductive IsSmall : UnpackedFloat → Prop
  | zero : IsSmall (.zero .positive)
  | finite {mantissa : Nat} {exponent : Int} {positive : 0 < mantissa} (low : exponent ≤ -53) :
      IsSmall (.finite .positive mantissa exponent positive)

theorem overflown_finite {sign : Sign} {mantissa : Nat} {exponent : Int}
    {positive : 0 < mantissa} : overflown (.finite sign mantissa exponent positive) =
      if 972 ≤ exponent then .infinity sign else .finite sign mantissa exponent positive :=
  rfl

/-- The leading bit of a product is in the place of the factors' leading bits, or one further. -/
private theorem log2_mul_bounds {mantissa other : Nat} (positive : 0 < mantissa)
    (otherPositive : 0 < other) :
    mantissa.log2 + other.log2 ≤ (mantissa * other).log2 ∧
      (mantissa * other).log2 ≤ mantissa.log2 + other.log2 + 1 := by
  have bounds := (Nat.log2_eq_iff (Nat.ne_of_gt positive)).1 rfl
  have otherBounds := (Nat.log2_eq_iff (Nat.ne_of_gt otherPositive)).1 rfl
  have nonzero : mantissa * other ≠ 0 := Nat.ne_of_gt (Nat.mul_pos positive otherPositive)
  constructor
  · rw [Nat.le_log2 nonzero, Nat.pow_add]
    exact Nat.mul_le_mul bounds.1 otherBounds.1
  · rw [← Nat.lt_succ_iff, Nat.log2_lt nonzero]
    have product := Nat.mul_lt_mul'' bounds.2 otherBounds.2
    rw [← Nat.pow_add] at product
    exact product.trans_le (Nat.pow_le_pow_right (by decide) (by omega))

theorem IsLarge.mul {number other : UnpackedFloat} (large : IsLarge number)
    (otherLarge : IsLarge other) (settled : IsSettled number) (otherSettled : IsSettled other) :
    IsLarge (overflown (UnpackedFloat.mul Format.binary64 number other)) := by
  cases large with
  | infinity => cases otherLarge <;> exact .infinity
  | @finite mantissa exponent positive high =>
    cases otherLarge with
    | infinity => exact .infinity
    | @finite other otherExponent otherPositive otherHigh =>
      have full : 2 ^ 52 ≤ mantissa := settled.full.resolve_right (by omega)
      have otherFull : 2 ^ 52 ≤ other := otherSettled.full.resolve_right (by omega)
      have log := (Nat.le_log2 (Nat.ne_of_gt positive)).2 full
      have otherLog := (Nat.le_log2 (Nat.ne_of_gt otherPositive)).2 otherFull
      have product := (log2_mul_bounds positive otherPositive).1
      have rounded := rounds (long_mul settled otherSettled positive otherPositive)
        (.positive * .positive)
      change IsLarge (overflown (roundWithAccuracy _ (.positive * .positive) _ _ _))
      generalize roundWithAccuracy _ (.positive * .positive) _ _ _ = result at rounded ⊢
      cases rounded with
      | zero least => omega
      | settled =>
        rw [overflown_finite]
        split
        · exact .infinity
        · exact .finite (by omega)
      | carry =>
        rw [overflown_finite]
        split
        · exact .infinity
        · exact .finite (by omega)

theorem IsSmall.mul {number other : UnpackedFloat} (small : IsSmall number)
    (otherSmall : IsSmall other) (settled : IsSettled number) (otherSettled : IsSettled other) :
    IsSmall (overflown (UnpackedFloat.mul Format.binary64 number other)) ∨
      overflown (UnpackedFloat.mul Format.binary64 number other) = unit := by
  cases small with
  | zero => cases otherSmall <;> exact Or.inl .zero
  | @finite mantissa exponent positive low =>
    cases otherSmall with
    | zero => exact Or.inl .zero
    | @finite other otherExponent otherPositive otherLow =>
      have log := (Nat.log2_lt (Nat.ne_of_gt positive)).2 settled.short
      have otherLog := (Nat.log2_lt (Nat.ne_of_gt otherPositive)).2 otherSettled.short
      have product := (log2_mul_bounds positive otherPositive).2
      have rounded := rounds (long_mul settled otherSettled positive otherPositive)
        (.positive * .positive)
      change IsSmall (overflown (roundWithAccuracy _ (.positive * .positive) _ _ _)) ∨
        overflown (roundWithAccuracy _ (.positive * .positive) _ _ _) = unit
      generalize chosen : max (((mantissa * other).log2 : Int) + (exponent + otherExponent) - 52)
        (-1074) = target at rounded
      generalize roundWithAccuracy _ (.positive * .positive) _ _ _ = result at rounded ⊢
      have below : target ≤ -53 := by omega
      cases rounded with
      | zero least => exact Or.inl .zero
      | settled =>
        rw [overflown_finite, if_neg (by omega)]
        exact Or.inl (.finite below)
      | carry =>
        rw [overflown_finite, if_neg (by omega)]
        rcases Int.lt_or_eq_of_le below with lower | last
        · exact Or.inl (.finite (by omega))
        · subst last
          exact Or.inr rfl

/-- Products of numbers from one on are from one on. -/
theorem isLarge_product {number other : Float} (large : IsLarge (unpacked number))
    (otherLarge : IsLarge (unpacked other)) : IsLarge (unpacked (number * other)) := by
  rw [unpacked_mul]
  exact large.mul otherLarge (isSettled_unpacked number) (isSettled_unpacked other)

/-- Products of numbers below one are below one, or are rounded up to one. -/
theorem isSmall_product {number other : Float} (small : IsSmall (unpacked number))
    (otherSmall : IsSmall (unpacked other)) :
    IsSmall (unpacked (number * other)) ∨ number * other = 1 := by
  rcases small.mul otherSmall (isSettled_unpacked number) (isSettled_unpacked other) with
    below | one
  · rw [unpacked_mul]
    exact Or.inl below
  · right
    apply unpacked_injective
    rw [unpacked_mul, one, unpacked_one]

theorem isLarge_one : IsLarge (unpacked 1) :=
  .finite (le_refl (-52))

/-! ## Numbers without a sign -/

/-- Numbers that are not below zero, infinity among them. -/
inductive IsUnsigned : UnpackedFloat → Prop
  | zero : IsUnsigned (.zero .positive)
  | finite {mantissa : Nat} {exponent : Int} {positive : 0 < mantissa} :
      IsUnsigned (.finite .positive mantissa exponent positive)
  | infinity : IsUnsigned (.infinity .positive)

theorem IsUnsigned.eq_infinity {number : UnpackedFloat} (unsigned : IsUnsigned number)
    (overflow : number.isFinite = false) : number = .infinity .positive := by
  cases unsigned with
  | zero => cases overflow
  | finite => cases overflow
  | infinity => rfl

theorem IsLarge.isUnsigned {number : UnpackedFloat} (large : IsLarge number) :
    IsUnsigned number := by
  cases large with
  | infinity => exact .infinity
  | finite high => exact .finite

theorem IsSmall.isUnsigned {number : UnpackedFloat} (small : IsSmall number) :
    IsUnsigned number := by
  cases small with
  | zero => exact .zero
  | finite low => exact .finite

/-- A positive finite number is on one side of one. -/
theorem isLarge_or_isSmall {mantissa : Nat} (exponent : Int) (positive : 0 < mantissa) :
    IsLarge (.finite .positive mantissa exponent positive) ∨
      IsSmall (.finite .positive mantissa exponent positive) := by
  rcases lt_or_ge exponent (-52) with low | high
  · exact Or.inr (.finite (by omega))
  · exact Or.inl (.finite high)

private theorem Rounds.isUnsigned {target : Int} {number : UnpackedFloat}
    (rounds : Rounds .positive target number) : IsUnsigned (overflown number) := by
  cases rounds with
  | zero least => exact .zero
  | settled =>
    rw [overflown_finite]
    split
    · exact .infinity
    · exact .finite
  | carry =>
    rw [overflown_finite]
    split
    · exact .infinity
    · exact .finite

/-- A positive finite number times a number without a sign has no sign. -/
theorem isUnsigned_product {number other : Float} {mantissa : Nat} {exponent : Int}
    {positive : 0 < mantissa}
    (known : unpacked number = .finite .positive mantissa exponent positive)
    (unsigned : IsUnsigned (unpacked other)) : IsUnsigned (unpacked (number * other)) := by
  have settled := isSettled_unpacked number
  have otherSettled := isSettled_unpacked other
  rw [unpacked_mul]
  rw [known] at settled ⊢
  generalize unpacked other = factor at unsigned otherSettled ⊢
  cases unsigned with
  | zero => exact .zero
  | infinity => exact .infinity
  | finite =>
    next otherPositive =>
      have rounded := rounds (long_mul settled otherSettled positive otherPositive) .positive
      exact rounded.isUnsigned

/-- Zero times a number without a sign is zero again, unless the number is infinite. -/
theorem zero_product {number other : Float} {sign : Sign} (known : unpacked number = .zero sign)
    (unsigned : IsUnsigned (unpacked other)) :
    unpacked (number * other) =
      if other.isFinite then .zero sign else .notANumber := by
  have finite : other.isFinite = (unpacked other).isFinite := rfl
  rw [unpacked_mul, known, finite]
  generalize unpacked other = factor at unsigned ⊢
  cases unsigned with
  | zero => exact congrArg UnpackedFloat.zero (sign_mul_positive sign)
  | finite => exact congrArg UnpackedFloat.zero (sign_mul_positive sign)
  | infinity => rfl

/-! ## Numbers that are not less than zero -/

/-- Numbers that are not less than zero; not-a-number is one of them. -/
def NotBelowZero (number : UnpackedFloat) : Prop :=
  ∀ mantissa exponent positive, number ≠ .finite .negative mantissa exponent positive

theorem IsUnsigned.notBelowZero {number : UnpackedFloat} (unsigned : IsUnsigned number) :
    NotBelowZero number := by
  rintro mantissa exponent positive rfl
  cases unsigned

theorem NotBelowZero.exactValue_nonneg {number : Float}
    (notBelow : NotBelowZero (unpacked number)) : 0 ≤ exactValue number := by
  unfold exactValue
  split
  · next sign mantissa exponent positive known =>
    cases sign with
    | negative => exact absurd known (notBelow mantissa exponent positive)
    | positive =>
      change (0 : ℚ) ≤ ((mantissa : ℤ) : ℚ) * 2 ^ exponent
      positivity
  · exact le_refl 0

end Decimal
end Mosaic
