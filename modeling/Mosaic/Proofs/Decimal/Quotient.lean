import Mosaic.Decimal.Reading
import Mosaic.Proofs.Decimal.Product

/-!
# Counts and quotients

A count is long enough to be rounded to the nearest number, and so is a quotient.  Rounding
keeps the order, it takes numbers from one on to such numbers, and it overflows nowhere up to
the largest number.  So counts keep their order as numbers, and a number divided by one from
one on stays within the range.  Multiplied by one it is not lost, but it may leave the range.
-/

namespace Mosaic
namespace Decimal

open Float.Model
open Float.Model.UnpackedFloat (Sign roundWithAccuracy divCore)

/-! ## Size of a rounded number -/

/-- What a number taken apart stands for, or zero if it is not finite. -/
def valueOf : UnpackedFloat → ℚ
  | .finite sign mantissa exponent _ => (sign.apply mantissa : ℤ) * 2 ^ exponent
  | _ => 0

theorem exactValue_eq_valueOf (number : Float) : exactValue number = valueOf (unpacked number) := by
  unfold exactValue
  cases unpacked number <;> rfl

theorem Rounded.valueOf_eq {target : Int} {mantissa : Nat} {result : UnpackedFloat}
    (rounded : Rounded .positive target mantissa result) :
    valueOf result = mantissa * 2 ^ target := by
  cases rounded with
  | zero => exact (zero_mul _).symm.trans (congrArg (· * _) Nat.cast_zero.symm)
  | settled positive settled => rfl
  | carry =>
    change (((2 ^ 52 : ℕ) : ℤ) : ℚ) * 2 ^ (target + 1) = ((2 ^ 53 : ℕ) : ℚ) * 2 ^ target
    rw [zpow_add_one₀ two_ne_zero]
    push_cast
    ring

theorem Rounded.mantissa_le {sign : Sign} {target : Int} {mantissa : Nat} {result : UnpackedFloat}
    (rounded : Rounded sign target mantissa result) : mantissa ≤ 2 ^ 53 := by
  cases rounded with
  | zero => exact Nat.zero_le _
  | settled positive settled => exact settled.short.le
  | carry => exact Nat.le_refl _

namespace RoundsTo

variable {target : Int} {exact other : ℚ} {result otherResult : UnpackedFloat}

/-- No number in units below the range of the exact one is zero. -/
theorem exists_finite (rounds : RoundsTo .positive target exact result)
    (positive : 2 ^ (-1074 : ℤ) ≤ exact) :
    ∃ mantissa exponent nonzero, result = .finite .positive mantissa exponent nonzero := by
  rcases rounds.nearest with ⟨mantissa, rounded, near⟩
  cases rounded with
  | settled nonzero settled => exact ⟨_, _, nonzero, rfl⟩
  | carry => exact ⟨_, _, _, rfl⟩
  | zero =>
    exfalso
    have power : (0 : ℚ) < 2 ^ target := by positivity
    rw [Nat.cast_zero, zero_mul, abs_le] at near
    rcases rounds.above with lowest | large
    · rw [lowest] at near power
      linarith
    · rw [zpow_add₀ two_ne_zero] at large
      norm_num at large
      linarith

/-- A number from one on is rounded to one from one on. -/
theorem isLarge (rounds : RoundsTo .positive target exact result) (large : 1 ≤ exact) :
    IsLarge result := by
  have unit : (2 : ℚ) ^ (0 : ℤ) < 2 ^ (target + 53) := by
    rw [zpow_zero]
    exact large.trans_lt rounds.below
  have high : -52 ≤ target := by
    have := (zpow_lt_zpow_iff_right₀ (by norm_num : (1 : ℚ) < 2)).1 unit
    omega
  cases rounds.rounds with
  | zero lowest => omega
  | settled positive settled => exact .finite high
  | carry => exact .finite (by omega)

/-- A number up to the largest finite one does not overflow. -/
theorem overflown_eq (rounds : RoundsTo .positive target exact result)
    (bounded : exact ≤ (2 ^ 53 - 1) * 2 ^ (971 : ℤ)) : overflown result = result := by
  have power : (0 : ℚ) < 2 ^ (971 : ℤ) := by positivity
  have high : target ≤ 971 := by
    by_contra beyond
    have large := rounds.above.resolve_left (by omega)
    have more : (2 : ℚ) ^ (971 + 53 : ℤ) ≤ 2 ^ (target + 52) :=
      zpow_le_zpow_right₀ (by norm_num) (by omega)
    rw [zpow_add₀ two_ne_zero] at more
    have least : (2 : ℚ) ^ (971 : ℤ) * 2 ^ (53 : ℤ) ≤ (2 ^ 53 - 1) * 2 ^ (971 : ℤ) :=
      (more.trans large).trans bounded
    generalize (2 : ℚ) ^ (971 : ℤ) = unit at power least
    norm_num at least
    linarith only [power, least]
  rcases rounds.nearest with ⟨mantissa, rounded, near⟩
  cases rounded with
  | zero => rfl
  | settled positive settled => rw [overflown_finite, if_neg (by omega)]
  | carry =>
    rw [overflown_finite, if_neg]
    intro beyond
    have last : target = 971 := by omega
    rw [last, abs_le] at near
    generalize (2 : ℚ) ^ (971 : ℤ) = unit at power near bounded
    push_cast at near
    linarith

/-- A mantissa has at most fifty-three bits, or it was rounded up to the next power of two. -/
theorem valueOf_le_zpow (rounds : RoundsTo .positive target exact result) :
    valueOf result ≤ 2 ^ (target + 53) := by
  rcases rounds.nearest with ⟨mantissa, rounded, near⟩
  have short : (mantissa : ℚ) ≤ 2 ^ 53 := by exact_mod_cast rounded.mantissa_le
  rw [rounded.valueOf_eq, zpow_add₀ two_ne_zero, mul_comm]
  exact mul_le_mul_of_nonneg_left short (by positivity)

/-- And a number that fills its units is not rounded below them. -/
theorem zpow_le_valueOf (rounds : RoundsTo .positive target exact result)
    (large : 2 ^ (target + 52) ≤ exact) : 2 ^ (target + 52) ≤ valueOf result := by
  rcases rounds.nearest with ⟨mantissa, rounded, near⟩
  have power : (0 : ℚ) < 2 ^ target := by positivity
  rw [abs_le] at near
  rw [rounded.valueOf_eq]
  rw [zpow_add₀ two_ne_zero, mul_comm] at large ⊢
  have close : (2 : ℚ) ^ (52 : ℤ) * 2 ^ target < (mantissa + 1) * 2 ^ target := by
    linarith
  have fewer : (2 : ℚ) ^ (52 : ℤ) < mantissa + 1 := lt_of_mul_lt_mul_right close power.le
  have full : 2 ^ 52 ≤ mantissa := Nat.le_of_lt_succ (by exact_mod_cast fewer)
  exact mul_le_mul_of_nonneg_right (by exact_mod_cast full) power.le

theorem valueOf_le (rounds : RoundsTo .positive target exact result) {otherTarget : Int}
    (otherRounds : RoundsTo .positive otherTarget other otherResult) (less : exact < other) :
    valueOf result ≤ valueOf otherResult := by
  have units : target ≤ otherTarget := by
    rcases rounds.above with lowest | large
    · rw [lowest]
      exact otherRounds.least
    · have between := large.trans_lt (less.trans otherRounds.below)
      have := (zpow_lt_zpow_iff_right₀ (by norm_num : (1 : ℚ) < 2)).1 between
      omega
  rcases Int.lt_or_eq_of_le units with shorter | same
  · -- the longer unit decides
    have large := otherRounds.above.resolve_left (by have := rounds.least; omega)
    calc valueOf result ≤ 2 ^ (target + 53) := rounds.valueOf_le_zpow
      _ ≤ 2 ^ (otherTarget + 52) := zpow_le_zpow_right₀ (by norm_num) (by omega)
      _ ≤ valueOf otherResult := otherRounds.zpow_le_valueOf large
  · subst same
    rcases rounds.nearest with ⟨mantissa, rounded, near⟩
    rcases otherRounds.nearest with ⟨otherMantissa, otherRounded, otherNear⟩
    have power : (0 : ℚ) < 2 ^ target := by positivity
    rw [rounded.valueOf_eq, otherRounded.valueOf_eq]
    rw [abs_le] at near otherNear
    have close : (mantissa : ℚ) * 2 ^ target < (otherMantissa + 1) * 2 ^ target := by
      linarith
    have fewer : (mantissa : ℚ) < otherMantissa + 1 := lt_of_mul_lt_mul_right close power.le
    have : mantissa ≤ otherMantissa := Nat.le_of_lt_succ (by exact_mod_cast fewer)
    exact mul_le_mul_of_nonneg_right (by exact_mod_cast this) power.le

end RoundsTo

/-! ## Counts -/

/-- A count, shifted until it is long enough, is rounded to the nearest number. -/
theorem rounds_count {count shift : Nat} (positive : 0 < count) (long : 52 ≤ count.log2 + shift) :
    RoundsTo .positive ((count.log2 : Int) - 52) count
      (roundWithAccuracy Format.binary64 .positive (count * 2 ^ shift) (-(shift : Int))
        .exact) := by
  have log := log2_scaled positive shift
  have rounds := round_nearest (Represents.whole (count * 2 ^ shift))
    (Or.inl (log ▸ long) : _ ∨ -(shift : Int) ≤ -1074) .positive
  have place : max (((count * 2 ^ shift).log2 : Int) + -(shift : Int) - 52) (-1074) =
      (count.log2 : Int) - 52 := by
    rw [log]
    push_cast
    omega
  have value : ((count * 2 ^ shift : ℕ) : ℚ) * 2 ^ (-(shift : Int)) = count := by
    push_cast
    rw [zpow_neg, zpow_natCast, mul_assoc, mul_inv_cancel₀ (by positivity), mul_one]
  rwa [place, value] at rounds

/-- Counts below `2 ^ 53` are made from words. -/
theorem ofNat_eq_of_lt {count : Nat} (small : count < 2 ^ 53) :
    Float.ofNat count = Float.ofModel (Float.Model.ofUInt64 count.toUInt64) := by
  have one : Float.ofBits 0x3FF0000000000000 = 1 := by decide +kernel
  change Float.ofScientific count false 0 = _
  unfold Float.ofScientific
  rw [dif_pos ⟨small, by decide⟩]
  change count.toUInt64.toFloat * Float.ofBits 0x3FF0000000000000 = _
  rw [one, product_one]
  rfl

theorem ofNat_eq_of_le {count : Nat} (large : 2 ^ 53 ≤ count) :
    Float.ofNat count = Float.ofModel (Float.Model.ofScientific count 0) := by
  change Float.ofScientific count false 0 = _
  unfold Float.ofScientific
  rw [dif_neg (fun both => Nat.not_lt.2 large both.1)]
  rfl

theorem ofScientific_eq {count : Nat} (positive : 0 < count) :
    UnpackedFloat.ofScientific Format.binary64 count 0 =
      roundWithAccuracy Format.binary64 .positive (count * 2 ^ 53) (-((53 : Nat) : Int))
        .exact := by
  have inside : ¬ (0 : Int) < -((2 : Int) ^ 11 + count.log2) := by omega
  unfold UnpackedFloat.ofScientific
  rw [dif_neg positive.ne', if_neg (by decide), if_neg inside, if_pos (by decide)]
  have width : Format.binary64.mantissaBits = 53 := rfl
  have sign : Sign.positive * Sign.positive = Sign.positive := rfl
  simp only [UnpackedFloat.mul, width, sign, Nat.shiftLeft_eq, Int.toNat_zero, Nat.pow_zero,
    Nat.mul_one, Int.add_zero]

theorem ofUInt64_eq {count : Nat} (positive : 0 < count) (small : count < 2 ^ 53) :
    UnpackedFloat.ofUInt64 Format.binary64 count.toUInt64 =
      roundWithAccuracy Format.binary64 .positive (count * 2 ^ (52 - count.log2))
        (-((52 - count.log2 : Nat) : Int)) .exact := by
  have word : count.toUInt64.toNat = count := by
    rw [Nat.toUInt64, UInt64.toNat_ofNat', Nat.mod_eq_of_lt (small.trans (by decide))]
  have short := (Nat.log2_lt positive.ne').2 small
  have above : compare (count : Int) 0 = .gt := by
    rw [compare_gt_iff_gt]
    exact Int.natCast_pos.2 positive
  unfold UnpackedFloat.ofUInt64 UnpackedFloat.ofNat UnpackedFloat.ofInt UnpackedFloat.normalize
  rw [word, above]
  dsimp only
  unfold UnpackedFloat.round UnpackedFloat.decreaseExponent
  rw [targetExponent_eq]
  have distance : (0 - max ((count.log2 : Int) + 0 - 52) (-1074)).toNat = 52 - count.log2 := by
    omega
  rw [Int.toNat_natCast]
  dsimp only
  rw [distance, Nat.shiftLeft_eq, Int.zero_sub]

/-- Counts that fit into a word are far below the largest number. -/
theorem word_le {count : Nat} (word : count ≤ largestWord) :
    (count : ℚ) ≤ (2 ^ 53 - 1) * 2 ^ (971 : ℤ) := by
  have size : (count : ℚ) ≤ 2 ^ (64 : ℤ) := by
    have largest : largestWord ≤ 2 ^ 64 := by decide
    exact_mod_cast word.trans largest
  have larger : (2 : ℚ) ^ (64 : ℤ) ≤ 2 ^ (971 : ℤ) :=
    zpow_le_zpow_right₀ (by norm_num) (by norm_num)
  have power : (0 : ℚ) < 2 ^ (971 : ℤ) := by positivity
  refine (size.trans larger).trans (le_mul_of_one_le_left power.le ?_)
  norm_num

theorem rounds_ofNat {count : Nat} (positive : 0 < count) (word : count ≤ largestWord) :
    RoundsTo .positive ((count.log2 : Int) - 52) count (unpacked (Float.ofNat count)) := by
  have packed : ∀ {shift : Nat}, 52 ≤ count.log2 + shift →
      RoundsTo .positive ((count.log2 : Int) - 52) count (Float.Model.unpack (.pack
        (roundWithAccuracy Format.binary64 .positive (count * 2 ^ shift) (-(shift : Int))
          .exact))) := by
    intro shift long
    have rounds := rounds_count positive long
    rw [unpack_pack (rounds.rounds.isSettled rounds.least), rounds.overflown_eq (word_le word)]
    exact rounds
  rcases Nat.lt_or_ge count (2 ^ 53) with small | large
  · rw [ofNat_eq_of_lt small]
    change RoundsTo _ _ _ (Float.Model.unpack (.pack (UnpackedFloat.ofUInt64 _ _)))
    rw [ofUInt64_eq positive small]
    exact packed (by omega)
  · rw [ofNat_eq_of_le large]
    change RoundsTo _ _ _ (Float.Model.unpack (.pack (UnpackedFloat.ofScientific _ _ _)))
    rw [ofScientific_eq positive]
    exact packed (by omega)

/-! ## Quotients -/

/-- A quotient is long enough to be settled. -/
theorem long_div {mantissa divisor : Nat} {place : Int} (positive : 0 < mantissa)
    (divisorPositive : 0 < divisor) {target : Int}
    (chosen : target = min place
      (max ((mantissa.log2 : Int) - divisor.log2 + place - 53) (-1074))) :
    52 ≤ (mantissa * 2 ^ (place - target).toNat / divisor).log2 ∨ target ≤ -1074 := by
  by_cases lowest : target ≤ -1074
  · exact Or.inr lowest
  · left
    generalize distance : (place - target).toNat = shift
    have long : divisor.log2 + 53 ≤ mantissa.log2 + shift := by omega
    have size := Nat.log2_self_le positive.ne'
    have divisorSize : divisor < 2 ^ (divisor.log2 + 1) := Nat.lt_log2_self
    have quotient : 2 ^ 52 ≤ mantissa * 2 ^ shift / divisor := by
      rw [Nat.le_div_iff_mul_le divisorPositive]
      calc 2 ^ 52 * divisor ≤ 2 ^ 52 * 2 ^ (divisor.log2 + 1) :=
            Nat.mul_le_mul_left _ divisorSize.le
        _ = 2 ^ (divisor.log2 + 53) := by rw [← Nat.pow_add]; congr 1; omega
        _ ≤ 2 ^ (mantissa.log2 + shift) := Nat.pow_le_pow_right (by decide) long
        _ = 2 ^ mantissa.log2 * 2 ^ shift := Nat.pow_add _ _ _
        _ ≤ mantissa * 2 ^ shift := Nat.mul_le_mul_right _ size
    exact (Nat.le_log2 (by omega)).2 quotient

/-- The whole quotient and the remainder together are the exact quotient. -/
private theorem quotient_eq {mantissa divisor shift : Nat} {exponent otherExponent target : Int}
    (divisorPositive : 0 < divisor) (place : (shift : Int) + target = exponent - otherExponent) :
    (((mantissa * 2 ^ shift / divisor : ℕ) : ℚ) + (mantissa * 2 ^ shift % divisor : ℕ) / divisor) *
        2 ^ target = mantissa * 2 ^ exponent / (divisor * 2 ^ otherExponent) := by
  have nonzero : (divisor : ℚ) ≠ 0 := by exact_mod_cast divisorPositive.ne'
  have parts : (divisor : ℚ) * (mantissa * 2 ^ shift / divisor : ℕ) +
      (mantissa * 2 ^ shift % divisor : ℕ) = mantissa * 2 ^ shift := by
    exact_mod_cast Nat.div_add_mod (mantissa * 2 ^ shift) divisor
  have power : (2 : ℚ) ^ shift * 2 ^ target = 2 ^ exponent / 2 ^ otherExponent := by
    rw [← zpow_natCast, ← zpow_add₀ two_ne_zero, place, zpow_sub₀ two_ne_zero]
  calc _ = (divisor * (mantissa * 2 ^ shift / divisor : ℕ) +
        (mantissa * 2 ^ shift % divisor : ℕ)) * 2 ^ target / (divisor : ℚ) := by field_simp
    _ = mantissa * (2 ^ shift * 2 ^ target) / divisor := by
        rw [parts]
        ring
    _ = _ := by
        rw [power]
        field_simp

/-- The quotient of positive numbers is rounded to the nearest number. -/
theorem rounds_div (sign otherSign : Sign) {mantissa divisor : Nat} (exponent otherExponent : Int)
    (positive : 0 < mantissa) (divisorPositive : 0 < divisor) :
    ∃ target, RoundsTo (sign / otherSign) target
      (mantissa * 2 ^ exponent / (divisor * 2 ^ otherExponent))
      (UnpackedFloat.div Format.binary64 (.finite sign mantissa exponent positive)
        (.finite otherSign divisor otherExponent divisorPositive)) := by
  generalize chosen : min (exponent - otherExponent)
    (max ((mantissa.log2 : Int) - divisor.log2 + (exponent - otherExponent) - 53) (-1074)) = target
  have unit : Format.binary64.targetExponent
      (totalExponent mantissa exponent - totalExponent divisor otherExponent) =
        max ((mantissa.log2 : Int) - divisor.log2 + (exponent - otherExponent) - 53) (-1074) := by
    change max ((mantissa.log2 : Int) + 1 + exponent - (divisor.log2 + 1 + otherExponent) - 53)
      (-1074) = _
    congr 1
    omega
  have long := long_div positive divisorPositive chosen.symm
  generalize distance : (exponent - otherExponent - target).toNat = shift at long
  have place : (shift : Int) + target = exponent - otherExponent := by omega
  have rounds := round_nearest (Represents.fraction (mantissa * 2 ^ shift / divisor)
    (Nat.mod_lt (mantissa * 2 ^ shift) divisorPositive)) long (sign / otherSign)
  rw [quotient_eq divisorPositive place] at rounds
  refine ⟨max (((mantissa * 2 ^ shift / divisor).log2 : Int) + target - 52) (-1074), ?_⟩
  unfold UnpackedFloat.div divCore
  simp only [unit, chosen, distance, Nat.shiftLeft_eq]
  exact rounds

/-- A quotient is settled like any other number. -/
theorem isSettled_div (number other : UnpackedFloat) :
    IsSettled (UnpackedFloat.div Format.binary64 number other) := by
  cases number <;> cases other <;> try trivial
  next positive _ _ _ otherPositive =>
    rcases rounds_div _ _ _ _ positive otherPositive with ⟨target, rounds⟩
    exact rounds.rounds.isSettled rounds.least

theorem unpacked_div (number other : Float) :
    unpacked (number / other) =
      overflown (UnpackedFloat.div Format.binary64 (unpacked number) (unpacked other)) :=
  unpack_pack (isSettled_div _ _)

/-! ## Numbers from one on -/

section FromOne

variable {number : Float} {mantissa : Nat} {exponent : Int} {positive : 0 < mantissa}

/-- The value of a positive number is its mantissa in units of its exponent. -/
theorem exactValue_of_unpacked
    (known : unpacked number = .finite .positive mantissa exponent positive) :
    exactValue number = mantissa * 2 ^ exponent := by
  rw [exactValue_eq_valueOf, known]
  rfl

theorem isFinite_of_unpacked
    (known : unpacked number = .finite .positive mantissa exponent positive) :
    number.isFinite = true := by
  change (unpacked number).isFinite = true
  rw [known]
  rfl

/-- No finite number is past the largest one. -/
theorem exactValue_le_largest
    (known : unpacked number = .finite .positive mantissa exponent positive) :
    exactValue number ≤ (2 ^ 53 - 1) * 2 ^ (971 : ℤ) := by
  have settled := isSettled_unpacked number
  have within := overflown_unpacked number
  rw [exactValue_of_unpacked known]
  rw [known] at settled within
  have low : exponent ≤ 971 := by
    by_contra beyond
    rw [overflown_finite, if_pos (by omega)] at within
    cases within
  have short : (mantissa : ℚ) ≤ 2 ^ 53 - 1 := by
    have : ((mantissa + 1 : ℕ) : ℚ) ≤ (2 ^ 53 : ℕ) := by exact_mod_cast settled.short
    push_cast at this
    linarith
  exact mul_le_mul short (zpow_le_zpow_right₀ (by norm_num) low) (by positivity) (by norm_num)

/-- No positive number is below the least one. -/
theorem least_le_exactValue
    (known : unpacked number = .finite .positive mantissa exponent positive) :
    2 ^ (-1074 : ℤ) ≤ exactValue number := by
  have settled := isSettled_unpacked number
  rw [exactValue_of_unpacked known]
  rw [known] at settled
  have some : (1 : ℚ) ≤ mantissa := by exact_mod_cast positive
  calc (2 : ℚ) ^ (-1074 : ℤ) ≤ 2 ^ exponent := zpow_le_zpow_right₀ (by norm_num) settled.least
    _ ≤ mantissa * 2 ^ exponent := le_mul_of_one_le_left (by positivity) some

theorem one_le_exactValue
    (known : unpacked number = .finite .positive mantissa exponent positive)
    (large : IsLarge (unpacked number)) : 1 ≤ exactValue number := by
  have settled := isSettled_unpacked number
  rw [exactValue_of_unpacked known]
  rw [known] at settled large
  cases large with
  | finite high =>
    have full : 2 ^ 52 ≤ mantissa := settled.full.resolve_right (by omega)
    have size : (2 ^ 52 : ℚ) ≤ mantissa := by exact_mod_cast full
    calc (1 : ℚ) = 2 ^ 52 * 2 ^ (-52 : ℤ) := by norm_num
      _ ≤ mantissa * 2 ^ exponent :=
        mul_le_mul size (zpow_le_zpow_right₀ (by norm_num) high) (by positivity) (by positivity)

theorem IsLarge.exists_finite (large : IsLarge (unpacked number))
    (finite : number.isFinite = true) :
    ∃ mantissa exponent positive,
      unpacked number = .finite .positive mantissa exponent positive := by
  change (unpacked number).isFinite = true at finite
  generalize unpacked number = value at large finite ⊢
  cases large with
  | infinity => cases finite
  | finite high => exact ⟨_, _, _, rfl⟩

/-- A positive number times a number from one on is not rounded to zero, but it may overflow. -/
theorem exists_product {other : Float}
    (known : unpacked number = .finite .positive mantissa exponent positive)
    (large : IsLarge (unpacked other)) (finite : other.isFinite = true) :
    ∃ product place nonzero,
      unpacked (number * other) = overflown (.finite .positive product place nonzero) := by
  rcases large.exists_finite finite with ⟨factor, otherExponent, otherPositive, otherKnown⟩
  have least := least_le_exactValue known
  have unit := one_le_exactValue otherKnown large
  have settled := isSettled_unpacked number
  have otherSettled := isSettled_unpacked other
  rw [known] at settled
  rw [otherKnown] at otherSettled
  have rounds := round_nearest (Represents.whole (mantissa * factor))
    (long_mul settled otherSettled positive otherPositive) .positive
  have value : ((mantissa * factor : ℕ) : ℚ) * 2 ^ (exponent + otherExponent) =
      exactValue number * exactValue other := by
    rw [exactValue_of_unpacked known, exactValue_of_unpacked otherKnown, zpow_add₀ two_ne_zero]
    push_cast
    ring
  have above : (2 : ℚ) ^ (-1074 : ℤ) ≤ exactValue number * exactValue other :=
    least.trans (le_mul_of_one_le_right ((by positivity : (0 : ℚ) ≤ _).trans least) unit)
  rw [value] at rounds
  rcases rounds.exists_finite above with ⟨product, place, nonzero, shape⟩
  rw [unpacked_mul, known, otherKnown]
  exact ⟨product, place, nonzero, congrArg overflown shape⟩

/-- A positive number is divided by a number from one on without overflow. -/
theorem rounds_quotient {divisor : Float}
    (known : unpacked number = .finite .positive mantissa exponent positive)
    (large : IsLarge (unpacked divisor)) (finite : divisor.isFinite = true) :
    ∃ target, RoundsTo .positive target (exactValue number / exactValue divisor)
      (unpacked (number / divisor)) := by
  rcases large.exists_finite finite with ⟨other, otherExponent, otherPositive, otherKnown⟩
  have bound := exactValue_le_largest known
  have unit := one_le_exactValue otherKnown large
  have nonneg : 0 ≤ exactValue number := (by positivity : (0 : ℚ) ≤ 2 ^ (-1074 : ℤ)).trans
    (least_le_exactValue known)
  rcases rounds_div .positive .positive exponent otherExponent positive otherPositive with
    ⟨target, rounds⟩
  rw [← exactValue_of_unpacked known, ← exactValue_of_unpacked otherKnown] at rounds
  rw [unpacked_div, known, otherKnown, rounds.overflown_eq ((div_le_self nonneg unit).trans bound)]
  exact ⟨target, rounds⟩

end FromOne

/-! ## Counts as numbers -/

section Counts

variable {count other : Nat}

theorem isLarge_ofNat (positive : 0 < count) (word : count ≤ largestWord) :
    IsLarge (unpacked (Float.ofNat count)) :=
  (rounds_ofNat positive word).isLarge (by exact_mod_cast positive)

theorem isFinite_ofNat (positive : 0 < count) (word : count ≤ largestWord) :
    (Float.ofNat count).isFinite = true := by
  have least : (2 : ℚ) ^ (-1074 : ℤ) ≤ count :=
    (zpow_le_one_of_nonpos₀ (by norm_num) (by norm_num)).trans (by exact_mod_cast positive)
  rcases (rounds_ofNat positive word).exists_finite least with
    ⟨mantissa, exponent, nonzero, known⟩
  exact isFinite_of_unpacked known

theorem exactValue_ofNat_le (positive : 0 < count) (ordered : count ≤ other)
    (word : other ≤ largestWord) :
    exactValue (Float.ofNat count) ≤ exactValue (Float.ofNat other) := by
  rw [exactValue_eq_valueOf, exactValue_eq_valueOf]
  rcases Nat.lt_or_eq_of_le ordered with less | rfl
  · exact (rounds_ofNat positive (ordered.trans word)).valueOf_le
      (rounds_ofNat (positive.trans_le ordered) word) (by exact_mod_cast less)
  · exact le_refl _

/-- The quotient of two counts, the larger one by the smaller one, is a number from one on. -/
theorem isLarge_ratio (positive : 0 < count) (ordered : count ≤ other)
    (word : other ≤ largestWord) :
    IsLarge (unpacked (Float.ofNat other / Float.ofNat count)) ∧
      (Float.ofNat other / Float.ofNat count).isFinite = true := by
  have smaller : count ≤ largestWord := ordered.trans word
  have otherPositive : 0 < other := positive.trans_le ordered
  have large := isLarge_ofNat positive smaller
  have finite := isFinite_ofNat positive smaller
  rcases (isLarge_ofNat otherPositive word).exists_finite (isFinite_ofNat otherPositive word) with
    ⟨mantissa, exponent, nonzero, known⟩
  rcases large.exists_finite finite with ⟨divisor, place, divisorPositive, divisorKnown⟩
  rcases rounds_quotient known large finite with ⟨target, rounds⟩
  have least := one_le_exactValue divisorKnown large
  have unit : 1 ≤ exactValue (Float.ofNat other) / exactValue (Float.ofNat count) :=
    (one_le_div (zero_lt_one.trans_le least)).2 (exactValue_ofNat_le positive ordered word)
  have above : (2 : ℚ) ^ (-1074 : ℤ) ≤ 1 := zpow_le_one_of_nonpos₀ (by norm_num) (by norm_num)
  refine ⟨rounds.isLarge unit, ?_⟩
  rcases rounds.exists_finite (above.trans unit) with ⟨_, _, _, quotient⟩
  exact isFinite_of_unpacked quotient

end Counts

end Decimal
end Mosaic
