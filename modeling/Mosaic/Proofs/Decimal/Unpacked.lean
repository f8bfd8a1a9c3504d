import Mosaic.Proofs.Decimal.Bits

/-!
# Numbers taken apart

Arithmetic takes its numbers apart and packs the result.  Numbers that were taken
apart are settled: their mantissa has fifty-three bits, or their exponent is the least
one.  A settled number is what its bits are taken apart to, unless it is past the range,
where it becomes infinite.
-/

namespace Mosaic
namespace Decimal

open Float.Model
open Float.Model.UnpackedFloat (Sign packComponents unpackSign unpackExponent unpackMantissa)

/-- A number as arithmetic sees it. -/
def unpacked (number : Float) : UnpackedFloat :=
  number.toModel.unpack

/-- The value of a finite number, which is the sign, the mantissa and a power of two. -/
def exactValue (number : Float) : ℚ :=
  match unpacked number with
  | .finite sign mantissa exponent _ => (sign.apply mantissa : ℤ) * 2 ^ exponent
  | _ => 0

/-- A reading of numbers as exact ones, which is free where they are not finite. -/
structure ReadsExactly (value : Float → ℚ) : Prop where
  finite : ∀ number, number.isFinite = true → value number = exactValue number
  beyond : ∀ number, number.isFinite = false → 0 ≤ value number

theorem readsExactly_exactValue : ReadsExactly exactValue where
  finite number finite := rfl
  beyond number infinite := by
    change (unpacked number).isFinite = false at infinite
    unfold exactValue
    split
    · next known =>
      rw [known] at infinite
      cases infinite
    · exact le_refl 0

/-- A mantissa and an exponent that cannot be changed for others of the same value. -/
structure Settled (mantissa : Nat) (exponent : Int) : Prop where
  short : mantissa < 2 ^ 53
  least : -1074 ≤ exponent
  full : 2 ^ 52 ≤ mantissa ∨ exponent = -1074

/-- Is the number settled, if it is finite? -/
def IsSettled : UnpackedFloat → Prop
  | .finite _ mantissa exponent _ => Settled mantissa exponent
  | _ => True

private theorem toNat_leading (fraction : BitVec 52) :
    (1#1 ++ fraction).toNat = 2 ^ 52 + fraction.toNat := by
  rw [BitVec.toNat_append, ← Nat.shiftLeft_add_eq_or_of_lt fraction.isLt]
  rfl

theorem isSettled_unpacked (number : Float) : IsSettled (unpacked number) := by
  rcases exists_fields number with ⟨sign, exponent, fraction, bits, -, -, -⟩
  have fractionBound := fraction.isLt
  change IsSettled (UnpackedFloat.unpack Format.binary64 number.toBits.toBitVec)
  rw [bits]
  unfold UnpackedFloat.unpack
  simp only [UnpackedFloat.unpackMantissa_packComponents,
    UnpackedFloat.unpackExponent_packComponents]
  split
  · split <;> trivial
  · split
    · next least =>
      subst least
      split
      · trivial
      · exact ⟨by omega, by decide, Or.inr rfl⟩
    · next above =>
      have positive : exponent.toNat ≠ 0 := fun zero => above (BitVec.eq_of_toNat_eq zero)
      constructor
      · rw [toNat_leading]
        omega
      · change (-1074 : Int) ≤ exponent.toNat - ((1023 : Nat) + (52 : Nat))
        omega
      · rw [toNat_leading]
        exact Or.inl (Nat.le_add_right _ _)

/-- Packing a number that was taken apart gives it back. -/
theorem pack_unpacked (number : Float) : Float.ofModel (.pack (unpacked number)) = number := by
  cases nan : number.isNaN with
  | true =>
    rw [eq_nan nan]
    rfl
  | false =>
    rcases exists_fields number with
      ⟨sign, exponent, fraction, bits, exponentValue, fractionValue, -⟩
    have payload : exponent = -1#11 → fraction = 0#52 := by
      intro infinite
      have largest : exponentBits number = 2047 := by
        rw [exponentValue, infinite]
        rfl
      have fractionZero : fractionBits number = 0 := by
        refine Decidable.byContradiction fun nonzero => ?_
        rw [isNaN_iff.2 ⟨largest, nonzero⟩] at nan
        cases nan
      exact BitVec.eq_of_toNat_eq (fractionValue.symm.trans fractionZero)
    apply toBits_injective
    apply UInt64.eq_of_toBitVec_eq
    change UnpackedFloat.pack Format.binary64
      (UnpackedFloat.unpack Format.binary64 number.toBits.toBitVec) = number.toBits.toBitVec
    rw [bits]
    exact pack_unpack sign payload

theorem unpacked_injective {number other : Float} (same : unpacked number = unpacked other) :
    number = other := by
  rw [← pack_unpacked number, same, pack_unpacked]

/-- A number past the range is infinite. -/
def overflown : UnpackedFloat → UnpackedFloat
  | .finite sign mantissa exponent positive =>
    if 972 ≤ exponent then .infinity sign else .finite sign mantissa exponent positive
  | other => other

/-- Bits with an exponent between the least and the largest are a normal number. -/
private theorem unpack_normal (sign : Sign) {exponent : BitVec 11} {fraction : BitVec 52}
    (above : exponent.toNat ≠ 0) (below : exponent.toNat ≠ 2047) :
    UnpackedFloat.unpack Format.binary64 (packComponents Format.binary64 sign exponent fraction) =
      .finite sign (2 ^ 52 + fraction.toNat) (exponent.toNat - 1075) (by omega) := by
  have notLargest : exponent ≠ -1#11 := fun same => below (congrArg BitVec.toNat same)
  have notLeast : exponent ≠ 0#11 := fun same => above (congrArg BitVec.toNat same)
  unfold UnpackedFloat.unpack
  simp only [UnpackedFloat.unpackMantissa_packComponents,
    UnpackedFloat.unpackExponent_packComponents, unpackSign_packComponents, sign_ofBitVec,
    if_neg notLargest, if_neg notLeast]
  congr 1
  exact toNat_leading fraction

/-- Bits with the least exponent are a subnormal number. -/
private theorem unpack_subnormal (sign : Sign) {fraction : BitVec 52} (positive : 0 < fraction.toNat) :
    UnpackedFloat.unpack Format.binary64 (packComponents Format.binary64 sign 0#11 fraction) =
      .finite sign fraction.toNat (-1074) positive := by
  have nonzero : fraction ≠ 0#52 := fun same => by
    rw [same] at positive
    exact Nat.lt_irrefl 0 positive
  unfold UnpackedFloat.unpack
  simp only [UnpackedFloat.unpackMantissa_packComponents,
    UnpackedFloat.unpackExponent_packComponents, unpackSign_packComponents, sign_ofBitVec,
    if_neg (show ¬ (0#11 = -1#11) by decide), if_true, dif_neg nonzero]
  congr 1

/-- A full mantissa is packed without its leading bit, which is put back. -/
private theorem unpack_full (sign : Sign) {mantissa : Nat} {exponent : Int} (large : 2 ^ 52 ≤ mantissa)
    (short : mantissa < 2 ^ 53) (least : -1074 ≤ exponent) (below : exponent < 972) :
    UnpackedFloat.unpack Format.binary64 (packComponents Format.binary64 sign
        (BitVec.ofNat 11 (exponent + 1075).toNat) (BitVec.ofNat 52 mantissa)) =
      .finite sign mantissa exponent (by omega) := by
  have field : (BitVec.ofNat 11 (exponent + 1075).toNat).toNat = (exponent + 1075).toNat := by
    rw [BitVec.toNat_ofNat]
    omega
  have rest : (BitVec.ofNat 52 mantissa).toNat = mantissa - 2 ^ 52 := by
    rw [BitVec.toNat_ofNat]
    omega
  rw [unpack_normal sign (by rw [field]; omega) (by rw [field]; omega)]
  congr 1
  · rw [rest]
    omega
  · rw [field]
    omega

private theorem unpack_short (sign : Sign) {mantissa : Nat} (positive : 0 < mantissa)
    (small : mantissa < 2 ^ 52) :
    UnpackedFloat.unpack Format.binary64
        (packComponents Format.binary64 sign 0#11 (BitVec.ofNat 52 mantissa)) =
      .finite sign mantissa (-1074) positive := by
  have field : (BitVec.ofNat 52 mantissa).toNat = mantissa := by
    rw [BitVec.toNat_ofNat, Nat.mod_eq_of_lt small]
  rw [unpack_subnormal sign (by rw [field]; exact positive)]
  congr 1

/-- Taking apart what was packed gives it back within the range. -/
theorem unpack_pack {number : UnpackedFloat} (settled : IsSettled number) :
    (Float.Model.pack number).unpack = overflown number := by
  have bias : (Format.binary64.exponentBias : Int) = 1023 := rfl
  have width : Format.binary64.mantissaBits = 53 := rfl
  unfold Float.Model.unpack Float.Model.pack
  dsimp only
  cases number with
  | notANumber => rfl
  | infinity sign => cases sign <;> rfl
  | zero sign => cases sign <;> rfl
  | finite sign mantissa exponent positive =>
    have short := settled.short
    have least := settled.least
    have nonzero : mantissa ≠ 0 := Nat.ne_of_gt positive
    have biased : exponent + 1023 + (52 : Nat) = exponent + 1075 := by omega
    unfold overflown UnpackedFloat.pack
    simp only [bias, width, biased]
    by_cases past : 972 ≤ exponent
    · rw [if_pos past, if_pos (show 2 ^ 11 ≤ (exponent + 1075).toNat + 1 by omega)]
      cases sign <;> rfl
    · rw [if_neg past, if_neg (show ¬ 2 ^ 11 ≤ (exponent + 1075).toNat + 1 by omega)]
      by_cases large : 2 ^ 52 ≤ mantissa
      · have log := (Nat.le_log2 nonzero).2 large
        have bound := (Nat.log2_lt nonzero).2 short
        rw [if_pos (show mantissa.log2 + 1 = 53 by omega)]
        exact unpack_full sign large short least (by omega)
      · -- a subnormal number has the least exponent
        have small : mantissa < 2 ^ 52 := Nat.not_le.1 large
        have bound := (Nat.log2_lt nonzero).2 small
        have lowest : exponent = -1074 := settled.full.resolve_left large
        subst lowest
        rw [if_neg (show ¬ mantissa.log2 + 1 = 53 by omega)]
        exact unpack_short sign positive small

end Decimal
end Mosaic
