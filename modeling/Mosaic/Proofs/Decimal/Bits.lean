import Mathlib
import Mosaic.Decimal.Shortest

/-!
A binary number is fixed by its sixty-four bits: a sign, eleven bits of exponent
and fifty-two bits of fraction.  There is only one not-a-number, so a number is
read back from its bits whatever they are, and negation changes the sign bit and
nothing else.  The fields are used as natural numbers everywhere else; bit vectors
do not leave this module.
-/

namespace Mosaic
namespace Decimal

open Float.Model
open Float.Model.UnpackedFloat (Sign packComponents unpackSign unpackExponent unpackMantissa)

/-! ## Taking bits apart -/

theorem sign_toBitVec (bits : BitVec 1) : (Sign.ofBitVec bits).toBitVec = bits := by
  revert bits
  decide

theorem sign_ofBitVec (sign : Sign) : Sign.ofBitVec sign.toBitVec = sign := by
  cases sign <;> rfl

/-- The fields as a natural number. -/
private theorem toNat_packComponents (sign : Sign) (exponent : BitVec 11)
    (fraction : BitVec 52) :
    (packComponents Format.binary64 sign exponent fraction).toNat =
      sign.toBitVec.toNat * 2 ^ 63 + exponent.toNat * 2 ^ 52 + fraction.toNat := by
  unfold packComponents
  rw [BitVec.toNat_append, ← Nat.shiftLeft_add_eq_or_of_lt fraction.isLt, BitVec.toNat_append,
    ← Nat.shiftLeft_add_eq_or_of_lt exponent.isLt]
  simp only [Nat.shiftLeft_eq]
  omega

theorem unpackSign_packComponents (sign : Sign) (exponent : BitVec 11)
    (fraction : BitVec 52) :
    unpackSign (packComponents Format.binary64 sign exponent fraction) = sign.toBitVec := by
  apply BitVec.eq_of_toNat_eq
  change ((packComponents Format.binary64 sign exponent fraction).toNat >>> 63) % 2 = _
  rw [toNat_packComponents, Nat.shiftRight_eq_div_pow]
  have := sign.toBitVec.isLt
  have := exponent.isLt
  have := fraction.isLt
  omega

/-- Bits are put together again from their three fields. -/
private theorem packComponents_fields (bits : BitVec Format.binary64.numBits) :
    packComponents Format.binary64 (Sign.ofBitVec (unpackSign bits)) (unpackExponent bits)
      (unpackMantissa bits) = bits := by
  unfold packComponents
  rw [sign_toBitVec]
  apply BitVec.eq_of_getLsbD_eq
  intro index inside
  simp only [BitVec.getLsbD_append, unpackSign, unpackExponent, unpackMantissa,
    BitVec.getLsbD_cast, BitVec.getLsbD_extractLsb]
  by_cases low : index < 52
  · simp [low]
  · by_cases middle : index < 63
    · have field : index - 52 < 11 := by omega
      have place : 52 + (index - 52) = index := by omega
      simp [low, field, place]
    · have last : index = 63 := by
        have : index < 64 := inside
        omega
      subst last
      rfl

/-! ## Packing what was unpacked -/

/-- Packing takes an unpacked number back to its bits.  The only bits for which
this fails are those of a not-a-number with another payload. -/
theorem pack_unpack (sign : Sign) {exponent : BitVec 11} {fraction : BitVec 52}
    (number : exponent = -1#11 → fraction = 0#52) :
    UnpackedFloat.pack Format.binary64
        (UnpackedFloat.unpack Format.binary64
          (packComponents Format.binary64 sign exponent fraction)) =
      packComponents Format.binary64 sign exponent fraction := by
  have fractionBound := fraction.isLt
  have exponentBound := exponent.isLt
  have bias : (Format.binary64.exponentBias : Int) = 1023 := rfl
  have width : Format.binary64.mantissaBits = 53 := rfl
  unfold UnpackedFloat.unpack
  simp only [UnpackedFloat.unpackMantissa_packComponents,
    UnpackedFloat.unpackExponent_packComponents, unpackSign_packComponents, sign_ofBitVec]
  split
  · next infinite =>
    rw [number infinite, infinite]
    rfl
  · next finite =>
    have below : exponent.toNat ≠ 2047 := fun same => finite (BitVec.eq_of_toNat_eq same)
    split
    · next least =>
      subst least
      split
      · next zero =>
        subst zero
        rfl
      · next positive =>
        -- a subnormal number: its exponent is packed as one, and its mantissa is short
        have short : fraction.toNat.log2 + 1 ≠ Format.binary64.mantissaBits := by
          have nonzero : fraction.toNat ≠ 0 := fun same => positive (BitVec.eq_of_toNat_eq same)
          have := (Nat.log2_lt nonzero).2 fractionBound
          omega
        unfold UnpackedFloat.pack
        rw [if_neg (by decide), if_neg short]
        simp
    · next above =>
      have positive : exponent.toNat ≠ 0 := fun same => above (BitVec.eq_of_toNat_eq same)
      have leading : (1#1 ++ fraction).toNat = 2 ^ 52 + fraction.toNat := by
        rw [BitVec.toNat_append, ← Nat.shiftLeft_add_eq_or_of_lt fractionBound]
        rfl
      have full : (1#1 ++ fraction).toNat.log2 + 1 = Format.binary64.mantissaBits := by
        have lower := (Nat.le_log2 (n := (1#1 ++ fraction).toNat) (k := 52) (by omega)).2 (by omega)
        have upper := (Nat.log2_lt (n := (1#1 ++ fraction).toNat) (k := 53) (by omega)).2 (by omega)
        omega
      have biased : ((exponent.toNat : Int) - (1023 + (52 : Nat)) + 1023 + (52 : Nat)).toNat =
          exponent.toNat := by omega
      unfold UnpackedFloat.pack
      simp only [bias, biased]
      rw [if_neg (show ¬ 2 ^ 11 ≤ exponent.toNat + 1 by omega), if_pos full]
      congr 1
      · simp
      · apply BitVec.eq_of_toNat_eq
        rw [BitVec.toNat_ofNat, leading]
        omega

private theorem unpack_neg (sign : Sign) (exponent : BitVec 11) (fraction : BitVec 52) :
    (UnpackedFloat.unpack Format.binary64
        (packComponents Format.binary64 sign exponent fraction)).neg =
      UnpackedFloat.unpack Format.binary64
        (packComponents Format.binary64 (-sign) exponent fraction) := by
  unfold UnpackedFloat.unpack
  simp only [UnpackedFloat.unpackMantissa_packComponents,
    UnpackedFloat.unpackExponent_packComponents, unpackSign_packComponents, sign_ofBitVec]
  split
  · split <;> rfl
  · split
    · split <;> rfl
    · rfl

/-! ## Numbers and their fields -/

/-- The bits of a number but for its sign. -/
def unsignedBits (number : Float) : Nat :=
  exponentBits number * 2 ^ 52 + fractionBits number

theorem isNegative_iff {number : Float} :
    isNegative number = true ↔ 2 ^ 63 ≤ number.toBits.toNat :=
  decide_eq_true_iff

/-- The bit vectors behind the fields of a number. -/
theorem exists_fields (number : Float) :
    ∃ (sign : Sign) (exponent : BitVec 11) (fraction : BitVec 52),
      number.toBits.toBitVec = packComponents Format.binary64 sign exponent fraction ∧
        exponentBits number = exponent.toNat ∧ fractionBits number = fraction.toNat ∧
          sign = if isNegative number then .negative else .positive := by
  refine ⟨_, _, _, (packComponents_fields number.toBits.toBitVec).symm, ?_, ?_, ?_⟩
  · change number.toBits.toNat / 2 ^ 52 % 2 ^ 11 = (number.toBits.toNat >>> 52) % 2 ^ 11
    rw [Nat.shiftRight_eq_div_pow]
  · change number.toBits.toNat % 2 ^ 52 = (number.toBits.toNat >>> 0) % 2 ^ 52
    rw [Nat.shiftRight_zero]
  · have value : (@unpackSign Format.binary64 number.toBits.toBitVec).toNat =
        number.toBits.toNat / 2 ^ 63 := by
      change (number.toBits.toNat >>> 63) % 2 = _
      have := number.toBits.toNat_lt
      rw [Nat.shiftRight_eq_div_pow]
      omega
    have bound := number.toBits.toNat_lt
    unfold Sign.ofBitVec
    by_cases negative : isNegative number = true
    · have large := isNegative_iff.1 negative
      have set : @unpackSign Format.binary64 number.toBits.toBitVec ≠ 0#1 := fun zero => by
        rw [zero, BitVec.toNat_zero] at value
        omega
      rw [if_neg set, if_pos negative]
    · have small := mt isNegative_iff.2 negative
      have clear : @unpackSign Format.binary64 number.toBits.toBitVec = 0#1 := by
        apply BitVec.eq_of_toNat_eq
        rw [value, BitVec.toNat_zero]
        omega
      rw [if_pos clear, if_neg negative]

private theorem isNaN_eq (number : Float) :
    number.isNaN = (UnpackedFloat.unpack Format.binary64 number.toBits.toBitVec).isNaN := rfl

private theorem isInf_eq (number : Float) :
    number.isInf = (UnpackedFloat.unpack Format.binary64 number.toBits.toBitVec).isInf := rfl

/-- A number with the largest exponent is infinite if its fraction is zero, and
otherwise not a number.  All other numbers are finite. -/
private theorem unpack_kind (sign : Sign) (exponent : BitVec 11) (fraction : BitVec 52) :
    let unpacked := UnpackedFloat.unpack Format.binary64
      (packComponents Format.binary64 sign exponent fraction)
    (unpacked.isNaN = true ↔ exponent.toNat = 2047 ∧ fraction.toNat ≠ 0) ∧
      (unpacked.isInf = true ↔ exponent.toNat = 2047 ∧ fraction.toNat = 0) := by
  have largest : exponent = -1#11 ↔ exponent.toNat = 2047 := by
    rw [← BitVec.toNat_inj]
    rfl
  have none : fraction = 0#52 ↔ fraction.toNat = 0 := by
    rw [← BitVec.toNat_inj]
    rfl
  unfold UnpackedFloat.unpack
  simp only [UnpackedFloat.unpackMantissa_packComponents,
    UnpackedFloat.unpackExponent_packComponents]
  by_cases infinite : exponent.toNat = 2047
  · by_cases zero : fraction.toNat = 0
    · simp [largest.2 infinite, none.2 zero, UnpackedFloat.isNaN, UnpackedFloat.isInf]
    · have other : fraction ≠ 0#52 := fun same => zero (none.1 same)
      simp [largest.2 infinite, other, zero, UnpackedFloat.isNaN, UnpackedFloat.isInf]
  · have other : exponent ≠ -1#11 := fun same => infinite (largest.1 same)
    rw [if_neg other]
    split
    · split <;> simp [infinite, UnpackedFloat.isNaN, UnpackedFloat.isInf]
    · simp [infinite, UnpackedFloat.isNaN, UnpackedFloat.isInf]

theorem isNaN_iff {number : Float} :
    number.isNaN = true ↔ exponentBits number = 2047 ∧ fractionBits number ≠ 0 := by
  rcases exists_fields number with ⟨sign, exponent, fraction, bits, exponentValue, fractionValue, -⟩
  rw [isNaN_eq, bits, exponentValue, fractionValue]
  exact (unpack_kind sign exponent fraction).1

theorem isInf_iff {number : Float} :
    number.isInf = true ↔ exponentBits number = 2047 ∧ fractionBits number = 0 := by
  rcases exists_fields number with ⟨sign, exponent, fraction, bits, exponentValue, fractionValue, -⟩
  rw [isInf_eq, bits, exponentValue, fractionValue]
  exact (unpack_kind sign exponent fraction).2

theorem toBits_injective {number other : Float} (same : number.toBits = other.toBits) :
    number = other := by
  rcases number with ⟨⟨bits, valid⟩⟩
  rcases other with ⟨⟨otherBits, otherValid⟩⟩
  change bits = otherBits at same
  subst same
  rfl

/-- There is only one not-a-number. -/
theorem eq_nan {number : Float} (nan : number.isNaN = true) :
    number = Float.ofBits 0x7FF8000000000000 := by
  rcases exists_fields number with ⟨sign, exponent, fraction, bits, exponentValue, fractionValue, -⟩
  rw [isNaN_iff, exponentValue, fractionValue] at nan
  have packed : @unpackExponent Format.binary64 number.toBits.toBitVec = -1#11 →
      @unpackMantissa Format.binary64 number.toBits.toBitVec ≠ 0#52 →
        number.toBits.toBitVec = UnpackedFloat.packedNaN Format.binary64 :=
    number.toModel.valid.eq_packedNaN
  rw [bits, UnpackedFloat.unpackMantissa_packComponents,
    UnpackedFloat.unpackExponent_packComponents, ← bits] at packed
  have known : number.toBits = 0x7FF8000000000000 := UInt64.eq_of_toBitVec_eq
    (packed (BitVec.eq_of_toNat_eq nan.1) fun zero => nan.2 (congrArg BitVec.toNat zero))
  exact toBits_injective known

private theorem toBitVec_unsignedBits {number : Float} {exponent : BitVec 11}
    {fraction : BitVec 52} (exponentValue : exponentBits number = exponent.toNat)
    (fractionValue : fractionBits number = fraction.toNat) :
    (UInt64.ofNat (unsignedBits number)).toBitVec =
      packComponents Format.binary64 .positive exponent fraction := by
  apply BitVec.eq_of_toNat_eq
  have exponentBound := exponent.isLt
  have fractionBound := fraction.isLt
  have positive : Sign.positive.toBitVec.toNat = 0 := rfl
  rw [toNat_packComponents, positive, UInt64.toBitVec_ofNat', BitVec.toNat_ofNat]
  unfold unsignedBits
  rw [exponentValue, fractionValue]
  omega

/-- A number is the one with its fields and no sign, or the negative of that one. -/
theorem signed_ofBits {number : Float} (numeric : number.isNaN = false) :
    (if isNegative number then -Float.ofBits (UInt64.ofNat (unsignedBits number))
      else Float.ofBits (UInt64.ofNat (unsignedBits number))) = number := by
  rcases exists_fields number with
    ⟨sign, exponent, fraction, bits, exponentValue, fractionValue, signValue⟩
  have payload : exponent = -1#11 → fraction = 0#52 := by
    intro infinite
    have largest : exponentBits number = 2047 := by
      rw [exponentValue, infinite]
      rfl
    have fractionZero : fractionBits number = 0 := by
      refine Decidable.byContradiction fun nonzero => ?_
      rw [isNaN_iff.2 ⟨largest, nonzero⟩] at numeric
      cases numeric
    exact BitVec.eq_of_toNat_eq (fractionValue.symm.trans fractionZero)
  have unsigned := toBitVec_unsignedBits exponentValue fractionValue
  apply toBits_injective
  apply UInt64.eq_of_toBitVec_eq
  rw [bits, signValue]
  cases isNegative number with
  | false =>
    change UnpackedFloat.pack Format.binary64 (UnpackedFloat.unpack Format.binary64
      (UInt64.ofNat (unsignedBits number)).toBitVec) = _
    rw [unsigned]
    exact pack_unpack .positive payload
  | true =>
    change UnpackedFloat.pack Format.binary64 (UnpackedFloat.unpack Format.binary64
      (UnpackedFloat.pack Format.binary64 (UnpackedFloat.unpack Format.binary64
        (UInt64.ofNat (unsignedBits number)).toBitVec))).neg = _
    rw [unsigned, pack_unpack .positive payload, unpack_neg]
    exact pack_unpack .negative payload

end Decimal
end Mosaic
