import Mosaic.Proofs.Decimal.Unpacked

/-!
# Rounding

A mantissa that is too long is cut down to fifty-three bits, one bit after the other, and
two more bits say how what was cut off compares with half a unit of the last place.  They
suffice to find the nearest number, and to break a tie.  So what arithmetic makes of an
exact number is known without its bits: it is within half a unit, and the unit is settled
by the size of the number.
-/

namespace Mosaic
namespace Decimal

open Float.Model
open Float.Model.UnpackedFloat (Sign ExtendedMantissa Accuracy roundWithAccuracy
  shiftToTargetExponent shiftToExponent accuracyOfFraction)

/-- A mantissa with the bits that say where behind it the exact number lies. -/
structure Represents (exact : ℚ) (extended : ExtendedMantissa) : Prop where
  lower : (extended.mantissa : ℚ) ≤ exact
  upper : exact < extended.mantissa + 1
  round_iff : extended.roundBit = true ↔ extended.mantissa + 1 / 2 ≤ exact
  sticky_iff : extended.stickyBit = false ↔
    exact = extended.mantissa ∨ exact = extended.mantissa + 1 / 2

namespace Represents

variable {exact : ℚ} {extended : ExtendedMantissa}

/-- One more bit is cut off. -/
theorem shiftRightOne (represents : Represents exact extended) :
    Represents (exact / 2) extended.shiftRightOne := by
  rcases extended with ⟨mantissa, round, sticky⟩
  rcases represents with ⟨lower, upper, round_iff, sticky_iff⟩
  simp only at lower upper round_iff sticky_iff
  have exact_iff : (round || sticky) = false ↔ exact = mantissa := by
    rw [Bool.or_eq_false_iff, ← Bool.not_eq_true round, round_iff, sticky_iff]
    constructor
    · rintro ⟨below, whole | half⟩
      · exact whole
      · exact absurd half.ge below
    · intro whole
      exact ⟨by linarith, Or.inl whole⟩
  obtain ⟨half, rfl | rfl⟩ : ∃ half, mantissa = 2 * half ∨ mantissa = 2 * half + 1 :=
    ⟨mantissa / 2, by omega⟩
  · have quotient : 2 * half / 2 = half := by omega
    have bit : (2 * half % 2 != 0) = false := by simp
    push_cast at lower upper exact_iff
    constructor <;> simp only [ExtendedMantissa.shiftRightOne, quotient, bit]
    · linarith
    · linarith
    · exact iff_of_false Bool.false_ne_true (by linarith)
    · rw [exact_iff]
      constructor
      · intro whole
        left
        linarith
      · rintro (whole | rounded)
        · linarith
        · linarith
  · have quotient : (2 * half + 1) / 2 = half := by omega
    have bit : ((2 * half + 1) % 2 != 0) = true := by
      rw [Nat.mul_add_mod]
      rfl
    push_cast at lower upper exact_iff
    constructor <;> simp only [ExtendedMantissa.shiftRightOne, quotient, bit]
    · linarith
    · linarith
    · exact iff_of_true trivial (by linarith)
    · rw [exact_iff]
      constructor
      · intro whole
        right
        linarith
      · rintro (whole | rounded)
        · linarith
        · linarith

theorem shiftRight (represents : Represents exact extended) (shift : Nat) :
    Represents (exact / 2 ^ shift) (extended >>> shift) := by
  induction shift with
  | zero =>
    rw [pow_zero, div_one]
    exact represents
  | succ shift ih =>
    rw [pow_succ, ← div_div]
    exact ih.shiftRightOne

theorem nearest (represents : Represents exact extended) :
    |(extended.roundedMantissa : ℚ) - exact| ≤ 1 / 2 := by
  rcases extended with ⟨mantissa, round, sticky⟩
  rcases represents with ⟨lower, upper, round_iff, sticky_iff⟩
  simp only at lower upper round_iff sticky_iff
  rw [abs_le]
  cases round with
  | false =>
    have below : exact < mantissa + 1 / 2 := not_le.1 fun above => nomatch round_iff.2 above
    have kept : (ExtendedMantissa.mk mantissa false sticky).roundedMantissa = mantissa := by
      cases sticky <;> rfl
    rw [kept]
    constructor <;> linarith
  | true =>
    have above := round_iff.1 rfl
    cases sticky with
    | true =>
      change _ ≤ ((mantissa + 1 : ℕ) : ℚ) - exact ∧ ((mantissa + 1 : ℕ) : ℚ) - exact ≤ _
      push_cast
      constructor <;> linarith
    | false =>
      -- a tie goes to the even one
      have half : exact = mantissa + 1 / 2 := (sticky_iff.1 rfl).resolve_left (by linarith)
      change _ ≤ ((mantissa + mantissa % 2 : ℕ) : ℚ) - exact ∧
        ((mantissa + mantissa % 2 : ℕ) : ℚ) - exact ≤ _
      rcases Nat.mod_two_eq_zero_or_one mantissa with even | odd
      · rw [even, half]
        push_cast
        constructor <;> linarith
      · rw [odd, half]
        push_cast
        constructor <;> linarith

theorem whole (mantissa : Nat) :
    Represents mantissa (ExtendedMantissa.ofMantissaAndAccuracy mantissa .exact) := by
  constructor <;> simp [ExtendedMantissa.ofMantissaAndAccuracy]

/-- A remainder is compared with the half of what was divided by. -/
theorem fraction (mantissa : Nat) {rest divisor : Nat} (proper : rest < divisor) :
    Represents (mantissa + (rest : ℚ) / divisor)
      (ExtendedMantissa.ofMantissaAndAccuracy mantissa (accuracyOfFraction rest divisor)) := by
  have positive : (0 : ℚ) < divisor := by
    exact_mod_cast Nat.zero_lt_of_lt proper
  have above : (0 : ℚ) ≤ (rest : ℚ) / divisor := by positivity
  have below : (rest : ℚ) / divisor < 1 := by
    rw [div_lt_one positive]
    exact_mod_cast proper
  unfold accuracyOfFraction
  split
  · next none =>
    rw [none, Nat.cast_zero, zero_div, add_zero]
    exact whole mantissa
  · next some =>
    have strict : (0 : ℚ) < (rest : ℚ) / divisor := by
      have : (0 : ℚ) < rest := by exact_mod_cast Nat.pos_of_ne_zero some
      positivity
    have twice : (rest : ℚ) / divisor = (2 * rest : ℕ) / divisor / 2 := by
      push_cast
      ring
    cases compared : compare (2 * rest) divisor with
    | lt =>
      have less : ((2 * rest : ℕ) : ℚ) / divisor < 1 := by
        rw [div_lt_one positive]
        exact_mod_cast Nat.compare_eq_lt.1 compared
      constructor <;> simp only [ExtendedMantissa.ofMantissaAndAccuracy]
      · linarith
      · linarith
      · exact iff_of_false Bool.false_ne_true (by linarith)
      · refine iff_of_false Bool.noConfusion ?_
        rintro (same | same) <;> linarith
    | eq =>
      have same : ((2 * rest : ℕ) : ℚ) / divisor = 1 := by
        rw [Nat.compare_eq_eq.1 compared, div_self positive.ne']
      constructor <;> simp only [ExtendedMantissa.ofMantissaAndAccuracy]
      · linarith
      · linarith
      · exact iff_of_true trivial (by linarith)
      · exact iff_of_true trivial (Or.inr (by linarith))
    | gt =>
      have more : 1 < ((2 * rest : ℕ) : ℚ) / divisor := by
        rw [one_lt_div positive]
        exact_mod_cast Nat.compare_eq_gt.1 compared
      constructor <;> simp only [ExtendedMantissa.ofMantissaAndAccuracy]
      · linarith
      · linarith
      · exact iff_of_true trivial (by linarith)
      · refine iff_of_false Bool.noConfusion ?_
        rintro (same | same) <;> linarith

end Represents

/-! ## Mantissas that fit -/

/-- Cutting off zeros is exact. -/
theorem shiftRight_scaled (mantissa shift : Nat) :
    ExtendedMantissa.ofMantissaAndAccuracy (mantissa * 2 ^ shift) .exact >>> shift =
      ExtendedMantissa.ofMantissaAndAccuracy mantissa .exact := by
  induction shift generalizing mantissa with
  | zero =>
    rw [Nat.pow_zero, Nat.mul_one]
    rfl
  | succ shift ih =>
    have twice : mantissa * 2 ^ (shift + 1) = mantissa * 2 * 2 ^ shift := by
      rw [Nat.pow_succ]
      ring
    change (ExtendedMantissa.ofMantissaAndAccuracy (mantissa * 2 ^ (shift + 1)) .exact >>>
      shift).shiftRightOne = _
    rw [twice, ih]
    unfold ExtendedMantissa.ofMantissaAndAccuracy ExtendedMantissa.shiftRightOne
    dsimp only
    rw [Nat.mul_div_cancel _ (by decide : 0 < 2), Nat.mul_mod_left]
    rfl

/-- The exponent that a number of this size is settled with. -/
theorem targetExponent_eq (mantissa : Nat) (exponent : Int) :
    Format.binary64.targetExponent (totalExponent mantissa exponent) =
      max ((mantissa.log2 : Int) + exponent - 52) (-1074) := by
  change max ((mantissa.log2 : Int) + 1 + exponent - 53) (-1074) = _
  congr 1
  omega

theorem Settled.target_eq {mantissa : Nat} {exponent : Int} (settled : Settled mantissa exponent)
    (positive : 0 < mantissa) :
    Format.binary64.targetExponent (totalExponent mantissa exponent) = exponent := by
  have nonzero : mantissa ≠ 0 := Nat.ne_of_gt positive
  have upper := (Nat.log2_lt nonzero).2 settled.short
  have least := settled.least
  rw [targetExponent_eq]
  rcases settled.full with large | lowest
  · have lower := (Nat.le_log2 nonzero).2 large
    omega
  · omega

/-- A settled number keeps its mantissa when it is settled once more. -/
theorem shift_settled {mantissa : Nat} {exponent : Int} (settled : Settled mantissa exponent)
    (positive : 0 < mantissa) :
    shiftToTargetExponent Format.binary64 mantissa exponent .exact =
      (ExtendedMantissa.ofMantissaAndAccuracy mantissa .exact, exponent) := by
  unfold shiftToTargetExponent shiftToExponent
  rw [settled.target_eq positive]
  dsimp only
  rw [Int.sub_self]
  change (_, exponent + ((0 : Nat) : Int)) = _
  rw [Int.natCast_zero, Int.add_zero]
  rfl

/-- A mantissa that was rounded up to the next power of two moves the exponent on. -/
private theorem shift_carry {target : Int} (least : -1074 ≤ target) :
    shiftToTargetExponent Format.binary64 (2 ^ 53) target .exact =
      (ExtendedMantissa.ofMantissaAndAccuracy (2 ^ 52) .exact, target + 1) := by
  have next : (max (((53 : Nat) : Int) + target - 52) (-1074) - target).toNat = 1 := by omega
  unfold shiftToTargetExponent shiftToExponent
  rw [targetExponent_eq, Nat.log2_two_pow]
  dsimp only
  rw [next]
  exact congrArg (·, target + 1) (shiftRight_scaled (2 ^ 52) 1)

/-! ## The nearest number -/

/-- The number that a mantissa of up to fifty-three bits stands for.  A full mantissa that was
rounded up stands for the next power of two. -/
inductive Rounded (sign : Sign) (target : Int) : Nat → UnpackedFloat → Prop
  | zero : Rounded sign target 0 (.zero sign)
  | settled {mantissa : Nat} (positive : 0 < mantissa) (settled : Settled mantissa target) :
      Rounded sign target mantissa (.finite sign mantissa target positive)
  | carry : Rounded sign target (2 ^ 53) (.finite sign (2 ^ 52) (target + 1) (by decide))

/-- The result of rounding an exact number, which is not negative, in units of `2 ^ target`. -/
structure RoundsTo (sign : Sign) (target : Int) (exact : ℚ) (result : UnpackedFloat) : Prop where
  least : -1074 ≤ target
  below : exact < 2 ^ (target + 53)
  above : target = -1074 ∨ 2 ^ (target + 52) ≤ exact
  nearest : ∃ mantissa : Nat, Rounded sign target mantissa result ∧
    |mantissa * 2 ^ target - exact| ≤ 2 ^ target / 2

/-- A mantissa with enough bits tells in which units the number is rounded. -/
private theorem Represents.bounds {mantissa : Nat} {exponent target : Int} {accuracy : Accuracy}
    {exact : ℚ}
    (represents : Represents exact (ExtendedMantissa.ofMantissaAndAccuracy mantissa accuracy))
    (long : 52 ≤ mantissa.log2 ∨ exponent ≤ -1074)
    (chosen : max ((mantissa.log2 : Int) + exponent - 52) (-1074) = target) :
    exact * 2 ^ exponent < 2 ^ (target + 53) ∧
      (target = -1074 ∨ 2 ^ (target + 52) ≤ exact * 2 ^ exponent) := by
  have own : (ExtendedMantissa.ofMantissaAndAccuracy mantissa accuracy).mantissa = mantissa := by
    rcases accuracy with _ | (_ | _ | _) <;> rfl
  have lower := represents.lower
  have upper := represents.upper
  rw [own] at lower upper
  have unit : (0 : ℚ) < 2 ^ exponent := by positivity
  constructor
  · have size : ((mantissa + 1 : ℕ) : ℚ) ≤ 2 ^ (mantissa.log2 + 1) := by
      exact_mod_cast (Nat.lt_log2_self : mantissa < 2 ^ (mantissa.log2 + 1))
    push_cast at size
    calc exact * 2 ^ exponent < 2 ^ (mantissa.log2 + 1) * 2 ^ exponent :=
          mul_lt_mul_of_pos_right (upper.trans_le size) unit
      _ = 2 ^ (((mantissa.log2 + 1 : ℕ) : ℤ) + exponent) := by
          rw [zpow_add₀ two_ne_zero, zpow_natCast]
      _ ≤ 2 ^ (target + 53) := zpow_le_zpow_right₀ (by norm_num) (by omega)
  · by_cases lowest : target = -1074
    · exact Or.inl lowest
    · right
      have nonzero : mantissa ≠ 0 := by
        rintro rfl
        rw [Nat.log2_zero] at chosen long
        omega
      have size : (2 : ℚ) ^ mantissa.log2 ≤ mantissa := by
        exact_mod_cast Nat.log2_self_le nonzero
      calc (2 : ℚ) ^ (target + 52) = 2 ^ ((mantissa.log2 : ℤ) + exponent) := by
            congr 1
            omega
        _ = 2 ^ mantissa.log2 * 2 ^ exponent := by rw [zpow_add₀ two_ne_zero, zpow_natCast]
        _ ≤ exact * 2 ^ exponent := mul_le_mul_of_nonneg_right (size.trans lower) unit.le

/-- A mantissa that was cut and rounded is settled, once its last carry is moved on. -/
private theorem rounded_of_cut {mantissa : Nat} {exponent target : Int} {accuracy : Accuracy}
    {cut : ExtendedMantissa} (sign : Sign)
    (first : shiftToTargetExponent Format.binary64 mantissa exponent accuracy = (cut, target))
    (least : -1074 ≤ target) (short : cut.roundedMantissa ≤ 2 ^ 53)
    (full : 2 ^ 52 ≤ cut.roundedMantissa ∨ target = -1074) :
    Rounded sign target cut.roundedMantissa
      (roundWithAccuracy Format.binary64 sign mantissa exponent accuracy) := by
  unfold roundWithAccuracy
  rw [first]
  dsimp only
  generalize cut.roundedMantissa = rounded at short full
  rcases Nat.lt_or_eq_of_le short with fits | carried
  · by_cases none : rounded = 0
    · subst none
      have again : (shiftToTargetExponent Format.binary64 0 target .exact).1.mantissa = 0 := by
        have lower := ((Represents.whole 0).shiftRight
          (Format.binary64.targetExponent (totalExponent 0 target) - target).toNat).lower
        rw [Nat.cast_zero, zero_div] at lower
        exact Nat.le_zero.1 (by exact_mod_cast lower)
      rw [dif_pos again]
      exact .zero
    · have some : 0 < rounded := Nat.pos_of_ne_zero none
      have settled : Settled rounded target := ⟨fits, least, full⟩
      have kept : (ExtendedMantissa.ofMantissaAndAccuracy rounded .exact).mantissa = rounded := rfl
      simp only [shift_settled settled some, kept, dif_neg none]
      exact .settled some settled
  · subst carried
    simp only [shift_carry least]
    exact .carry

/-- A number with enough bits is rounded to the nearest one. -/
theorem round_nearest {mantissa : Nat} {exponent : Int} {accuracy : Accuracy} {exact : ℚ}
    (represents : Represents exact (ExtendedMantissa.ofMantissaAndAccuracy mantissa accuracy))
    (long : 52 ≤ mantissa.log2 ∨ exponent ≤ -1074) (sign : Sign) :
    RoundsTo sign (max ((mantissa.log2 : Int) + exponent - 52) (-1074)) (exact * 2 ^ exponent)
      (roundWithAccuracy Format.binary64 sign mantissa exponent accuracy) := by
  generalize chosen : max ((mantissa.log2 : Int) + exponent - 52) (-1074) = target
  generalize distance : (target - exponent).toNat = shift
  rcases represents.bounds long chosen with ⟨below, above⟩
  have least : -1074 ≤ target := by omega
  have place : exponent + (shift : Int) = target := by omega
  have power : (0 : ℚ) < 2 ^ target := by positivity
  have whole : exact * 2 ^ exponent = exact / 2 ^ shift * 2 ^ target := by
    rw [← place, zpow_add₀ two_ne_zero, zpow_natCast]
    field_simp
  -- the mantissa that is left
  let cut := ExtendedMantissa.ofMantissaAndAccuracy mantissa accuracy >>> shift
  have first : shiftToTargetExponent Format.binary64 mantissa exponent accuracy =
      (cut, target) := by
    unfold shiftToTargetExponent shiftToExponent
    rw [targetExponent_eq, chosen]
    dsimp only
    rw [distance, place]
  have nearest : |(cut.roundedMantissa : ℚ) - exact / 2 ^ shift| ≤ 1 / 2 :=
    (represents.shiftRight shift).nearest
  refine ⟨least, below, above, cut.roundedMantissa, ?_, ?_⟩
  · rw [whole, zpow_add₀ two_ne_zero, mul_comm, mul_lt_mul_iff_right₀ power] at below
    rw [whole, zpow_add₀ two_ne_zero, mul_comm _ ((2 : ℚ) ^ target),
      mul_le_mul_iff_right₀ power] at above
    rw [abs_le] at nearest
    norm_num at below above
    apply rounded_of_cut sign first least
    · have : (cut.roundedMantissa : ℚ) < (2 ^ 53 + 1 : ℕ) := by
        push_cast
        linarith
      exact Nat.le_of_lt_succ (by exact_mod_cast this)
    · rcases above with lowest | large
      · exact Or.inr lowest
      · left
        have : ((2 ^ 52 : ℕ) : ℚ) < (cut.roundedMantissa + 1 : ℕ) := by
          push_cast
          linarith
        exact Nat.le_of_lt_succ (by exact_mod_cast this)
  · have apart : (cut.roundedMantissa : ℚ) * 2 ^ target - exact / 2 ^ shift * 2 ^ target =
        (cut.roundedMantissa - exact / 2 ^ shift) * 2 ^ target := by ring
    rw [whole, apart, abs_mul, abs_of_pos power]
    calc _ ≤ 1 / 2 * (2 : ℚ) ^ target := mul_le_mul_of_nonneg_right nearest power.le
      _ = 2 ^ target / 2 := by ring

end Decimal
end Mosaic
