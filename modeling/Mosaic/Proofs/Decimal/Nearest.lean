import Mathlib
import Mosaic.Decimal.Nearest
import Mosaic.Decimal.Shortest

/-!
# Nearest binary numbers

The rationals that round to a binary number form an interval around it, whose
ends belong to it exactly when the mantissa is even.  Every quotient in the
interval is rounded to the bits of that number, whichever numerator and
denominator it is written with.  This covers the boundary above a power of two,
where the interval reaches only half as far down as up, and the subnormal
numbers, whose mantissa is short.
-/

namespace Mosaic
namespace Decimal

/-! ## Powers with integer exponents -/

theorem zpow_eq_div (base : Nat) (positive : 0 < base) (exponent : Int) :
    (base : ℚ) ^ exponent =
      ((base ^ exponent.toNat : Nat) : ℚ) / ((base ^ (-exponent).toNat : Nat) : ℚ) := by
  have nonzero : (base : ℚ) ≠ 0 := by positivity
  rcases Int.le_total 0 exponent with up | down
  · rcases Int.eq_ofNat_of_zero_le up with ⟨power, rfl⟩
    have none : (-(power : Int)).toNat = 0 := by omega
    rw [none]
    simp
  · rcases Int.eq_ofNat_of_zero_le (Int.neg_nonneg_of_nonpos down) with ⟨power, same⟩
    have opposite : exponent = -(power : Int) := by omega
    subst opposite
    have none : (-(power : Int)).toNat = 0 := by omega
    rw [none]
    simp

/-- Comparing a quotient with a power, with the denominators cleared. -/
theorem div_lt_zpow_iff (base : Nat) (positive : 0 < base) {numerator denominator : Nat}
    (below : 0 < denominator) (exponent : Int) :
    (numerator : ℚ) / denominator < (base : ℚ) ^ exponent ↔
      numerator * base ^ (-exponent).toNat < denominator * base ^ exponent.toNat := by
  have clear : (0 : ℚ) < denominator := by exact_mod_cast below
  have scale : (0 : ℚ) < ((base ^ (-exponent).toNat : Nat) : ℚ) := by positivity
  rw [zpow_eq_div base positive, div_lt_div_iff₀ clear scale,
    mul_comm ((base ^ exponent.toNat : Nat) : ℚ)]
  exact_mod_cast Iff.rfl

/-- The leading place of a positive quotient is the one it is named for. -/
theorem leadingPlace_spec {numerator denominator : Nat} (above : 0 < numerator)
    (below : 0 < denominator) :
    (2 : ℚ) ^ leadingPlace numerator denominator ≤ (numerator : ℚ) / denominator ∧
      (numerator : ℚ) / denominator < 2 ^ (leadingPlace numerator denominator + 1) := by
  have clear : (0 : ℚ) < denominator := by exact_mod_cast below
  have numeratorLower : ((2 : ℚ) ^ numerator.log2) ≤ numerator := by
    exact_mod_cast Nat.log2_self_le (Nat.ne_of_gt above)
  have numeratorUpper : (numerator : ℚ) < 2 ^ (numerator.log2 + 1) := by
    exact_mod_cast Nat.lt_log2_self
  have denominatorLower : ((2 : ℚ) ^ denominator.log2) ≤ denominator := by
    exact_mod_cast Nat.log2_self_le (Nat.ne_of_gt below)
  have denominatorUpper : (denominator : ℚ) < 2 ^ (denominator.log2 + 1) := by
    exact_mod_cast Nat.lt_log2_self
  set place : Int := (numerator.log2 : Int) - denominator.log2 with named
  have lower : (2 : ℚ) ^ (place - 1) ≤ numerator / denominator := by
    rw [le_div_iff₀ clear]
    calc (2 : ℚ) ^ (place - 1) * denominator
        ≤ 2 ^ (place - 1) * 2 ^ (denominator.log2 + 1) := by gcongr
      _ = 2 ^ numerator.log2 := by
        rw [← zpow_natCast, ← zpow_add₀ (by norm_num), ← zpow_natCast]
        congr 1
        push_cast
        omega
      _ ≤ numerator := numeratorLower
  have upper : (numerator : ℚ) / denominator < 2 ^ (place + 1) := by
    rw [div_lt_iff₀ clear]
    calc (numerator : ℚ) < 2 ^ (numerator.log2 + 1) := numeratorUpper
      _ = 2 ^ (place + 1) * 2 ^ denominator.log2 := by
        rw [← zpow_natCast, ← zpow_natCast, ← zpow_add₀ (by norm_num)]
        congr 1
        push_cast
        omega
      _ ≤ 2 ^ (place + 1) * denominator := by gcongr
  unfold leadingPlace
  simp only [← named]
  split
  · next small =>
    refine ⟨lower, ?_⟩
    rw [Int.sub_add_cancel]
    exact_mod_cast (div_lt_zpow_iff 2 (by decide) below place).2 small
  · next large =>
    refine ⟨not_lt.1 fun less => large ?_, upper⟩
    exact (div_lt_zpow_iff 2 (by decide) below place).1 (by exact_mod_cast less)

/-! ## Rounding a quotient -/

/-- A quotient within half a unit of a natural number is rounded to it; on the
edge only if the number is even. -/
theorem roundedQuotient_eq {numerator denominator nearby : Nat} (positive : 0 < denominator)
    (lower : 2 * nearby * denominator ≤ 2 * numerator + denominator)
    (upper : 2 * numerator ≤ 2 * nearby * denominator + denominator)
    (edge : nearby % 2 = 1 → 2 * nearby * denominator < 2 * numerator + denominator ∧
      2 * numerator < 2 * nearby * denominator + denominator) :
    roundedQuotient numerator denominator = nearby := by
  have whole := Nat.div_add_mod numerator denominator
  have small := Nat.mod_lt numerator positive
  unfold roundedQuotient
  generalize numerator / denominator = below at *
  generalize numerator % denominator = rest at *
  subst whole
  have notAbove : nearby ≤ below + 1 := by
    by_contra far
    have : 2 * (below + 2) * denominator ≤ 2 * nearby * denominator := by
      gcongr
      omega
    linarith
  have notBelow : below ≤ nearby := by
    by_contra far
    have : 2 * (nearby + 1) * denominator ≤ 2 * below * denominator := by
      gcongr
      omega
    linarith
  rcases Nat.eq_or_lt_of_le notBelow with same | less
  · subst same
    have half : 2 * rest ≤ denominator := by linarith
    by_cases odd : below % 2 = 1
    · have strict : 2 * rest < denominator := by linarith [(edge odd).2]
      simp [strict]
    · rcases Nat.eq_or_lt_of_le half with tie | strict
      · simp [tie]
        omega
      · simp [strict]
  · have next : nearby = below + 1 := by omega
    subst next
    have half : denominator ≤ 2 * rest := by linarith
    by_cases odd : (below + 1) % 2 = 1
    · have strict : denominator < 2 * rest := by linarith [(edge odd).1]
      simp [strict, Nat.not_lt.2 half]
    · rcases Nat.eq_or_lt_of_le half with tie | strict
      · simp [← tie]
        omega
      · simp [strict, Nat.not_lt.2 half]

/-- Dividing by a power of two, with natural numbers only. -/
private theorem div_scaled {numerator denominator : Nat} (place : Int) :
    (numerator : ℚ) / denominator =
      ((numerator * 2 ^ (-place).toNat : Nat) : ℚ) / ((denominator * 2 ^ place.toNat : Nat) : ℚ) *
        2 ^ place := by
  have power := zpow_eq_div 2 (by decide) place
  rw [Nat.cast_ofNat] at power
  rw [power]
  push_cast
  field_simp

/-- A quotient within half a unit of the last place is rounded to it. -/
theorem roundedQuotient_place {numerator denominator nearby : Nat} (positive : 0 < denominator)
    {place : Int}
    (lower : ((nearby : ℚ) - 1 / 2) * 2 ^ place ≤ (numerator : ℚ) / denominator)
    (upper : (numerator : ℚ) / denominator ≤ ((nearby : ℚ) + 1 / 2) * 2 ^ place)
    (edge : nearby % 2 = 1 → ((nearby : ℚ) - 1 / 2) * 2 ^ place < (numerator : ℚ) / denominator ∧
      (numerator : ℚ) / denominator < ((nearby : ℚ) + 1 / 2) * 2 ^ place) :
    roundedQuotient (numerator * 2 ^ (-place).toNat) (denominator * 2 ^ place.toNat) = nearby := by
  have unit : (0 : ℚ) < 2 ^ place := by positivity
  have scaled : 0 < denominator * 2 ^ place.toNat := by positivity
  rw [div_scaled place] at lower upper edge
  generalize numerator * 2 ^ (-place).toNat = above at *
  generalize denominator * 2 ^ place.toNat = below at *
  have clear : (0 : ℚ) < below := by exact_mod_cast scaled
  rw [mul_le_mul_iff_left₀ unit, le_div_iff₀ clear] at lower
  rw [mul_le_mul_iff_left₀ unit, div_le_iff₀ clear] at upper
  apply roundedQuotient_eq scaled
  · have : 2 * (nearby : ℚ) * below ≤ 2 * above + below := by linarith
    exact_mod_cast this
  · have : 2 * (above : ℚ) ≤ 2 * nearby * below + below := by linarith
    exact_mod_cast this
  · intro odd
    rcases edge odd with ⟨strictLower, strictUpper⟩
    rw [mul_lt_mul_iff_left₀ unit, lt_div_iff₀ clear] at strictLower
    rw [mul_lt_mul_iff_left₀ unit, div_lt_iff₀ clear] at strictUpper
    constructor
    · have : 2 * (nearby : ℚ) * below < 2 * above + below := by linarith
      exact_mod_cast this
    · have : 2 * (above : ℚ) < 2 * nearby * below + below := by linarith
      exact_mod_cast this

/-- The last place is settled by the two powers of two around the quotient. -/
theorem lastPlace_eq {numerator denominator : Nat} (above : 0 < numerator)
    (below : 0 < denominator) {place : Int} (least : -1074 ≤ place)
    (lower : place = -1074 ∨ (2 : ℚ) ^ (place + 52) ≤ (numerator : ℚ) / denominator)
    (upper : (numerator : ℚ) / denominator < 2 ^ (place + 53)) :
    lastPlace numerator denominator = place := by
  rcases leadingPlace_spec above below with ⟨leads, bounded⟩
  have notAbove : leadingPlace numerator denominator < place + 53 :=
    (zpow_lt_zpow_iff_right₀ (by norm_num)).1 (lt_of_le_of_lt leads upper)
  unfold lastPlace
  rcases lower with subnormal | reached
  · omega
  · have notBelow : place + 52 < leadingPlace numerator denominator + 1 :=
      (zpow_lt_zpow_iff_right₀ (by norm_num)).1 (lt_of_le_of_lt reached bounded)
    omega

theorem infinityBits_eq : infinityBits = 2047 * 2 ^ 52 :=
  rfl

private theorem nearestBits_eq_min (numerator denominator : Nat) :
    nearestBits numerator denominator =
      min ((lastPlace numerator denominator + 1074).toNat * 2 ^ 52 +
          roundedQuotient (numerator * 2 ^ (-lastPlace numerator denominator).toNat)
            (denominator * 2 ^ (lastPlace numerator denominator).toNat)) infinityBits :=
  rfl

/-! ## The interval around a number -/

namespace Dyadic

def value (number : Dyadic) : ℚ :=
  number.mantissa * 2 ^ number.exponent

/-- Where the interval of what rounds to the number begins. -/
def lowerEnd (number : Dyadic) : ℚ :=
  number.lowerQuarters * 2 ^ (number.exponent - 2)

/-- Where the interval ends. -/
def upperEnd (number : Dyadic) : ℚ :=
  number.upperQuarters * 2 ^ (number.exponent - 2)

/-- Does a rational round to the number?  The ends of the interval belong to it
exactly when the mantissa is even. -/
def Attracts (number : Dyadic) (near : ℚ) : Prop :=
  number.lowerEnd ≤ near ∧ near ≤ number.upperEnd ∧
    (number.mantissa % 2 = 1 → number.lowerEnd < near ∧ near < number.upperEnd)

/-- The finite positive numbers of sixty-four bits.  Only those with the least
exponent may have a short mantissa. -/
structure Representable (number : Dyadic) : Prop where
  positive : 0 < number.mantissa
  mantissa_lt : number.mantissa < 2 ^ 53
  exponent_ge : -1074 ≤ number.exponent
  exponent_le : number.exponent ≤ 971
  full : number.exponent = -1074 ∨ 2 ^ 52 ≤ number.mantissa

def bits (number : Dyadic) : Nat :=
  (number.exponent + 1074).toNat * 2 ^ 52 + number.mantissa

variable {number : Dyadic} {near : ℚ}

private theorem zpow_shift (exponent : Int) (places : Nat) :
    (2 : ℚ) ^ (exponent + places) = 2 ^ places * 2 ^ exponent := by
  rw [zpow_add₀ (by norm_num), zpow_natCast, mul_comm]

theorem quarter_place (exponent : Int) : (2 : ℚ) ^ (exponent - 2) = 2 ^ exponent / 4 := by
  rw [zpow_sub₀ (by norm_num)]
  norm_num

theorem upperEnd_eq (number : Dyadic) :
    number.upperEnd = (number.mantissa + 1 / 2) * 2 ^ number.exponent := by
  unfold upperEnd upperQuarters
  rw [quarter_place]
  push_cast
  ring

theorem gapHalvesBelow_iff :
    number.gapHalvesBelow = true ↔ number.mantissa = 2 ^ 52 ∧ number.exponent ≠ -1074 := by
  unfold gapHalvesBelow
  rw [Bool.and_eq_true, decide_eq_true_iff, decide_eq_true_iff]
  rfl

/-- The interval reaches half a unit down, or a quarter above a power of two. -/
theorem lowerEnd_eq (positive : 0 < number.mantissa) :
    number.lowerEnd =
      (number.mantissa - if number.gapHalvesBelow then 1 / 4 else 1 / 2) *
        2 ^ number.exponent := by
  unfold lowerEnd lowerQuarters
  rw [quarter_place]
  split
  · rw [Nat.cast_sub (by omega)]
    push_cast
    ring
  · rw [Nat.cast_sub (by omega)]
    push_cast
    ring

/-- What lies strictly inside the interval rounds to the number. -/
theorem attracts_of_lt (lower : number.lowerEnd < near) (upper : near < number.upperEnd) :
    number.Attracts near :=
  ⟨le_of_lt lower, le_of_lt upper, fun _ => ⟨lower, upper⟩⟩

theorem value_lt_upperEnd (number : Dyadic) : number.value < number.upperEnd := by
  have unit : (0 : ℚ) < 2 ^ number.exponent := by positivity
  rw [upperEnd_eq]
  unfold value
  gcongr
  linarith

theorem lowerEnd_lt_value (positive : 0 < number.mantissa) : number.lowerEnd < number.value := by
  have unit : (0 : ℚ) < 2 ^ number.exponent := by positivity
  rw [lowerEnd_eq positive]
  unfold value
  gcongr
  split <;> linarith

/-- Nothing that rounds to a number reaches the next power of two: its mantissa
would have to be odd. -/
theorem Attracts.lt_zpow (attracted : number.Attracts near)
    (representable : number.Representable) : near < 2 ^ (number.exponent + 53) := by
  rcases attracted with ⟨-, upper, edge⟩
  have unit : (0 : ℚ) < 2 ^ number.exponent := by positivity
  have limit : (2 : ℚ) ^ (number.exponent + 53) = 2 ^ 53 * 2 ^ number.exponent :=
    zpow_shift number.exponent 53
  rw [upperEnd_eq] at upper edge
  rw [limit]
  have bound := representable.mantissa_lt
  rcases Nat.lt_or_ge number.mantissa (2 ^ 53 - 1) with smaller | largest
  · have room : (number.mantissa : ℚ) + 1 / 2 < 2 ^ 53 := by
      have : number.mantissa + 1 < 2 ^ 53 := by omega
      have : (number.mantissa : ℚ) + 1 < 2 ^ 53 := by exact_mod_cast this
      linarith
    exact lt_of_le_of_lt upper (by gcongr)
  · have last : number.mantissa = 2 ^ 53 - 1 := by omega
    have strict := (edge (by omega)).2
    refine lt_trans strict ?_
    rw [last]
    gcongr
    norm_num

/-- A number is within the interval that rounds to it, so that is not empty. -/
theorem Attracts.pos (attracted : number.Attracts near)
    (representable : number.Representable) : 0 < near := by
  have positive := representable.positive
  have unit : (0 : ℚ) < 2 ^ number.exponent := by positivity
  have least : (1 : ℚ) ≤ number.mantissa := by exact_mod_cast positive
  refine lt_of_lt_of_le ?_ attracted.1
  rw [lowerEnd_eq positive]
  split <;> apply mul_pos _ unit <;> linarith

private theorem nearestBits_of_place {numerator denominator : Nat} {place : Int} {mantissa : Nat}
    (place_eq : lastPlace numerator denominator = place)
    (rounded : roundedQuotient (numerator * 2 ^ (-place).toNat) (denominator * 2 ^ place.toNat) =
      mantissa)
    (bits_eq : (place + 1074).toNat * 2 ^ 52 + mantissa = number.bits)
    (representable : number.Representable) :
    nearestBits numerator denominator = number.bits := by
  have finite : number.bits < infinityBits := by
    have := representable.mantissa_lt
    have := representable.exponent_le
    rw [infinityBits_eq]
    unfold bits
    omega
  rw [nearestBits_eq_min, place_eq, rounded, bits_eq]
  exact Nat.min_eq_left (Nat.le_of_lt finite)

/-- A number that rounds up to a power of two from below it has the least full mantissa. -/
private theorem mantissa_of_short (representable : number.Representable)
    (normal : number.exponent ≠ -1074)
    (lower : ((number.mantissa : ℚ) - 1 / 2) * 2 ^ number.exponent ≤ near)
    (short : near < 2 ^ (number.exponent + 52)) : number.mantissa = 2 ^ 52 := by
  have full := representable.full.resolve_left normal
  have limit : (2 : ℚ) ^ (number.exponent + 52) = 2 ^ 52 * 2 ^ number.exponent :=
    zpow_shift number.exponent 52
  by_contra other
  have more : 2 ^ 52 + 1 ≤ number.mantissa := by omega
  have more : (2 : ℚ) ^ 52 + 1 ≤ number.mantissa := by exact_mod_cast more
  have beyond : (2 : ℚ) ^ 52 * 2 ^ number.exponent <
      ((number.mantissa : ℚ) - 1 / 2) * 2 ^ number.exponent := by
    gcongr
    linarith
  linarith

/-- A quotient just below a power of two is rounded up to it, on the finer places there. -/
private theorem nearestBits_of_short {numerator denominator : Nat} (above : 0 < numerator)
    (below : 0 < denominator) (representable : number.Representable)
    (power : number.mantissa = 2 ^ 52) (least : -1073 ≤ number.exponent)
    (lower : ((number.mantissa : ℚ) - 1 / 4) * 2 ^ number.exponent ≤
      (numerator : ℚ) / denominator)
    (short : (numerator : ℚ) / denominator < 2 ^ (number.exponent + 52)) :
    nearestBits numerator denominator = number.bits := by
  have half : (2 : ℚ) ^ number.exponent = 2 * 2 ^ (number.exponent - 1) := by
    have shifted := zpow_shift (number.exponent - 1) 1
    rw [Nat.cast_one, Int.sub_add_cancel, pow_one] at shifted
    exact shifted
  have limit : (2 : ℚ) ^ (number.exponent + 52) = 2 ^ 52 * 2 ^ number.exponent :=
    zpow_shift number.exponent 52
  rw [power, half] at lower
  rw [limit, half] at short
  have finer : (0 : ℚ) < 2 ^ (number.exponent - 1) := by positivity
  have place_eq : lastPlace numerator denominator = number.exponent - 1 := by
    apply lastPlace_eq above below (by omega)
    · right
      rw [zpow_add₀ (by norm_num)]
      norm_num at lower ⊢
      linarith
    · rw [zpow_add₀ (by norm_num)]
      norm_num at short ⊢
      linarith
  have rounded : roundedQuotient (numerator * 2 ^ (-(number.exponent - 1)).toNat)
      (denominator * 2 ^ (number.exponent - 1).toNat) = 2 ^ 53 := by
    apply roundedQuotient_place below
    · push_cast at lower ⊢
      linarith
    · push_cast at short ⊢
      linarith
    · intro odd
      norm_num at odd
  refine nearestBits_of_place place_eq rounded ?_ representable
  unfold bits
  rw [power]
  omega

/-- Every quotient that rounds to a number is given its bits. -/
theorem nearestBits_eq {numerator denominator : Nat} (below : 0 < denominator)
    (representable : number.Representable)
    (attracted : number.Attracts ((numerator : ℚ) / denominator)) :
    nearestBits numerator denominator = number.bits := by
  have clear : (0 : ℚ) < denominator := by exact_mod_cast below
  have above : 0 < numerator := by
    have := attracted.pos representable
    rw [lt_div_iff₀ clear, zero_mul] at this
    exact_mod_cast this
  have limit := attracted.lt_zpow representable
  rcases attracted with ⟨lower, upper, edge⟩
  rw [lowerEnd_eq representable.positive] at lower edge
  rw [upperEnd_eq] at upper edge
  have reach : ((number.mantissa : ℚ) - 1 / 2) * 2 ^ number.exponent ≤
      (number.mantissa - if number.gapHalvesBelow then 1 / 4 else 1 / 2) * 2 ^ number.exponent := by
    gcongr
    split <;> norm_num
  by_cases inside : number.exponent = -1074 ∨
      (2 : ℚ) ^ (number.exponent + 52) ≤ (numerator : ℚ) / denominator
  · -- the quotient has the last place of the number, so rounding gives its mantissa
    have place_eq := lastPlace_eq above below representable.exponent_ge inside limit
    have rounded : roundedQuotient (numerator * 2 ^ (-number.exponent).toNat)
        (denominator * 2 ^ number.exponent.toNat) = number.mantissa :=
      roundedQuotient_place below (le_trans reach lower) upper
        (fun odd => ⟨lt_of_le_of_lt reach (edge odd).1, (edge odd).2⟩)
    exact nearestBits_of_place place_eq rounded rfl representable
  · -- the quotient lies below a power of two that it is rounded up to
    rcases not_or.1 inside with ⟨normal, short⟩
    have short := not_le.1 short
    have power := mantissa_of_short representable normal (le_trans reach lower) short
    have least : -1073 ≤ number.exponent := by
      have := representable.exponent_ge
      omega
    rw [if_pos (gapHalvesBelow_iff.2 ⟨power, normal⟩)] at lower
    exact nearestBits_of_short above below representable power least lower short

end Dyadic

end Decimal
end Mosaic
