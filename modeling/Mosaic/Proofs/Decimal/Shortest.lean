import Mosaic.Decimal.Style
import Mosaic.Proofs.Decimal.Nearest

/-!
# The shortest decimal rounds to its number

The search for the shortest decimal compares natural numbers only.  Here the
comparisons are read as comparisons of rationals: a grid point is accepted
exactly when it lies in the interval that rounds to the number.  The search then
always ends with an accepted point.  On a grid finer than the interval is long,
one of the two neighbours of the number lies inside, and seventeen digits make
such a grid, because the interval is at least as long as three quarters of the
last binary place.
-/

namespace Mosaic
namespace Decimal

/-- The decimal as a rational. -/
def Digits.value (digits : Digits) : ℚ :=
  digits.significand * 10 ^ digits.exponent

theorem Digits.value_withoutTrailingZeros (digits : Digits) :
    digits.withoutTrailingZeros.value = digits.value := by
  fun_induction Digits.withoutTrailingZeros digits with
  | case1 digits zero ih =>
    rw [ih]
    have whole : digits.significand = 10 * (digits.significand / 10) := by omega
    have shifted : (digits.significand : ℚ) = 10 * (digits.significand / 10 : Nat) := by
      exact_mod_cast whole
    unfold Digits.value
    simp only
    rw [shifted, zpow_add₀ (by norm_num)]
    norm_num
    ring
  | case2 digits done => rfl

/-- The number of digits bounds a natural number from above. -/
theorem lt_pow_length (number : Nat) : number < 10 ^ (digitsOf number).length :=
  (Nat.length_toDigits_le_iff (by decide) Nat.length_toDigits_pos).1 (Nat.le_refl _)

/-- The number of digits bounds a positive number from below. -/
theorem pow_length_le {number : Nat} (positive : 0 < number) :
    10 ^ ((digitsOf number).length - 1) ≤ number := by
  rcases Nat.lt_or_ge 1 (digitsOf number).length with several | single
  · by_contra less
    have := (Nat.length_toDigits_le_iff (b := 10) (by decide) (by omega)).2 (Nat.lt_of_not_ge less)
    unfold digitsOf at several this
    omega
  · have none : (digitsOf number).length - 1 = 0 := by omega
    rw [none]
    exact positive

namespace Dyadic

variable {number : Dyadic}

/-! ## Comparisons on a grid -/

/-- What the two sides of every comparison are multiplied by. -/
private def commonScale (number : Dyadic) (grid : Int) : ℚ :=
  (2 ^ (2 - number.exponent).toNat : Nat) * (10 ^ (-grid).toNat : Nat)

private theorem commonScale_pos (number : Dyadic) (grid : Int) : 0 < number.commonScale grid := by
  unfold commonScale
  positivity

private theorem cast_binaryScale (number : Dyadic) (grid : Int) (quarters : Nat) :
    ((quarters * number.binaryScale grid : Nat) : ℚ) =
      quarters * 2 ^ (number.exponent - 2) * number.commonScale grid := by
  have power := zpow_eq_div 2 (by decide) (number.exponent - 2)
  have opposite : -(number.exponent - 2) = 2 - number.exponent := by omega
  rw [Nat.cast_ofNat, opposite] at power
  unfold binaryScale commonScale
  rw [power, Nat.pow_eq, Nat.pow_eq]
  push_cast
  field_simp

private theorem cast_gridStep (number : Dyadic) (grid : Int) (point : Nat) :
    ((point * number.gridStep grid : Nat) : ℚ) =
      point * 10 ^ grid * number.commonScale grid := by
  have power := zpow_eq_div 10 (by decide) grid
  rw [Nat.cast_ofNat] at power
  unfold gridStep commonScale
  rw [power, Nat.pow_eq, Nat.pow_eq]
  push_cast
  field_simp

private theorem grid_le_iff (number : Dyadic) (grid : Int) (point quarters : Nat) :
    point * number.gridStep grid ≤ quarters * number.binaryScale grid ↔
      (point : ℚ) * 10 ^ grid ≤ quarters * 2 ^ (number.exponent - 2) := by
  rw [← Nat.cast_le (α := ℚ), cast_gridStep, cast_binaryScale,
    mul_le_mul_iff_left₀ (number.commonScale_pos grid)]

private theorem le_grid_iff (number : Dyadic) (grid : Int) (point quarters : Nat) :
    quarters * number.binaryScale grid ≤ point * number.gridStep grid ↔
      (quarters : ℚ) * 2 ^ (number.exponent - 2) ≤ point * 10 ^ grid := by
  rw [← Nat.cast_le (α := ℚ), cast_gridStep, cast_binaryScale,
    mul_le_mul_iff_left₀ (number.commonScale_pos grid)]

/-- A grid point is accepted exactly when it lies in the interval. -/
theorem roundsTo_iff (grid : Int) (point : Nat) :
    number.roundsTo grid point = true ↔ number.Attracts ((point : ℚ) * 10 ^ grid) := by
  have lower := number.le_grid_iff grid point number.lowerQuarters
  have upper := number.grid_le_iff grid point number.upperQuarters
  have lowerStrict := not_congr (number.grid_le_iff grid point number.lowerQuarters)
  have upperStrict := not_congr (number.le_grid_iff grid point number.upperQuarters)
  rw [not_le, not_le] at lowerStrict upperStrict
  unfold roundsTo Attracts lowerEnd upperEnd
  by_cases even : number.mantissa % 2 = 0
  · simp [even, lower, upper]
  · have odd : number.mantissa % 2 = 1 := by omega
    simp only [odd, one_ne_zero, if_false, Bool.and_eq_true, decide_eq_true_eq, lowerStrict,
      upperStrict, forall_const]
    constructor
    · rintro ⟨above, below⟩
      exact ⟨le_of_lt above, le_of_lt below, above, below⟩
    · rintro ⟨-, -, strict⟩
      exact strict

/-! ## The neighbours of the number -/

/-- The number lies between the last point below it and the next one. -/
theorem pointBelow_spec (number : Dyadic) (grid : Int) :
    (number.pointBelow grid : ℚ) * 10 ^ grid ≤ number.value ∧
      number.value < ((number.pointBelow grid : ℚ) + 1) * 10 ^ grid := by
  have quarters : ((4 * number.mantissa : Nat) : ℚ) * 2 ^ (number.exponent - 2) = number.value := by
    unfold value
    rw [quarter_place]
    push_cast
    ring
  have positive : 0 < number.gridStep grid := by
    unfold gridStep
    rw [Nat.pow_eq, Nat.pow_eq]
    positivity
  constructor
  · rw [← quarters, ← grid_le_iff]
    exact Nat.div_mul_le_self _ _
  · rw [← quarters, ← not_le, ← Nat.cast_succ, ← grid_le_iff, not_le]
    exact Nat.lt_mul_of_div_lt (Nat.lt_succ_self _) positive

/-- A grid finer than the interval is long has an accepted point next to the number. -/
theorem pointOn?_isSome (tie : TieRule) {grid : Int} (positive : 0 < number.mantissa)
    (fine : (10 : ℚ) ^ grid < number.upperEnd - number.lowerEnd) :
    (number.pointOn? tie grid).isSome = true := by
  rcases number.pointBelow_spec grid with ⟨below, above⟩
  have upper := number.value_lt_upperEnd
  have lower := lowerEnd_lt_value positive
  have hit : number.roundsTo grid (number.pointBelow grid) = true ∨
      number.roundsTo grid (number.pointBelow grid + 1) = true := by
    rw [roundsTo_iff, roundsTo_iff]
    push_cast
    by_cases inside : number.lowerEnd < (number.pointBelow grid : ℚ) * 10 ^ grid
    · left
      exact attracts_of_lt inside (lt_of_le_of_lt below upper)
    · right
      refine attracts_of_lt (lt_trans lower above) ?_
      rw [add_mul, one_mul]
      linarith
  unfold pointOn?
  rcases hit with first | second
  · cases other : number.roundsTo grid (number.pointBelow grid + 1) <;> simp [first, other]
  · cases other : number.roundsTo grid (number.pointBelow grid) <;> simp [second, other]

/-- Whatever point is taken, it rounds to the number. -/
theorem attracts_of_pointOn? {tie : TieRule} {grid : Int} {point : Nat}
    (found : number.pointOn? tie grid = some point) :
    number.Attracts ((point : ℚ) * 10 ^ grid) := by
  rw [← roundsTo_iff]
  unfold pointOn? at found
  cases first : number.roundsTo grid (number.pointBelow grid) <;>
    cases second : number.roundsTo grid (number.pointBelow grid + 1) <;>
    simp only [first, second, Option.some.injEq, reduceCtorEq] at found
  · rw [← found]
    exact second
  · rw [← found]
    exact first
  · -- of two hits either may be the nearer one
    have either : point = number.pointBelow grid ∨ point = number.pointBelow grid + 1 := by
      rw [← found]
      unfold nearer
      simp only
      split_ifs <;> cases tie <;> simp
    rcases either with same | same <;> rw [same] <;> assumption

/-! ## The search -/

/-- The search ends with an accepted point when the last grid that it tries is
fine enough. -/
theorem firstHit_attracts (tie : TieRule) (positive : 0 < number.mantissa) (grid : Int)
    (tries : Nat)
    (fine : (10 : ℚ) ^ (grid - tries) < number.upperEnd - number.lowerEnd) :
    number.Attracts (number.firstHit tie grid (tries + 1)).value := by
  induction tries generalizing grid with
  | zero =>
    have some := pointOn?_isSome tie positive (by simpa using fine)
    rcases Option.isSome_iff_exists.1 some with ⟨point, found⟩
    simp only [firstHit, found]
    exact attracts_of_pointOn? found
  | succ tries ih =>
    unfold firstHit
    cases found : number.pointOn? tie grid with
    | some point => exact attracts_of_pointOn? found
    | none =>
      refine ih (grid - 1) ?_
      have same : grid - 1 - (tries : Int) = grid - (tries + 1 : Nat) := by
        push_cast
        ring
      rw [same]
      exact fine

/-- The number is at least the power of ten that its first digit counts. -/
theorem wholePlaces_le (positive : 0 < number.mantissa) :
    (10 : ℚ) ^ (number.wholePlaces - 1) ≤ number.value := by
  have numeratorPositive : 0 < number.mantissa * 2 ^ number.exponent.toNat := by positivity
  have denominatorPositive : 0 < 2 ^ (-number.exponent).toNat := by positivity
  have quotient : number.value = ((number.mantissa * 2 ^ number.exponent.toNat : Nat) : ℚ) /
      ((2 ^ (-number.exponent).toNat : Nat) : ℚ) := by
    have power := zpow_eq_div 2 (by decide) number.exponent
    rw [Nat.cast_ofNat] at power
    unfold value
    rw [power]
    push_cast
    ring
  rw [quotient]
  unfold wholePlaces
  simp only [Nat.pow_eq]
  generalize number.mantissa * 2 ^ number.exponent.toNat = numerator at *
  generalize 2 ^ (-number.exponent).toNat = denominator at *
  split
  · have lower := pow_length_le numeratorPositive
    have upper := lt_pow_length denominator
    have length : 0 < (digitsOf numerator).length := Nat.length_toDigits_pos
    have below : (denominator : ℚ) ≤ 10 ^ (digitsOf denominator).length := by
      exact_mod_cast Nat.le_of_lt upper
    have above : (10 : ℚ) ^ ((digitsOf numerator).length - 1) ≤ numerator := by
      exact_mod_cast lower
    have clear : (0 : ℚ) < denominator := by exact_mod_cast denominatorPositive
    have places : ((Nat.toDigits 10 numerator).length : Int) -
          (Nat.toDigits 10 denominator).length - 1 =
        ((digitsOf numerator).length - 1 : Nat) - ((digitsOf denominator).length : Int) := by
      unfold digitsOf at length ⊢
      omega
    rw [places, zpow_sub₀ (by norm_num), zpow_natCast, zpow_natCast]
    exact div_le_div₀ (by positivity) above clear below
  · next large =>
    rw [Int.add_sub_cancel]
    refine not_lt.1 fun less => large ?_
    exact (div_lt_zpow_iff 10 (by decide) denominatorPositive _).1 (by exact_mod_cast less)

/-- The interval is one last binary place long, or three quarters of it when the
next smaller number is nearer. -/
private theorem length_interval (positive : 0 < number.mantissa) :
    number.upperEnd - number.lowerEnd =
      (if number.gapHalvesBelow then 3 / 4 else 1) * (2 : ℚ) ^ number.exponent := by
  rw [upperEnd_eq, lowerEnd_eq positive, ← sub_mul]
  congr 1
  split <;> ring

/-- Seventeen digits make a grid that is finer than the interval is long. -/
private theorem fine_wholePlaces (representable : number.Representable) :
    (10 : ℚ) ^ (number.wholePlaces - 1 - (16 : Nat)) < number.upperEnd - number.lowerEnd := by
  have unit : (0 : ℚ) < 2 ^ number.exponent := by positivity
  have leading := wholePlaces_le representable.positive
  have share : (number.mantissa : ℚ) / 10 ^ 16 < if number.gapHalvesBelow then 3 / 4 else 1 := by
    rw [div_lt_iff₀ (by norm_num)]
    split
    · next halves =>
      -- the mantissa is then the smallest one of its length
      have least : number.mantissa = 2 ^ 52 := by
        exact (gapHalvesBelow_iff.1 halves).1
      rw [least]
      norm_num
    · have short : (number.mantissa : ℚ) < 2 ^ 53 := by exact_mod_cast representable.mantissa_lt
      exact lt_trans short (by norm_num)
  calc (10 : ℚ) ^ (number.wholePlaces - 1 - (16 : Nat))
      = 10 ^ (number.wholePlaces - 1) / 10 ^ 16 := by
        rw [zpow_sub₀ (by norm_num), zpow_natCast]
    _ ≤ number.mantissa * 2 ^ number.exponent / 10 ^ 16 := by
        gcongr
        exact leading
    _ = number.mantissa / 10 ^ 16 * 2 ^ number.exponent := by ring
    _ < (if number.gapHalvesBelow then 3 / 4 else 1) * 2 ^ number.exponent :=
        mul_lt_mul_of_pos_right share unit
    _ = number.upperEnd - number.lowerEnd := (length_interval representable.positive).symm

/-- The shortest decimal rounds to the number. -/
theorem shortest_attracts (representable : number.Representable) (tie : TieRule) :
    number.Attracts (number.shortest tie).value := by
  unfold shortest
  rw [Digits.value_withoutTrailingZeros]
  exact firstHit_attracts tie representable.positive _ 16 (fine_wholePlaces representable)

end Dyadic
end Decimal
end Mosaic
