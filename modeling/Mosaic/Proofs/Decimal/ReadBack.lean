import Mosaic.Decimal.Reading
import Mosaic.Proofs.Decimal.Bits
import Mosaic.Proofs.Decimal.Shortest

/-!
# Written numbers read back

A number that is written in either style reads back as itself, bit for bit, the
two zeros, the infinities and the only not-a-number included.  The digits round
to the number, so the reading, which rounds once, must return it.  What is left
is the layout: wherever the point and the exponent are put, the value that the
reader gathers from the digits is the value of the shortest decimal.
-/

namespace Mosaic
namespace Decimal

/-! ## Rounding once -/

theorem magnitude_eq (number : Float) :
    magnitude number =
      if exponentBits number = 0 then ⟨fractionBits number, -1074⟩
      else ⟨2 ^ 52 + fractionBits number, (exponentBits number : Int) - 1075⟩ :=
  rfl

/-- The magnitude of a finite number other than the two zeros. -/
theorem magnitude_representable {number : Float} (numeric : number.isNaN = false)
    (finite : number.isInf = false) (nonzero : (magnitude number).mantissa ≠ 0) :
    (magnitude number).Representable := by
  have nan := (not_congr isNaN_iff).1 (Bool.eq_false_iff.1 numeric)
  have infinite := (not_congr isInf_iff).1 (Bool.eq_false_iff.1 finite)
  have fraction : fractionBits number < 2 ^ 52 := Nat.mod_lt _ (by decide)
  have exponent : exponentBits number < 2 ^ 11 := Nat.mod_lt _ (by decide)
  rw [magnitude_eq] at nonzero ⊢
  split at nonzero
  · next least =>
    rw [if_pos least]
    exact ⟨Nat.pos_of_ne_zero nonzero, by simp only; omega, by simp, by simp, Or.inl rfl⟩
  · next normal =>
    rw [if_neg normal]
    refine ⟨?_, ?_, ?_, ?_, Or.inr ?_⟩ <;> simp only <;> omega

private theorem bits_magnitude (number : Float) :
    (magnitude number).bits = unsignedBits number := by
  rw [magnitude_eq]
  unfold Dyadic.bits unsignedBits
  split <;> simp only <;> omega

private theorem largest_le : (2 : ℚ) ^ (1024 : Int) ≤ 10 ^ (309 : Int) := by
  have powers : (2 : Nat) ^ 1024 ≤ 10 ^ 309 := by decide +kernel
  have cast : ((2 ^ 1024 : Nat) : ℚ) ≤ ((10 ^ 309 : Nat) : ℚ) := Nat.cast_le.2 powers
  rw [Nat.cast_pow, Nat.cast_pow] at cast
  exact cast

private theorem lt_smallest : (10 : ℚ) ^ (-330 : Int) < 1 / 2 * 2 ^ (-1074 : Int) := by
  have powers : (2 : Nat) * 2 ^ 1074 < 10 ^ 330 := by decide +kernel
  have cast : ((2 * 2 ^ 1074 : Nat) : ℚ) < ((10 ^ 330 : Nat) : ℚ) := Nat.cast_lt.2 powers
  rw [Nat.cast_mul, Nat.cast_pow, Nat.cast_pow] at cast
  rw [zpow_neg, zpow_neg, one_div, ← mul_inv]
  exact inv_strictAnti₀ (by positivity) cast

/-- A scaled whole number below a power of ten ends its digits there. -/
private theorem length_digitsOf_le {significand : Nat} {exponent bound : Int}
    (above : 0 < significand) (below : (significand : ℚ) * 10 ^ exponent < 10 ^ bound) :
    ((digitsOf significand).length : Int) + exponent ≤ bound := by
  have digits : 0 < (digitsOf significand).length := Nat.length_toDigits_pos
  have lower : (10 : ℚ) ^ ((digitsOf significand).length - 1 : Nat) ≤ significand := by
    exact_mod_cast pow_length_le above
  have least : (10 : ℚ) ^ (((digitsOf significand).length - 1 : Nat) + exponent) ≤
      significand * 10 ^ exponent := by
    rw [zpow_add₀ (by norm_num), zpow_natCast]
    gcongr
  have := (zpow_lt_zpow_iff_right₀ (by norm_num)).1 (lt_of_le_of_lt least below)
  omega

/-- And one above a power of ten has digits beyond it. -/
private theorem lt_length_digitsOf {significand : Nat} {exponent bound : Int}
    (above : (10 : ℚ) ^ bound < significand * 10 ^ exponent) :
    bound < ((digitsOf significand).length : Int) + exponent := by
  have upper : (significand : ℚ) < 10 ^ (digitsOf significand).length := by
    exact_mod_cast lt_pow_length significand
  have most : (significand : ℚ) * 10 ^ exponent <
      10 ^ (((digitsOf significand).length : Int) + exponent) := by
    rw [zpow_add₀ (by norm_num), zpow_natCast]
    gcongr
  exact (zpow_lt_zpow_iff_right₀ (by norm_num)).1 (lt_trans above most)

/-- What rounds to a number is neither too large nor too small for the reader. -/
private theorem attracts_range {number : Dyadic} {near : ℚ}
    (representable : number.Representable) (attracted : number.Attracts near) :
    near < 10 ^ (309 : Int) ∧ 10 ^ (-330 : Int) < near := by
  constructor
  · refine lt_of_lt_of_le (attracted.lt_zpow representable) ?_
    calc (2 : ℚ) ^ (number.exponent + 53) ≤ 2 ^ (1024 : Int) := by
          apply zpow_le_zpow_right₀ (by norm_num)
          have := representable.exponent_le
          omega
      _ ≤ 10 ^ (309 : Int) := largest_le
  · have mantissa : (1 : ℚ) ≤ number.mantissa := by exact_mod_cast representable.positive
    refine lt_of_lt_of_le ?_ attracted.1
    rw [Dyadic.lowerEnd_eq representable.positive]
    calc (10 : ℚ) ^ (-330 : Int) < 1 / 2 * 2 ^ (-1074 : Int) := lt_smallest
      _ ≤ 1 / 2 * 2 ^ number.exponent := by
          gcongr
          · norm_num
          · exact representable.exponent_ge
      _ ≤ _ := by
          gcongr
          split <;> linarith

/-- Digits that round to a number are read as that number. -/
theorem nearest_eq {number : Dyadic} (representable : number.Representable) {significand : Nat}
    {exponent : Int} (attracted : number.Attracts ((significand : ℚ) * 10 ^ exponent)) :
    nearest significand exponent = Float.ofBits (UInt64.ofNat number.bits) := by
  have positive := attracted.pos representable
  have nonzero : significand ≠ 0 := by
    rintro rfl
    simp at positive
  rcases attracts_range representable attracted with ⟨large, small⟩
  have notHuge : ¬ 310 < ((digitsOf significand).length : Int) + exponent := by
    have := length_digitsOf_le (Nat.pos_of_ne_zero nonzero) large
    omega
  have notTiny : ¬ ((digitsOf significand).length : Int) + exponent < -330 := by
    have := lt_length_digitsOf small
    omega
  have quotient : ((significand * 10 ^ exponent.toNat : Nat) : ℚ) /
      ((10 ^ (-exponent).toNat : Nat) : ℚ) = significand * 10 ^ exponent := by
    have power := zpow_eq_div 10 (by decide) exponent
    rw [Nat.cast_ofNat] at power
    rw [power]
    push_cast
    ring
  have bits : nearestBits (significand * 10 ^ exponent.toNat) (10 ^ (-exponent).toNat) =
      number.bits :=
    Dyadic.nearestBits_eq (by positivity) representable (quotient.symm ▸ attracted)
  unfold nearest
  simp only [Nat.pow_eq, if_neg nonzero, if_neg notHuge, if_neg notTiny, bits]

/-! ## Digits -/

theorem isDigit_of_mem_digitsOf {number : Nat} {glyph : Char} (member : glyph ∈ digitsOf number) :
    isDigit glyph = true := by
  have digit := Nat.isDigit_of_mem_toDigits (by decide) (by decide) member
  unfold Char.isDigit at digit
  unfold isDigit
  exact digit

theorem digitsOf_ne_nil (number : Nat) : digitsOf number ≠ [] :=
  Nat.toDigits_ne_nil

theorem digitsOf_eq_cons (number : Nat) :
    ∃ first rest, digitsOf number = first :: rest ∧ isDigit first = true := by
  cases shown : digitsOf number with
  | nil => exact absurd shown (digitsOf_ne_nil number)
  | cons first rest =>
    exact ⟨first, rest, rfl, isDigit_of_mem_digitsOf (shown ▸ List.mem_cons_self)⟩

private theorem digitsValue_eq (digits : List Char) :
    digitsValue digits = Nat.ofDigitChars 10 digits 0 :=
  Nat.ofDigitChars_eq_foldl.symm

theorem digitsValue_digitsOf (number : Nat) : digitsValue (digitsOf number) = number := by
  rw [digitsValue_eq]
  exact Nat.ofDigitChars_ten_toDigits

/-- Digits that follow others move them up. -/
theorem digitsValue_append (first second : List Char) :
    digitsValue (first ++ second) =
      digitsValue first * 10 ^ second.length + digitsValue second := by
  rw [digitsValue_eq, digitsValue_eq, digitsValue_eq, Nat.ofDigitChars_append,
    Nat.ofDigitChars_eq_ofDigitChars_zero (l := second), Nat.mul_comm]

theorem digitsValue_zeros (count : Nat) : digitsValue (List.replicate count '0') = 0 := by
  rw [digitsValue_eq, Nat.ofDigitChars_replicate_zero, Nat.mul_zero]

private theorem all_isDigit_digitsOf (number : Nat) : (digitsOf number).all isDigit = true :=
  List.all_eq_true.2 fun _ member => isDigit_of_mem_digitsOf member

theorem count?_digitsOf {number : Nat} (fits : number ≤ largestWord) :
    count? (digitsOf number) = some number := by
  have digits := all_isDigit_digitsOf number
  have value := digitsValue_digitsOf number
  rcases digitsOf_eq_cons number with ⟨first, rest, shown, digit⟩
  rw [shown] at digits value ⊢
  unfold count?
  split
  · next sign rest' same =>
    cases same
    exact absurd digit (by decide)
  · simp [digits, value, fits]

/-- An exponent without a sign is read back. -/
private theorem signedDigits?_digitsOf (number : Nat) :
    signedDigits? (digitsOf number) = some (number : Int) := by
  have digits := all_isDigit_digitsOf number
  have value := digitsValue_digitsOf number
  rcases digitsOf_eq_cons number with ⟨first, rest, shown, digit⟩
  rw [shown] at digits value ⊢
  unfold signedDigits?
  split
  next negative unsigned same =>
    split at same
    · next sign =>
      cases sign
      exact absurd digit (by decide)
    · next sign =>
      cases sign
      exact absurd digit (by decide)
    · cases same
      simp [digits, value]

private theorem signedDigits?_minus (number : Nat) :
    signedDigits? ('-' :: digitsOf number) = some (-(number : Int)) := by
  have digits := all_isDigit_digitsOf number
  simp only [signedDigits?, digits, digitsValue_digitsOf]
  simp [digitsOf_ne_nil]

private theorem signedDigits?_plus (number : Nat) :
    signedDigits? ('+' :: digitsOf number) = some (number : Int) := by
  have digits := all_isDigit_digitsOf number
  simp only [signedDigits?, digits, digitsValue_digitsOf]
  simp [digitsOf_ne_nil]

/-! ## Layouts -/

/-- What may follow the digits of a number. -/
private def Ends (rest : List Char) : Prop :=
  rest = [] ∨ ∃ exponent, rest = 'e' :: exponent

private theorem takeWhile_digits {digits rest : List Char}
    (digit : ∀ glyph ∈ digits, isDigit glyph = true) (ends : Ends rest) :
    (digits ++ rest).takeWhile isDigit = digits ∧ (digits ++ rest).dropWhile isDigit = rest := by
  rw [List.takeWhile_append_of_pos digit, List.dropWhile_append_of_pos digit]
  rcases ends with rfl | ⟨exponent, rfl⟩
  · exact ⟨List.append_nil _, rfl⟩
  · exact ⟨List.append_nil _, rfl⟩

/-- A text is read as a decimal of this value. -/
private def ReadsAs (text : List Char) (value : ℚ) : Prop :=
  ∃ significand : Nat, ∃ exponent : Int, (significand : ℚ) * 10 ^ exponent = value ∧
    unsigned? text = some (nearest significand exponent)

private theorem readsAs_whole {whole rest : List Char}
    (digit : ∀ glyph ∈ whole, isDigit glyph = true) (nonempty : whole ≠ []) (ends : Ends rest)
    {exponent : Int} (read : exponent? rest = some exponent) :
    ReadsAs (whole ++ rest) (digitsValue whole * 10 ^ exponent) := by
  refine ⟨digitsValue whole, exponent, rfl, ?_⟩
  rcases takeWhile_digits digit ends with ⟨taken, dropped⟩
  unfold unsigned?
  simp only [taken, dropped]
  rcases ends with rfl | ⟨letters, rfl⟩
  · simp [nonempty, read]
  · simp [nonempty, read]

private theorem readsAs_point {whole fraction rest : List Char}
    (digit : ∀ glyph ∈ whole, isDigit glyph = true) (nonempty : whole ≠ [])
    (fractionDigit : ∀ glyph ∈ fraction, isDigit glyph = true) (ends : Ends rest)
    {exponent : Int} (read : exponent? rest = some exponent) :
    ReadsAs (whole ++ '.' :: (fraction ++ rest))
      (digitsValue (whole ++ fraction) * 10 ^ (exponent - fraction.length)) := by
  refine ⟨digitsValue (whole ++ fraction), exponent - fraction.length, rfl, ?_⟩
  rcases takeWhile_digits fractionDigit ends with ⟨taken, dropped⟩
  have point : isDigit '.' = false := by decide
  have wholeTaken : (whole ++ '.' :: (fraction ++ rest)).takeWhile isDigit = whole := by
    rw [List.takeWhile_append_of_pos digit, List.takeWhile_cons_of_neg (by simp [point]),
      List.append_nil]
  have wholeDropped : (whole ++ '.' :: (fraction ++ rest)).dropWhile isDigit =
      '.' :: (fraction ++ rest) := by
    rw [List.dropWhile_append_of_pos digit, List.dropWhile_cons_of_neg (by simp [point])]
  unfold unsigned?
  simp only [wholeTaken, wholeDropped, taken, dropped]
  simp [nonempty, read]

/-- A number without an exponent, split at its point. -/
private theorem readsAs_pointOnly {whole fraction : List Char}
    (digit : ∀ glyph ∈ whole ++ fraction, isDigit glyph = true) (nonempty : whole ≠ []) :
    ReadsAs (whole ++ '.' :: fraction)
      (digitsValue (whole ++ fraction) * 10 ^ (-(fraction.length : Int))) := by
  have read := readsAs_point (fun glyph member => digit glyph (List.mem_append_left _ member))
    nonempty (fun glyph member => digit glyph (List.mem_append_right _ member))
    (Or.inl rfl) (rfl : exponent? [] = some 0)
  rwa [List.append_nil, zero_sub] at read

/-- A style whose marks the reader knows. -/
structure Style.Readable (style : Style) : Prop where
  wholeMark : style.wholeMark = "" ∨ style.wholeMark = ".0"
  exponentMark : style.exponentMark = "" ∨ style.exponentMark = "+"

variable {style : Style}

private theorem isDigit_of_mem_shown {number count : Nat} {glyph : Char}
    (member : glyph ∈ digitsOf number ∨ glyph ∈ List.replicate count '0') :
    isDigit glyph = true := by
  rcases member with digit | zero
  · exact isDigit_of_mem_digitsOf digit
  · rw [List.eq_of_mem_replicate zero]
    rfl

/-- Digits followed by zeros are a whole number. -/
private theorem readsAs_zeros (readable : style.Readable) (significand power : Nat) :
    ReadsAs (digitsOf significand ++ List.replicate power '0' ++ style.wholeMark.toList)
      (significand * 10 ^ power) := by
  have digit : ∀ glyph ∈ digitsOf significand ++ List.replicate power '0',
      isDigit glyph = true :=
    fun _ member => isDigit_of_mem_shown (List.mem_append.1 member)
  have nonempty : digitsOf significand ++ List.replicate power '0' ≠ [] := by
    simp [digitsOf_ne_nil]
  have value : digitsValue (digitsOf significand ++ List.replicate power '0') =
      significand * 10 ^ power := by
    rw [digitsValue_append, digitsValue_digitsOf, digitsValue_zeros, List.length_replicate,
      Nat.add_zero]
  rcases readable.wholeMark with mark | mark
  · have read := readsAs_whole digit nonempty (Or.inl rfl) (rfl : exponent? [] = some 0)
    rw [value, zpow_zero, mul_one] at read
    rw [mark]
    exact_mod_cast read
  · have zero : ∀ glyph ∈ digitsOf significand ++ List.replicate power '0' ++ ['0'],
        isDigit glyph = true := by
      intro glyph member
      rcases List.mem_append.1 member with shown | last
      · exact digit glyph shown
      · rw [List.mem_singleton.1 last]
        rfl
    have last : digitsValue ['0'] = 0 := rfl
    have tenth : ((significand * 10 ^ power * 10 ^ 1 + 0 : Nat) : ℚ) * 10 ^ (-((1 : Nat) : Int)) =
        significand * 10 ^ power := by
      rw [zpow_neg, zpow_natCast]
      push_cast
      field_simp
      ring
    have read := readsAs_pointOnly zero nonempty
    rw [digitsValue_append, value, last, List.length_singleton, tenth] at read
    rw [mark]
    exact read

private theorem readsAs_among (significand place : Nat) (positive : 0 < place) :
    ReadsAs ((digitsOf significand).take place ++ '.' :: (digitsOf significand).drop place)
      (significand * 10 ^ (-(((digitsOf significand).length - place : Nat) : Int))) := by
  have nonempty : (digitsOf significand).take place ≠ [] := by
    simp [digitsOf_ne_nil, Nat.ne_of_gt positive]
  have digit : ∀ glyph ∈ (digitsOf significand).take place ++ (digitsOf significand).drop place,
      isDigit glyph = true :=
    fun _ member => isDigit_of_mem_digitsOf (List.take_append_drop place _ ▸ member)
  have read := readsAs_pointOnly digit nonempty
  rwa [List.take_append_drop, digitsValue_digitsOf, List.length_drop] at read

private theorem readsAs_small (significand zeros : Nat) :
    ReadsAs (['0'] ++ '.' :: (List.replicate zeros '0' ++ digitsOf significand))
      (significand * 10 ^ (-((zeros + (digitsOf significand).length : Nat) : Int))) := by
  have digit : ∀ glyph ∈ ['0'] ++ (List.replicate zeros '0' ++ digitsOf significand),
      isDigit glyph = true := by
    intro glyph member
    rcases List.mem_append.1 member with zero | later
    · rw [List.mem_singleton.1 zero]
      rfl
    · exact isDigit_of_mem_shown (List.mem_append.1 later).symm
  have read := readsAs_pointOnly digit (List.cons_ne_nil _ _)
  have value : digitsValue (['0'] ++ (List.replicate zeros '0' ++ digitsOf significand)) =
      significand := by
    have leading : digitsValue ['0'] = 0 := rfl
    rw [digitsValue_append, digitsValue_append, digitsValue_zeros, digitsValue_digitsOf, leading]
    omega
  rwa [value, List.length_append, List.length_replicate] at read

private theorem positionalText_readsAs (readable : style.Readable) (digits : Digits) :
    ReadsAs (positionalText style digits).toList digits.value := by
  have shown : 0 < (digitsOf digits.significand).length := Nat.length_toDigits_pos
  unfold positionalText Digits.value
  simp only
  split
  · next up =>
    rcases Int.eq_ofNat_of_zero_le up with ⟨power, same⟩
    rw [same, Int.toNat_natCast, zpow_natCast, String.toList_append, String.toList_ofList]
    exact readsAs_zeros readable digits.significand power
  · next down =>
    split
    · next whole =>
      have read := readsAs_among digits.significand
        ((digitsOf digits.significand).length + digits.exponent).toNat (by omega)
      have exponent : -(((digitsOf digits.significand).length -
          ((digitsOf digits.significand).length + digits.exponent).toNat : Nat) : Int) =
            digits.exponent := by omega
      rw [exponent] at read
      rw [String.toList_ofList]
      exact read
    · next small =>
      have read := readsAs_small digits.significand
        (-((digitsOf digits.significand).length + digits.exponent)).toNat
      have exponent : -(((-((digitsOf digits.significand).length + digits.exponent)).toNat +
          (digitsOf digits.significand).length : Nat) : Int) = digits.exponent := by omega
      rw [exponent] at read
      rw [String.toList_append, String.toList_ofList, String.toList_ofList]
      exact read

/-- The exponent as it is written after its letter. -/
private theorem signedDigits?_written (readable : style.Readable) (place : Int) :
    signedDigits? (if 0 ≤ place then style.exponentMark ++ natText place.toNat
      else "-" ++ natText (-place).toNat).toList = some place := by
  split
  · next up =>
    have whole : ((place.toNat : Nat) : Int) = place := Int.toNat_of_nonneg up
    rw [String.toList_append, natText, String.toList_ofList]
    rcases readable.exponentMark with mark | mark
    · rw [mark]
      exact whole ▸ signedDigits?_digitsOf place.toNat
    · rw [mark]
      exact whole ▸ signedDigits?_plus place.toNat
  · next down =>
    have whole : -(((-place).toNat : Nat) : Int) = place := by omega
    have read := signedDigits?_minus (-place).toNat
    rw [whole] at read
    rw [String.toList_append, natText, String.toList_ofList, String.toList_ofList]
    exact read

private theorem exponentText_readsAs (readable : style.Readable) (digits : Digits) :
    ReadsAs (exponentText style digits).toList digits.value := by
  rcases digitsOf_eq_cons digits.significand with ⟨first, rest, shown, digit⟩
  have all : ∀ glyph ∈ first :: rest, isDigit glyph = true :=
    fun _ member => isDigit_of_mem_digitsOf (shown ▸ member)
  have value := digitsValue_digitsOf digits.significand
  have length : ((digitsOf digits.significand).length : Int) = rest.length + 1 := by
    rw [shown]
    simp
  have read := signedDigits?_written readable
    ((digitsOf digits.significand).length + digits.exponent - 1)
  unfold exponentText Digits.value
  simp only
  generalize (if 0 ≤ ((digitsOf digits.significand).length : Int) + digits.exponent - 1 then _
    else _ : String) = written at read ⊢
  have mark : exponent? ('e' :: written.toList) =
      some ((digitsOf digits.significand).length + digits.exponent - 1) := by
    simp [exponent?, read]
  rw [shown] at value
  rw [String.toList_append, String.toList_append, String.toList_ofList, shown]
  simp only [List.drop_succ_cons, List.drop_zero, List.take_succ_cons, List.take_zero]
  cases rest with
  | nil =>
    have result := readsAs_whole all (List.cons_ne_nil _ _) (Or.inr ⟨_, rfl⟩) mark
    have exponent : ((digitsOf digits.significand).length : Int) + digits.exponent - 1 =
        digits.exponent := by simp only [length, List.length_nil]; omega
    rw [value, exponent] at result
    simpa using result
  | cons second rest =>
    have leading : ∀ glyph ∈ [first], isDigit glyph = true :=
      fun glyph member => all glyph (List.mem_append_left (second :: rest) member)
    have later : ∀ glyph ∈ second :: rest, isDigit glyph = true :=
      fun glyph member => all glyph (List.mem_cons_of_mem _ member)
    have result := readsAs_point leading (List.cons_ne_nil _ _) later (Or.inr ⟨_, rfl⟩) mark
    have exponent : ((digitsOf digits.significand).length : Int) + digits.exponent - 1 -
        (second :: rest).length = digits.exponent := by rw [length]; omega
    rw [List.singleton_append, List.singleton_append, value, exponent] at result
    simpa using result

private theorem magnitudeText_readsAs (readable : style.Readable) (digits : Digits) :
    ReadsAs (magnitudeText style digits).toList digits.value := by
  unfold magnitudeText
  simp only
  split
  · exact positionalText_readsAs readable digits
  · exact exponentText_readsAs readable digits

/-! ## Characters -/

/-- Is this a character that numbers are written with? -/
def isNumeral (glyph : Char) : Bool :=
  isDigit glyph || ['+', '-', '.', 'e', 'N', 'a', 'i', 'n', 'f'].contains glyph

theorem isNumeral_of_isDigit {glyph : Char} (digit : isDigit glyph = true) :
    isNumeral glyph = true := by
  unfold isNumeral
  rw [digit, Bool.true_or]

theorem isNumeral_of_mem_natText {number : Nat} {glyph : Char}
    (member : glyph ∈ (natText number).toList) : isNumeral glyph = true := by
  unfold natText at member
  rw [String.toList_ofList] at member
  exact isNumeral_of_isDigit (isDigit_of_mem_digitsOf member)

private theorem isNumeral_of_mem_wholeMark (readable : style.Readable) {glyph : Char}
    (member : glyph ∈ style.wholeMark.toList) : isNumeral glyph = true := by
  rcases readable.wholeMark with mark | mark
  · rw [mark] at member
    cases member
  · rw [mark] at member
    exact List.all_eq_true.1 (by decide : ".0".toList.all isNumeral = true) glyph member

private theorem isNumeral_of_mem_positionalText (readable : style.Readable) (digits : Digits)
    {glyph : Char} (member : glyph ∈ (positionalText style digits).toList) :
    isNumeral glyph = true := by
  have digit : ∀ count, glyph ∈ digitsOf digits.significand ∨ glyph ∈ List.replicate count '0' →
      isNumeral glyph = true :=
    fun _ shown => isNumeral_of_isDigit (isDigit_of_mem_shown shown)
  unfold positionalText at member
  simp only at member
  split at member
  · rw [String.toList_append, String.toList_ofList, List.mem_append, List.mem_append] at member
    rcases member with shown | mark
    · exact digit _ shown
    · exact isNumeral_of_mem_wholeMark readable mark
  · split at member
    · rw [String.toList_ofList, List.mem_append, List.mem_cons] at member
      rcases member with front | point | back
      · exact digit 0 (Or.inl (List.mem_of_mem_take front))
      · rw [point]
        decide
      · exact digit 0 (Or.inl (List.mem_of_mem_drop back))
    · rw [String.toList_append, List.mem_append] at member
      rcases member with lead | shown
      · exact List.all_eq_true.1 (by decide : "0.".toList.all isNumeral = true) glyph lead
      · rw [String.toList_ofList, List.mem_append] at shown
        exact digit _ shown.symm

private theorem isNumeral_of_mem_exponentText (readable : style.Readable) (digits : Digits)
    {glyph : Char} (member : glyph ∈ (exponentText style digits).toList) :
    isNumeral glyph = true := by
  have digit : glyph ∈ digitsOf digits.significand → isNumeral glyph = true :=
    fun shown => isNumeral_of_isDigit (isDigit_of_mem_digitsOf shown)
  unfold exponentText at member
  simp only [String.toList_append, List.mem_append] at member
  rcases member with (leading | letter) | exponent
  · rw [String.toList_ofList] at leading
    split at leading
    · exact digit leading
    · rw [List.mem_append, List.mem_cons] at leading
      rcases leading with front | point | back
      · exact digit (List.mem_of_mem_take front)
      · rw [point]
        decide
      · exact digit (List.mem_of_mem_drop back)
  · exact List.all_eq_true.1 (by decide : "e".toList.all isNumeral = true) glyph letter
  · split at exponent
    · rw [String.toList_append, List.mem_append] at exponent
      rcases exponent with mark | shown
      · rcases readable.exponentMark with none | plus
        · rw [none] at mark
          cases mark
        · rw [plus] at mark
          exact List.all_eq_true.1 (by decide : "+".toList.all isNumeral = true) glyph mark
      · exact isNumeral_of_mem_natText shown
    · rw [String.toList_append, List.mem_append] at exponent
      rcases exponent with sign | shown
      · exact List.all_eq_true.1 (by decide : "-".toList.all isNumeral = true) glyph sign
      · exact isNumeral_of_mem_natText shown

private theorem isNumeral_of_mem_magnitudeText (readable : style.Readable) (digits : Digits)
    {glyph : Char} (member : glyph ∈ (magnitudeText style digits).toList) :
    isNumeral glyph = true := by
  unfold magnitudeText at member
  simp only at member
  split at member
  · exact isNumeral_of_mem_positionalText readable digits member
  · exact isNumeral_of_mem_exponentText readable digits member

/-- A text that starts with a digit, as all positive numbers do. -/
def StartsWithDigit (text : List Char) : Prop :=
  ∃ first rest, text = first :: rest ∧ isDigit first = true

private theorem startsWithDigit_append {text : List Char} (starts : StartsWithDigit text)
    (more : List Char) : StartsWithDigit (text ++ more) := by
  rcases starts with ⟨first, rest, rfl, digit⟩
  exact ⟨first, rest ++ more, rfl, digit⟩

private theorem startsWithDigit_take (number : Nat) {count : Nat} (positive : 0 < count) :
    StartsWithDigit ((digitsOf number).take count) := by
  rcases digitsOf_eq_cons number with ⟨first, rest, shown, digit⟩
  rcases Nat.exists_eq_succ_of_ne_zero (Nat.ne_of_gt positive) with ⟨less, rfl⟩
  rw [shown]
  exact ⟨first, rest.take less, rfl, digit⟩

private theorem startsWithDigit_magnitudeText (style : Style) (digits : Digits) :
    StartsWithDigit (magnitudeText style digits).toList := by
  have shown : StartsWithDigit (digitsOf digits.significand) :=
    digitsOf_eq_cons digits.significand
  unfold magnitudeText positionalText exponentText
  simp only
  split
  · split
    · rw [String.toList_append, String.toList_ofList]
      exact startsWithDigit_append (startsWithDigit_append shown _) _
    · split
      · next whole =>
        rw [String.toList_ofList]
        exact startsWithDigit_append (startsWithDigit_take _ (by omega)) _
      · rw [String.toList_append]
        exact startsWithDigit_append ⟨'0', ['.'], rfl, by decide⟩ _
  · rw [String.toList_append, String.toList_append, String.toList_ofList]
    refine startsWithDigit_append (startsWithDigit_append ?_ _) _
    split
    · exact shown
    · exact startsWithDigit_append (startsWithDigit_take _ (by omega)) _

/-! ## Numbers -/

private theorem named?_eq_none {text : List Char} (starts : StartsWithDigit text) :
    named? text = none := by
  rcases starts with ⟨first, rest, rfl, digit⟩
  have lower : first.toLower = first := by
    unfold isDigit at digit
    simp only [Bool.and_eq_true, decide_eq_true_eq] at digit
    unfold Char.toLower
    rw [dif_neg]
    rintro ⟨letter, -⟩
    exact absurd (Char.le_trans letter digit.2) (by decide)
  have other : ∀ {letter : Char} {letters : List Char}, isDigit letter = false →
      ¬ String.ofList ((first :: rest).map Char.toLower) = String.ofList (letter :: letters) := by
    intro letter letters notDigit same
    have lists := congrArg String.toList same
    rw [String.toList_ofList, String.toList_ofList, List.map_cons, lower] at lists
    rw [(List.cons.inj lists).1, notDigit] at digit
    cases digit
  unfold named?
  simp only
  rw [if_neg (not_or.2 ⟨other (by decide), other (by decide)⟩), if_neg (other (by decide))]

private theorem number?_of_unsigned? {text : List Char} (starts : StartsWithDigit text)
    {value : Float} (read : unsigned? text = some value) :
    number? text = some value ∧ number? ('-' :: text) = some (-value) := by
  have unnamed := named?_eq_none starts
  rcases starts with ⟨first, rest, rfl, digit⟩
  constructor
  · unfold number?
    split
    · next same =>
      cases same
      exact absurd digit (by decide)
    · next same =>
      cases same
      exact absurd digit (by decide)
    · change (named? (first :: rest)).or (unsigned? (first :: rest)) = some value
      rw [unnamed, read]
      rfl
  · simp only [number?, unnamed, read]
    rfl

private theorem unsignedBits_zero {number : Float} (zero : (magnitude number).mantissa = 0) :
    unsignedBits number = 0 := by
  rw [← bits_magnitude]
  rw [magnitude_eq] at zero ⊢
  split at zero
  · next least =>
    rw [if_pos least]
    unfold Dyadic.bits
    simp only at zero ⊢
    omega
  · simp only at zero
    omega

/-- Nothing but digits of zero. -/
private theorem unsigned?_zero (readable : style.Readable) :
    unsigned? ("0" ++ style.wholeMark).toList = some (Float.ofBits 0) := by
  rcases readsAs_zeros readable 0 0 with ⟨significand, exponent, value, read⟩
  have none : significand = 0 := by
    have power : (10 : ℚ) ^ exponent ≠ 0 := by positivity
    have product : (significand : ℚ) * 10 ^ exponent = 0 := by
      rw [value]
      simp
    exact_mod_cast (mul_eq_zero.1 product).resolve_right power
  rw [String.toList_append]
  refine read.trans ?_
  rw [none]
  unfold nearest
  simp

/-- Every finite number is read back from its digits and its sign. -/
private theorem number?_finiteText (readable : style.Readable) {number : Float}
    (numeric : number.isNaN = false) (finite : number.isInf = false) :
    number? (finiteText style number).toList = some number := by
  have signed := signed_ofBits numeric
  have read : ∀ {unsigned : List Char}, StartsWithDigit unsigned →
      unsigned? unsigned = some (Float.ofBits (UInt64.ofNat (unsignedBits number))) →
      number? (if isNegative number then '-' :: unsigned else unsigned) = some number := by
    intro unsigned starts same
    rcases number?_of_unsigned? starts same with ⟨plain, negated⟩
    split
    · next negative =>
      rw [negated]
      rw [if_pos negative] at signed
      rw [signed]
    · next positive =>
      rw [plain]
      rw [if_neg positive] at signed
      rw [signed]
  have sign : ∀ unsigned : String,
      (if isNegative number then "-" ++ unsigned else unsigned).toList =
        if isNegative number then '-' :: unsigned.toList else unsigned.toList := by
    intro unsigned
    split
    · rw [String.toList_append]
      rfl
    · rfl
  unfold finiteText
  simp only
  rw [sign]
  by_cases zero : (magnitude number).mantissa = 0
  · rw [if_pos zero]
    have starts : StartsWithDigit ("0" ++ style.wholeMark).toList := by
      rw [String.toList_append]
      exact startsWithDigit_append ⟨'0', [], rfl, by decide⟩ _
    refine read starts ?_
    rw [unsignedBits_zero zero]
    exact unsigned?_zero readable
  · rw [if_neg zero]
    have representable := magnitude_representable numeric finite zero
    refine read (startsWithDigit_magnitudeText style _) ?_
    rcases magnitudeText_readsAs readable ((magnitude number).shortest style.tie) with
      ⟨significand, exponent, value, same⟩
    have attracted := Dyadic.shortest_attracts representable style.tie
    rw [← value] at attracted
    rw [same, nearest_eq representable attracted, bits_magnitude]

/-- Every number is read back from its text. -/
theorem number?_text (readable : style.Readable) (number : Float) :
    number? (text style number).toList = some number := by
  unfold text
  split
  · next nan =>
    rw [eq_nan nan]
    decide +kernel
  · next numeric =>
    have numeric := Bool.eq_false_iff.2 numeric
    split
    · next infinite =>
      have bits : unsignedBits number = infinityBits := by
        rcases isInf_iff.1 infinite with ⟨exponent, fraction⟩
        rw [infinityBits_eq]
        unfold unsignedBits
        rw [exponent, fraction, Nat.add_zero]
      have signed := signed_ofBits numeric
      rw [bits] at signed
      cases negative : isNegative number with
      | true =>
        rw [negative, if_pos rfl] at signed
        rw [if_pos rfl, ← signed]
        decide +kernel
      | false =>
        rw [negative, if_neg Bool.false_ne_true] at signed
        rw [if_neg Bool.false_ne_true, ← signed]
        decide +kernel
    · next finite => exact number?_finiteText readable numeric (Bool.eq_false_iff.2 finite)

/-- Every character of a number is one that numbers are written with. -/
theorem isNumeral_of_mem_text (readable : style.Readable) {number : Float} {glyph : Char}
    (member : glyph ∈ (text style number).toList) : isNumeral glyph = true := by
  have word : ∀ letters : List Char, letters.all isNumeral = true → glyph ∈ letters →
      isNumeral glyph = true :=
    fun _ all inside => List.all_eq_true.1 all glyph inside
  unfold text at member
  split at member
  · exact word _ (by decide) member
  · split at member
    · split at member
      · exact word _ (by decide) member
      · exact word _ (by decide) member
    · have unsigned : glyph = '-' ∨ glyph ∈ (if (magnitude number).mantissa = 0 then
          "0" ++ style.wholeMark
          else magnitudeText style ((magnitude number).shortest style.tie)).toList := by
        unfold finiteText at member
        simp only at member
        split at member
        · rw [String.toList_append, List.mem_append] at member
          exact member.imp List.mem_singleton.1 id
        · exact Or.inr member
      rcases unsigned with sign | shown
      · rw [sign]
        decide
      · split at shown
        · rw [String.toList_append, List.mem_append] at shown
          rcases shown with zero | mark
          · exact word _ (by decide) zero
          · exact isNumeral_of_mem_wholeMark readable mark
        · exact isNumeral_of_mem_magnitudeText readable _ shown

/-! ## Reals and counts -/

/-- In a style that marks whole numbers, every positive number has a point or an exponent. -/
private theorem marked_magnitudeText (whole : style.wholeMark = ".0") (digits : Digits) :
    '.' ∈ (magnitudeText style digits).toList ∨ 'e' ∈ (magnitudeText style digits).toList := by
  have point : '.' ∈ ".0".toList := by decide
  unfold magnitudeText positionalText exponentText
  simp only
  split
  · left
    split
    · rw [whole, String.toList_append]
      exact List.mem_append_right _ point
    · split
      · rw [String.toList_ofList]
        exact List.mem_append_right _ List.mem_cons_self
      · rw [String.toList_append]
        exact List.mem_append_left _ (by decide)
  · right
    rw [String.toList_append, String.toList_append]
    exact List.mem_append_left _ (List.mem_append_right _ (by decide))

theorem isFinite_iff {number : Float} :
    number.isFinite = true ↔ number.isNaN = false ∧ number.isInf = false := by
  change number.toModel.unpack.isFinite = true ↔
    number.toModel.unpack.isNaN = false ∧ number.toModel.unpack.isInf = false
  cases number.toModel.unpack with
  | notANumber => exact ⟨nofun, fun both => nomatch both.1⟩
  | infinity sign => exact ⟨nofun, fun both => nomatch both.2⟩
  | zero sign => exact ⟨fun _ => ⟨rfl, rfl⟩, fun _ => rfl⟩
  | finite => exact ⟨fun _ => ⟨rfl, rfl⟩, fun _ => rfl⟩

theorem text_of_isFinite (style : Style) {number : Float} (finite : number.isFinite = true) :
    text style number = finiteText style number := by
  have numeric := isFinite_iff.1 finite
  unfold text
  rw [numeric.1, numeric.2, if_neg Bool.false_ne_true, if_neg Bool.false_ne_true]

/-- After its sign, a finite number starts with a digit.  In a style that marks whole numbers
it has a point or an exponent as well, so it is never taken for a count. -/
theorem exists_unsigned_finiteText (style : Style) (number : Float) :
    ∃ unsigned, ((finiteText style number).toList = unsigned ∨
        (finiteText style number).toList = '-' :: unsigned) ∧ StartsWithDigit unsigned ∧
      (style.wholeMark = ".0" → '.' ∈ unsigned ∨ 'e' ∈ unsigned) := by
  unfold finiteText
  simp only
  generalize chosen : (if (magnitude number).mantissa = 0 then "0" ++ style.wholeMark
    else magnitudeText style ((magnitude number).shortest style.tie)) = unsigned
  refine ⟨unsigned.toList, ?_, ?_⟩
  · split
    · right
      rw [String.toList_append]
      rfl
    · exact Or.inl rfl
  · rw [← chosen]
    split
    · rw [String.toList_append]
      constructor
      · exact startsWithDigit_append ⟨'0', [], rfl, by decide⟩ _
      · intro whole
        rw [whole]
        decide
    · exact ⟨startsWithDigit_magnitudeText style _, fun whole => marked_magnitudeText whole _⟩

end Decimal
end Mosaic
