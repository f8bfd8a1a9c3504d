import Mosaic.Proofs.Json.Compact

/-!
# Written numbers and the grammar of JSON

Every number that is written follows the grammar that the reader asks for: there is a
digit on both sides of a point, no zero before other digits, and a digit after an
exponent mark.  So the reader takes the whole of it, and takes it apart into the same
digits.  What those digits stand for is another matter, which is left open here.
-/

namespace Mosaic
namespace Json

open Decimal

/-! ## The grammar -/

/-- What may follow a value in a compact text. -/
def FollowsValue (rest : List Char) : Prop :=
  ∀ glyph ∈ rest.head?, glyph = ',' ∨ glyph = ']' ∨ glyph = '\x7d'

/-- Digits that are not empty. -/
structure AreDigits (digits : List Char) : Prop where
  digit : ∀ glyph ∈ digits, isDigit glyph = true
  some : digits ≠ []

/-- A number as it must be written. -/
structure NumberLiteral.Grammatical (literal : NumberLiteral) : Prop where
  whole : AreDigits literal.whole
  /-- A leading zero stands alone. -/
  lead : literal.whole = ['0'] ∨ literal.whole.head? ≠ some '0'
  fraction : literal.fraction ≠ [] → AreDigits literal.fraction
  exponent : ∀ exponent, literal.exponent = some exponent → AreDigits exponent.digits

/-- The digits after a point, with the point if there are any. -/
def fractionSpelling : List Char → List Char
  | [] => []
  | digit :: digits => '.' :: digit :: digits

/-- An exponent with its mark and its sign. -/
def exponentSpelling : Option ExponentLiteral → List Char
  | none => []
  | some exponent => 'e' :: (if exponent.negative then '-' else '+') :: exponent.digits

/-- A number as it is written. -/
def NumberLiteral.spelling (literal : NumberLiteral) : List Char :=
  (if literal.negative then ['-'] else []) ++ literal.whole ++
    (fractionSpelling literal.fraction ++ exponentSpelling literal.exponent)

/-! ## Reading by the grammar -/

/-- No digit goes on here. -/
def EndsDigits (rest : List Char) : Prop :=
  ∀ glyph ∈ rest.head?, isDigit glyph = false

theorem AreDigits.take_drop {digits rest : List Char} (known : AreDigits digits)
    (ends : EndsDigits rest) :
    (digits ++ rest).takeWhile isDigit = digits ∧ (digits ++ rest).dropWhile isDigit = rest := by
  rw [List.takeWhile_append_of_pos known.digit, List.dropWhile_append_of_pos known.digit]
  cases rest with
  | nil => exact ⟨List.append_nil _, rfl⟩
  | cons glyph rest =>
    have stop : ¬ isDigit glyph = true := by
      rw [ends glyph rfl]
      exact Bool.false_ne_true
    rw [List.takeWhile_cons_of_neg stop, List.dropWhile_cons_of_neg stop]
    exact ⟨List.append_nil _, rfl⟩

theorem AreDigits.isEmpty {digits : List Char} (known : AreDigits digits) :
    digits.isEmpty = false :=
  List.isEmpty_eq_false_iff.2 known.some

theorem readWhole?_append {digits rest : List Char} (known : AreDigits digits)
    (lead : digits = ['0'] ∨ digits.head? ≠ some '0') (ends : EndsDigits rest) :
    readWhole? (digits ++ rest) = some (digits, rest) := by
  rcases lead with rfl | lead
  · cases rest with
    | nil => rfl
    | cons glyph rest =>
      have stop := ends glyph rfl
      change (if isDigit glyph then none else some (['0'], glyph :: rest)) = _
      rw [stop, if_neg Bool.false_ne_true]
  · rcases known.take_drop ends with ⟨taken, dropped⟩
    rcases List.exists_cons_of_ne_nil known.some with ⟨first, more, rfl⟩
    have other : first ≠ '0' := fun same => lead (congrArg some same)
    unfold readWhole?
    split
    · next same => exact absurd (List.cons.inj same).1 other
    · simp only [taken, dropped, known.isEmpty, Bool.false_eq_true, if_false]

theorem readFraction?_append {digits rest : List Char}
    (known : digits ≠ [] → AreDigits digits) (ends : EndsDigits rest)
    (point : rest.head? ≠ some '.') :
    readFraction? (fractionSpelling digits ++ rest) = some (digits, rest) := by
  cases digits with
  | nil =>
    rw [fractionSpelling, List.nil_append]
    unfold readFraction?
    split
    · exact absurd rfl point
    · rfl
  | cons digit digits =>
    have known := known (List.cons_ne_nil _ _)
    rcases known.take_drop ends with ⟨taken, dropped⟩
    rw [fractionSpelling, List.cons_append]
    unfold readFraction?
    simp only [taken, dropped, known.isEmpty, Bool.false_eq_true, if_false]

theorem readExponent?_append {exponent : Option ExponentLiteral} {rest : List Char}
    (known : ∀ given, exponent = some given → AreDigits given.digits) (ends : EndsDigits rest)
    (mark : rest.head? ≠ some 'e' ∧ rest.head? ≠ some 'E') :
    readExponent? (exponentSpelling exponent ++ rest) = some (exponent, rest) := by
  cases exponent with
  | none =>
    rw [exponentSpelling, List.nil_append]
    cases rest with
    | nil => rfl
    | cons glyph rest =>
      have other : ¬ (glyph = 'e' ∨ glyph = 'E') := by
        rintro (rfl | rfl)
        · exact mark.1 rfl
        · exact mark.2 rfl
      change (if glyph = 'e' ∨ glyph = 'E' then _ else some (none, glyph :: rest)) = _
      exact if_neg other
  | some given =>
    rcases given with ⟨negative, digits⟩
    have known := known _ rfl
    rcases known.take_drop ends with ⟨taken, dropped⟩
    have read (sign : Bool) : readExponentDigits? sign (digits ++ rest) =
        some (⟨sign, digits⟩, rest) := by
      unfold readExponentDigits?
      simp only [taken, dropped, known.isEmpty, Bool.false_eq_true, if_false]
    cases negative with
    | true =>
      change (readExponentDigits? true (digits ++ rest)).map _ = _
      rw [read]
      rfl
    | false =>
      change (readExponentDigits? false (digits ++ rest)).map _ = _
      rw [read]
      rfl

/-- What follows a value goes on with no part of a number. -/
theorem FollowsValue.closes {rest : List Char} (follows : FollowsValue rest) :
    EndsDigits rest ∧ rest.head? ≠ some '.' ∧ rest.head? ≠ some 'e' ∧ rest.head? ≠ some 'E' := by
  cases rest with
  | nil => exact ⟨nofun, nofun, nofun, nofun⟩
  | cons glyph rest =>
    have known := follows glyph rfl
    refine ⟨fun other same => ?_, ?_, ?_, ?_⟩
    · cases same
      rcases known with rfl | rfl | rfl <;> decide
    all_goals
      intro same
      cases same
      revert known
      decide

private theorem endsDigits_fractionSpelling (digits : List Char) {rest : List Char}
    (ends : EndsDigits rest) : EndsDigits (fractionSpelling digits ++ rest) := by
  cases digits with
  | nil => exact ends
  | cons digit digits =>
    intro glyph same
    cases same
    decide

private theorem ends_exponentSpelling (exponent : Option ExponentLiteral) {rest : List Char}
    (ends : EndsDigits rest) (point : rest.head? ≠ some '.') :
    EndsDigits (exponentSpelling exponent ++ rest) ∧
      (exponentSpelling exponent ++ rest).head? ≠ some '.' := by
  cases exponent with
  | none => exact ⟨ends, point⟩
  | some given =>
    refine ⟨fun glyph same => ?_, nofun⟩
    cases same
    decide

private theorem readUnsigned?_append {literal : NumberLiteral} (known : literal.Grammatical)
    (negative : Bool) {rest : List Char} (follows : FollowsValue rest) :
    readUnsigned? negative (literal.whole ++
        (fractionSpelling literal.fraction ++ (exponentSpelling literal.exponent ++ rest))) =
      some ({ literal with negative }, rest) := by
  rcases follows.closes with ⟨ends, point, small, large⟩
  rcases ends_exponentSpelling literal.exponent ends point with ⟨later, noPoint⟩
  have whole := readWhole?_append known.whole known.lead
    (endsDigits_fractionSpelling literal.fraction later)
  have fraction := readFraction?_append known.fraction later noPoint
  have exponent := readExponent?_append known.exponent ends ⟨small, large⟩
  unfold readUnsigned?
  simp only [whole, fraction, exponent, Option.bind_eq_bind, Option.bind_some]
  rfl

/-- A number that follows the grammar is read as a whole, and as it was written. -/
theorem NumberLiteral.Grammatical.read {literal : NumberLiteral} (known : literal.Grammatical)
    {rest : List Char} (follows : FollowsValue rest) :
    readNumber? (literal.spelling ++ rest) = some (literal, rest) := by
  have unsigned := readUnsigned?_append known literal.negative follows
  rcases List.exists_cons_of_ne_nil known.whole.some with ⟨first, more, shown⟩
  have digit := known.whole.digit first (shown ▸ List.mem_cons_self)
  unfold NumberLiteral.spelling
  rw [List.append_assoc, List.append_assoc, List.append_assoc]
  cases sign : literal.negative with
  | true =>
    rw [sign] at unsigned
    exact unsigned.trans (sign ▸ rfl)
  | false =>
    rw [sign] at unsigned
    rw [if_neg Bool.false_ne_true, List.nil_append]
    unfold readNumber?
    split
    · next same =>
      rw [shown] at same
      cases (List.cons.inj same).1
      exact absurd digit (by decide)
    · exact unsigned.trans (sign ▸ rfl)

theorem NumberLiteral.Grammatical.read_alone {literal : NumberLiteral}
    (known : literal.Grammatical) : readNumber? literal.spelling = some (literal, []) := by
  have read := known.read (show FollowsValue [] from nofun)
  rwa [List.append_nil] at read

/-! ## What is written -/

theorem head?_digitsOf {number : Nat} (positive : 0 < number) :
    (digitsOf number).head? ≠ some '0' := by
  induction number using Nat.strongRecOn with
  | ind number ih =>
    unfold digitsOf at ih ⊢
    by_cases small : number < 10
    · rw [Nat.toDigits_of_lt_base small]
      interval_cases number <;> decide
    · rw [Nat.toDigits_of_base_le (by decide) (by omega),
        List.head?_append_of_ne_nil _ Nat.toDigits_ne_nil]
      exact ih (number / 10) (by omega) (by omega)

theorem areDigits_digitsOf (number : Nat) : AreDigits (digitsOf number) :=
  ⟨fun _ => isDigit_of_mem_digitsOf, digitsOf_ne_nil number⟩

theorem areDigits_zeros {count : Nat} (positive : 0 < count) :
    AreDigits (List.replicate count '0') := by
  refine ⟨fun glyph member => ?_, ?_⟩
  · rw [List.eq_of_mem_replicate member]
    rfl
  · rw [ne_eq, List.replicate_eq_nil_iff]
    omega

theorem AreDigits.append {front back : List Char} (first : AreDigits front)
    (second : ∀ glyph ∈ back, isDigit glyph = true) : AreDigits (front ++ back) :=
  ⟨fun glyph member => (List.mem_append.1 member).elim (first.digit glyph) (second glyph),
    List.append_ne_nil_of_left_ne_nil first.some back⟩

/-- Is this the text of a real number without its sign? -/
def IsMagnitude (text : List Char) : Prop :=
  ∃ literal : NumberLiteral, literal.Grammatical ∧ literal.negative = false ∧
    literal.isWhole = false ∧ text = literal.spelling

theorem isMagnitude_point {whole fraction : List Char} (left : AreDigits whole)
    (lead : whole = ['0'] ∨ whole.head? ≠ some '0') (right : AreDigits fraction) :
    IsMagnitude (whole ++ '.' :: fraction) := by
  refine ⟨⟨false, whole, fraction, none⟩, ⟨left, lead, fun _ => right, nofun⟩, rfl, ?_, ?_⟩
  · rw [NumberLiteral.isWhole, right.isEmpty, Bool.false_and]
  · rcases List.exists_cons_of_ne_nil right.some with ⟨first, more, rfl⟩
    rw [NumberLiteral.spelling, fractionSpelling, exponentSpelling, List.append_nil]
    rfl

theorem isMagnitude_zero : IsMagnitude ("0" ++ numberStyle.wholeMark).toList :=
  isMagnitude_point (areDigits_zeros (by decide : 0 < 1)) (Or.inl rfl)
    (areDigits_zeros (by decide : 0 < 1))

private theorem isMagnitude_positionalText {digits : Digits} (positive : 0 < digits.significand) :
    IsMagnitude (positionalText numberStyle digits).toList := by
  have shown := areDigits_digitsOf digits.significand
  have lead := head?_digitsOf positive
  unfold positionalText
  simp only
  split
  · rw [String.toList_append, String.toList_ofList]
    refine isMagnitude_point (shown.append fun glyph member => ?_) (Or.inr ?_)
      (areDigits_zeros (by decide : 0 < 1))
    · rw [List.eq_of_mem_replicate member]
      rfl
    · rwa [List.head?_append_of_ne_nil _ shown.some]
  · next down =>
    split
    · next inside =>
      rw [String.toList_ofList]
      have place : 0 < ((digitsOf digits.significand).length + digits.exponent).toNat := by omega
      have several : ((digitsOf digits.significand).length + digits.exponent).toNat <
          (digitsOf digits.significand).length := by omega
      refine isMagnitude_point
        ⟨fun glyph member => shown.digit glyph (List.mem_of_mem_take member), ?_⟩ (Or.inr ?_)
        ⟨fun glyph member => shown.digit glyph (List.mem_of_mem_drop member), ?_⟩
      · rw [ne_eq, List.take_eq_nil_iff, not_or]
        exact ⟨by omega, shown.some⟩
      · rwa [List.head?_take, if_neg (by omega)]
      · rw [ne_eq, List.drop_eq_nil_iff]
        omega
    · have fraction : AreDigits (List.replicate
          (-((digitsOf digits.significand).length + digits.exponent)).toNat '0' ++
            digitsOf digits.significand) := by
        refine ⟨fun glyph member => ?_, List.append_ne_nil_of_right_ne_nil _ shown.some⟩
        rcases List.mem_append.1 member with zero | digit
        · rw [List.eq_of_mem_replicate zero]
          rfl
        · exact shown.digit glyph digit
      rw [String.toList_append, String.toList_ofList, String.toList_ofList]
      exact isMagnitude_point (areDigits_zeros (by decide : 0 < 1)) (Or.inl rfl) fraction

private theorem isMagnitude_exponentText {digits : Digits} (positive : 0 < digits.significand) :
    IsMagnitude (exponentText numberStyle digits).toList := by
  have known := areDigits_digitsOf digits.significand
  have lead := head?_digitsOf positive
  rcases List.exists_cons_of_ne_nil known.some with ⟨first, rest, shown⟩
  rw [shown] at known lead
  have whole : AreDigits [first] :=
    ⟨fun glyph member => known.digit glyph (List.mem_append_left rest member), List.cons_ne_nil _ _⟩
  have written (place : Int) : ∃ exponent : ExponentLiteral, AreDigits exponent.digits ∧
      ("e" ++ (if 0 ≤ place then numberStyle.exponentMark ++ natText place.toNat
        else "-" ++ natText (-place).toNat)).toList = exponentSpelling (some exponent) := by
    split
    · refine ⟨⟨false, digitsOf place.toNat⟩, areDigits_digitsOf _, ?_⟩
      rw [String.toList_append, String.toList_append, natText, String.toList_ofList,
        String.toList_ofList]
      rfl
    · refine ⟨⟨true, digitsOf (-place).toNat⟩, areDigits_digitsOf _, ?_⟩
      rw [String.toList_append, String.toList_append, natText, String.toList_ofList,
        String.toList_ofList, String.toList_ofList]
      rfl
  rcases written ((digitsOf digits.significand).length + digits.exponent - 1) with
    ⟨exponent, exponentDigits, spelled⟩
  refine ⟨⟨false, [first], rest, some exponent⟩,
    ⟨whole, Or.inr lead, fun nonempty => ?_, ?_⟩, rfl, ?_, ?_⟩
  · exact ⟨fun glyph member => known.digit glyph (List.mem_cons_of_mem _ member), nonempty⟩
  · rintro given same
    cases same
    exact exponentDigits
  · rw [NumberLiteral.isWhole, Option.isNone_some, Bool.and_false]
  · unfold exponentText
    simp only
    rw [String.append_assoc, String.toList_append, spelled, String.toList_ofList, shown]
    cases rest with
    | nil => rfl
    | cons second rest => rfl

/-- A finite number is written as a magnitude, with a sign before it or without. -/
private theorem exists_magnitude {value : Float} (finite : value.isFinite = true) :
    ∃ text, IsMagnitude text ∧ (Decimal.text numberStyle value).toList =
      (if isNegative value then ['-'] else []) ++ text := by
  rw [text_of_isFinite numberStyle finite]
  unfold finiteText
  simp only
  generalize chosen : (if (magnitude value).mantissa = 0 then "0" ++ numberStyle.wholeMark
    else magnitudeText numberStyle ((magnitude value).shortest numberStyle.tie)) = unsigned
  refine ⟨unsigned.toList, ?_, ?_⟩
  · rw [← chosen]
    split
    · exact isMagnitude_zero
    · next nonzero =>
      rcases isFinite_iff.1 finite with ⟨numeric, bounded⟩
      have representable := magnitude_representable numeric bounded nonzero
      have attracted := Dyadic.shortest_attracts representable numberStyle.tie
      have positive : 0 < ((magnitude value).shortest numberStyle.tie).significand := by
        refine Nat.pos_of_ne_zero fun none => ?_
        have value := attracted.pos representable
        rw [Digits.value, none, Nat.cast_zero, zero_mul] at value
        exact lt_irrefl _ value
      unfold magnitudeText
      simp only
      split
      · exact isMagnitude_positionalText positive
      · exact isMagnitude_exponentText positive
  · split
    · rw [String.toList_append]
      rfl
    · rfl

def integerLiteral (value : Int) : NumberLiteral :=
  ⟨decide (value < 0), digitsOf value.natAbs, [], none⟩

theorem grammatical_integerLiteral (value : Int) : (integerLiteral value).Grammatical := by
  refine ⟨areDigits_digitsOf _, ?_, fun some => absurd rfl some, nofun⟩
  unfold integerLiteral
  cases size : value.natAbs with
  | zero => exact Or.inl rfl
  | succ less => exact Or.inr (head?_digitsOf (Nat.succ_pos less))

theorem toList_integerText_eq_spelling (value : Int) :
    (integerText value).toList = (integerLiteral value).spelling := by
  rw [toList_integerText, NumberLiteral.spelling, integerLiteral, fractionSpelling,
    exponentSpelling, List.append_nil, List.append_nil]
  simp only [decide_eq_true_eq]

/-- Integers and finite reals are written by the grammar, and reals have a fraction or
an exponent. -/
theorem exists_spelling {number : Number} (finite : number.IsFinite) :
    ∃ literal : NumberLiteral, literal.Grammatical ∧
      (numberText number).toList = literal.spelling ∧
      ∀ value, number = .real value → literal.isWhole = false := by
  cases finite with
  | integer value =>
    exact ⟨integerLiteral value, grammatical_integerLiteral value,
      toList_integerText_eq_spelling value, nofun⟩
  | @real value finite =>
    rcases exists_magnitude finite with ⟨text, ⟨literal, known, unsigned, fractional, rfl⟩, shown⟩
    rw [numberText, if_pos finite, shown]
    refine ⟨{ literal with negative := isNegative value },
      ⟨known.whole, known.lead, known.fraction, known.exponent⟩, ?_, fun _ _ => fractional⟩
    rw [NumberLiteral.spelling, NumberLiteral.spelling, unsigned, if_neg Bool.false_ne_true,
      List.nil_append, List.append_assoc]

end Json
end Mosaic
