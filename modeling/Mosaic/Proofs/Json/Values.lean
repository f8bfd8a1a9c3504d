import Mathlib.Data.String.Basic
import Mosaic.Json.Value
import Mosaic.Proofs.Json.Decoding
import Mosaic.Proofs.Table

/-!
# Values read back on one line

A document tells which value was written.  Its strings have their text again, and the members of
an object are in the order of their names again.  An integer is told by its digits, as far as
machine words reach; that the text of a real number is read as that number is not a property of
the layout of digits, and is asked for each real number of the value.

Strings escape all control characters, and nothing else that is written is one.  So the text of a
value is a single line, whatever its strings and the names of its members are.
-/

namespace Mosaic
namespace Json

/-! ## Values as they are held -/

/-- A value as it is held: integers fit in machine words, unsigned or signed, real numbers are
finite, and the members of objects are in the order of their names, each once. -/
inductive Held : Json → Prop
  | null : Held .null
  | bool (value : Bool) : Held (.bool value)
  | integer {value : Int} (low : -0x8000000000000000 ≤ value)
      (high : value ≤ Decimal.largestWord) : Held (.number (.integer value))
  | real {value : Float} (finite : value.isFinite = true) : Held (.number (.real value))
  | string (text : String) : Held (.string text)
  | array {items : List Json} (each : ∀ item ∈ items, Held item) : Held (.array items)
  | object {members : Table String Json} (ascending : members.Ascending)
      (each : ∀ member ∈ members, Held member.2) : Held (.object members)

mutual

/-- The real numbers in a value. -/
def reals : Json → List Float
  | .null | .bool _ | .number (.integer _) | .string _ => []
  | .number (.real value) => [value]
  | .array items => realsOfItems items
  | .object members => realsOfMembers members

def realsOfItems : List Json → List Float
  | [] => []
  | item :: items => reals item ++ realsOfItems items

def realsOfMembers : List (String × Json) → List Float
  | [] => []
  | (_, value) :: members => reals value ++ realsOfMembers members

end

theorem realsOfItems_eq (items : List Json) : realsOfItems items = items.flatMap reals := by
  induction items with
  | nil => rfl
  | cons item items ih => rw [realsOfItems, ih, List.flatMap_cons]

theorem realsOfMembers_eq (members : List (String × Json)) :
    realsOfMembers members = members.flatMap fun member => reals member.2 := by
  induction members with
  | nil => rfl
  | cons member members ih => rw [realsOfMembers, ih, List.flatMap_cons]

/-! ## Numbers -/

/-- Is the text of a number read back as that number? -/
def ReadsBack (value : Float) : Prop :=
  ∃ literal, readNumber? (numberText (.real value)).toList = some (literal, []) ∧
    literal.real? = some value

/-- A number that is read back has a literal, which is not an integer. -/
theorem ReadsBack.exists_literal {value : Float} (readsBack : ReadsBack value)
    (finite : value.isFinite = true) :
    ∃ literal, (ofFloat value).document = .number literal ∧ literal.real? = some value ∧
      literal.isWhole = false := by
  rcases readsBack with ⟨literal, read, real⟩
  rcases exists_spelling (.real finite) with ⟨spelled, grammatical, shown, fractional⟩
  have same := grammatical.read_alone
  rw [← shown, read] at same
  cases same
  refine ⟨literal, ?_, real, fractional value rfl⟩
  rw [ofFloat, if_pos finite, document, numberDocument, read]

/-- What is written without fraction and exponent is found with its digits. -/
theorem numberDocument_integer (value : Int) :
    numberDocument (.integer value) = .number (integerLiteral value) := by
  rw [numberDocument, numberText, toList_integerText_eq_spelling,
    (grammatical_integerLiteral value).read_alone]

/-- An integer that fits in a machine word is told by its digits. -/
theorem value?_integerLiteral {value : Int} (low : -0x8000000000000000 ≤ value)
    (high : value ≤ Decimal.largestWord) :
    (integerLiteral value).value? = some (.integer value) := by
  have size : Decimal.digitsValue (integerLiteral value).whole = value.natAbs :=
    Decimal.digitsValue_digitsOf _
  have whole : (integerLiteral value).isWhole = true := rfl
  unfold NumberLiteral.value?
  simp only [size, whole, Bool.true_and]
  by_cases negative : value < 0
  · have sign : (integerLiteral value).negative = true := decide_eq_true negative
    have positive : 0 < value.natAbs := by omega
    have fits : value.natAbs ≤ 0x8000000000000000 := by omega
    have back : -(value.natAbs : Int) = value := by omega
    simp only [sign, positive, fits, back, Bool.not_true, Bool.false_and, decide_true,
      Bool.and_true, Bool.false_eq_true, if_false, if_true]
  · have sign : (integerLiteral value).negative = false := decide_eq_false negative
    have fits : value.natAbs ≤ Decimal.largestWord := by omega
    have back : (value.natAbs : Int) = value := by omega
    simp only [sign, fits, back, Bool.not_false, Bool.true_and, decide_true, if_true]

/-! ## Values told from documents -/

theorem documentMembers_eq_map (members : List (String × Json)) :
    documentMembers members =
      members.map fun member => (member.1.toList.map unitOf, member.2.document) := by
  induction members with
  | nil => rfl
  | cons member members ih => rw [documentMembers, ih, List.map_cons]

theorem ofItems?_documentItems {items : List Json}
    (each : ∀ item ∈ items, Json.ofDocument? item.document = some item) :
    ofItems? (documentItems items) = some items := by
  induction items with
  | nil => rfl
  | cons item items ih =>
    rw [List.forall_mem_cons] at each
    rw [documentItems, ofItems?, each.1, ih each.2]

theorem ofMembers?_documentMembers {members : List (String × Json)}
    (each : ∀ member ∈ members, Json.ofDocument? member.2.document = some member.2) :
    ofMembers? (documentMembers members) = some members := by
  induction members with
  | nil => rfl
  | cons member members ih =>
    rw [List.forall_mem_cons] at each
    rw [documentMembers, ofMembers?, textOfUnits?_map_unitOf, each.1, ih each.2]
    dsimp only
    rw [String.ofList_toList]

/-- A value is told from its document, if its real numbers are. -/
theorem Held.ofDocument?_document {json : Json} (held : json.Held)
    (readsBack : ∀ value ∈ json.reals, ReadsBack value) :
    Json.ofDocument? json.document = some json := by
  induction held with
  | null => rfl
  | bool value => rfl
  | integer low high =>
    rw [document, numberDocument_integer, ofDocument?, value?_integerLiteral low high]
    rfl
  | @real value finite =>
    have known := readsBack value List.mem_cons_self
    rcases known.exists_literal finite with ⟨literal, found, real, fractional⟩
    rw [ofFloat, if_pos finite] at found
    rw [found, ofDocument?, NumberLiteral.value?, fractional, real]
    rfl
  | string text =>
    rw [document, ofDocument?, textOfUnits?_map_unitOf, Option.map_some, String.ofList_toList]
  | @array items each ih =>
    rw [reals, realsOfItems_eq] at readsBack
    have told : ∀ item ∈ items, Json.ofDocument? item.document = some item := fun item member =>
      ih item member fun value inside => readsBack value (List.mem_flatMap.2 ⟨item, member, inside⟩)
    rw [document, ofDocument?, ofItems?_documentItems told, Option.map_some]
  | @object members ascending each ih =>
    rw [reals, realsOfMembers_eq] at readsBack
    have told : ∀ member ∈ members, Json.ofDocument? member.2.document = some member.2 :=
      fun member listed => ih member listed fun value inside =>
        readsBack value (List.mem_flatMap.2 ⟨member, listed, inside⟩)
    rw [document, ofDocument?, ofMembers?_documentMembers told, Option.map_some,
      ascending.ofEntries_eq]

/-! ## One line -/

/-- Is none of these a control character? -/
def IsVisible (text : List Char) : Prop :=
  ∀ glyph ∈ text, 0x20 ≤ glyph.toNat

instance (text : List Char) : Decidable (IsVisible text) :=
  List.decidableBAll _ text

theorem IsVisible.append {front back : List Char} (first : IsVisible front)
    (second : IsVisible back) : IsVisible (front ++ back) :=
  List.forall_mem_append.2 ⟨first, second⟩

theorem IsVisible.cons {glyph : Char} {text : List Char} (visible : 0x20 ≤ glyph.toNat)
    (rest : IsVisible text) : IsVisible (glyph :: text) :=
  List.forall_mem_cons.2 ⟨visible, rest⟩

theorem isVisible_flatMap {α : Type} {write : α → List Char} {entries : List α}
    (each : ∀ entry ∈ entries, IsVisible (write entry)) : IsVisible (entries.flatMap write) := by
  intro glyph member
  rcases List.mem_flatMap.1 member with ⟨entry, listed, inside⟩
  exact each entry listed glyph inside

private theorem isVisible_codeEscape : ∀ code < 0x20,
    IsVisible ['\\', 'u', '0', '0', hexGlyph (code / 16), hexGlyph (code % 16)] := by
  decide

theorem isVisible_escapedGlyph (glyph : Char) : IsVisible (escapedGlyph glyph) := by
  by_cases known : glyph ∈ ['"', '\\', '\x08', '\t', '\n', '\x0c', '\r']
  · simp only [List.mem_cons, List.not_mem_nil, or_false] at known
    rcases known with rfl | rfl | rfl | rfl | rfl | rfl | rfl <;> decide
  · simp only [List.mem_cons, List.not_mem_nil, or_false, not_or] at known
    rcases known with ⟨quote, escape, back, tab, feed, form, carriage⟩
    unfold escapedGlyph
    simp only [quote, escape, back, tab, feed, form, carriage, if_false]
    split
    · next control => exact isVisible_codeEscape glyph.toNat control
    · next plain => exact List.forall_mem_singleton.2 (Nat.le_of_not_lt plain)

theorem isVisible_stringText (text : String) : IsVisible (stringText text).toList := by
  rw [toList_stringText]
  have inside : IsVisible (text.toList.flatMap escapedGlyph) :=
    isVisible_flatMap fun glyph _ => isVisible_escapedGlyph glyph
  exact .cons (by decide) (inside.append (List.forall_mem_singleton.2 (by decide)))

theorem AreDigits.isVisible {digits : List Char} (known : AreDigits digits) : IsVisible digits := by
  intro glyph member
  have digit := known.digit glyph member
  unfold Decimal.isDigit at digit
  simp only [Bool.and_eq_true, decide_eq_true_eq] at digit
  exact Nat.le_trans (by decide : 0x20 ≤ '0'.toNat) digit.1

/-- Numbers are written with digits, signs, points and exponent marks. -/
theorem NumberLiteral.Grammatical.isVisible {literal : NumberLiteral}
    (known : literal.Grammatical) : IsVisible literal.spelling := by
  have sign (negative : Bool) : IsVisible (if negative then ['-'] else []) := by
    cases negative <;> decide
  have fraction : IsVisible (fractionSpelling literal.fraction) := by
    cases given : literal.fraction with
    | nil => exact List.forall_mem_nil _
    | cons digit digits =>
      have shown := known.fraction (given ▸ List.cons_ne_nil _ _)
      exact .cons (by decide) (given ▸ shown.isVisible)
  have exponent : IsVisible (exponentSpelling literal.exponent) := by
    cases given : literal.exponent with
    | none => exact List.forall_mem_nil _
    | some exponent =>
      refine .cons (by decide) (.cons ?_ (known.exponent exponent given).isVisible)
      cases exponent.negative <;> decide
  exact ((sign literal.negative).append known.whole.isVisible).append (fraction.append exponent)

theorem isVisible_numberText (number : Number) : IsVisible (numberText number).toList := by
  have written (finite : number.IsFinite) : IsVisible (numberText number).toList := by
    rcases exists_spelling finite with ⟨literal, grammatical, shown, -⟩
    exact shown ▸ grammatical.isVisible
  cases number with
  | integer value => exact written (.integer value)
  | real value =>
    cases finite : value.isFinite with
    | true => exact written (.real finite)
    | false =>
      rw [numberText, finite, if_neg Bool.false_ne_true]
      decide +kernel

theorem isVisible_between {α : Type} {write : α → List Char} {entries : List α}
    (each : ∀ entry ∈ entries, IsVisible (write entry)) : IsVisible (between write entries) := by
  cases entries with
  | nil => exact List.forall_mem_nil _
  | cons first entries =>
    rw [List.forall_mem_cons] at each
    have later := isVisible_flatMap fun entry member =>
      IsVisible.cons (by decide : 0x20 ≤ ','.toNat) (each.2 entry member)
    exact each.1.append later

/-- The text of a value has no control characters. -/
theorem isVisible_compact (json : Json) : IsVisible json.compact.toList := by
  induction json using Json.induction with
  | null => decide +kernel
  | bool value => cases value <;> decide +kernel
  | number value => exact isVisible_numberText value
  | string text => exact isVisible_stringText text
  | array items ih =>
    rw [toList_array]
    exact .cons (by decide)
      ((isVisible_between ih).append (List.forall_mem_singleton.2 (by decide)))
  | object members ih =>
    have each : ∀ member ∈ members, IsVisible (memberText member) := fun member listed =>
      (isVisible_stringText member.1).append (.cons (by decide) (ih member listed))
    rw [toList_object]
    exact .cons (by decide)
      ((isVisible_between each).append (List.forall_mem_singleton.2 (by decide)))

theorem lineFeed_not_mem_compact (json : Json) : '\n' ∉ json.compact.toList :=
  fun member => absurd (isVisible_compact json '\n' member) (by decide)

end Json
end Mosaic
