import Mosaic.Json.Reader
import Mosaic.Json.Writer
import Mosaic.Proofs.Decimal.ReadBack

/-!
# One reading of a compact text

A compact text stands for one value only.  Its first character tells what kind of value
it is.  A string ends where a reader finds its closing quote, a number ends before the
first character that no number is written with, and the entries of arrays and objects
are told apart by commas.  So whatever follows a value, the value and what follows are
both determined.  This needs all reals to be finite, as there is no text for the others.
-/

namespace Mosaic
namespace Json

/-! ## Strings -/

/-- What a reader finds where a character was written. -/
def unitOf (glyph : Char) : StringUnit :=
  if glyph.toNat < 0x20 ∧ glyph ∉ ['\x08', '\t', '\n', '\x0c', '\r'] then .code glyph.toNat
  else .glyph glyph

/-- Different characters are found again as different units. -/
theorem unitOf_injective : Function.Injective unitOf := by
  intro glyph other same
  unfold unitOf at same
  split at same
  · split at same
    · exact Char.toNat_inj.1 (StringUnit.code.inj same)
    · cases same
  · split at same
    · cases same
    · exact StringUnit.glyph.inj same

private theorem codeUnit?_hexGlyph : ∀ code < 0x20,
    codeUnit? '0' '0' (hexGlyph (code / 16)) (hexGlyph (code % 16)) = some code := by
  decide

private theorem readUnits?_short {letter glyph : Char} (short : shortEscape? letter = some glyph)
    (other : letter ≠ 'u') (unit : unitOf glyph = .glyph glyph) (rest : List Char) :
    readUnits? ('\\' :: letter :: rest) =
      (readUnits? rest).map fun result => (unitOf glyph :: result.1, result.2) := by
  rw [readUnits?, short, unit]
  · cases readUnits? rest <;> rfl
  · exact fun _ _ _ _ _ same => absurd same other

private theorem readUnits?_code {code : Nat} (control : code < 0x20) (rest : List Char) :
    readUnits? ('\\' :: 'u' :: '0' :: '0' :: hexGlyph (code / 16) :: hexGlyph (code % 16) :: rest) =
      (readUnits? rest).map fun result => (.code code :: result.1, result.2) := by
  rw [readUnits?, codeUnit?_hexGlyph code control]
  cases readUnits? rest <;> rfl

private theorem readUnits?_plain {glyph : Char} (quote : glyph ≠ '"') (escape : glyph ≠ '\\')
    (visible : ¬ glyph.toNat < 0x20) (rest : List Char) :
    readUnits? (glyph :: rest) =
      (readUnits? rest).map fun result => (.glyph glyph :: result.1, result.2) := by
  rw [readUnits?]
  · exact if_neg (not_or.2 ⟨visible, escape⟩)
  · simpa using quote
  · simp [escape]
  · simp [escape]

/-- A character is read back, however it is escaped. -/
private theorem readUnits?_escapedGlyph (glyph : Char) (rest : List Char) :
    readUnits? (escapedGlyph glyph ++ rest) =
      (readUnits? rest).map fun result => (unitOf glyph :: result.1, result.2) := by
  by_cases known : glyph ∈ ['"', '\\', '\x08', '\t', '\n', '\x0c', '\r']
  · simp only [List.mem_cons, List.not_mem_nil, or_false] at known
    rcases known with rfl | rfl | rfl | rfl | rfl | rfl | rfl <;>
      exact readUnits?_short rfl (by decide) (by decide) rest
  · simp only [List.mem_cons, List.not_mem_nil, or_false, not_or] at known
    rcases known with ⟨quote, escape, back, tab, feed, form, carriage⟩
    unfold escapedGlyph unitOf
    simp only [quote, escape, back, tab, feed, form, carriage, if_false, List.mem_cons,
      List.not_mem_nil, or_false, not_false_eq_true, and_true]
    by_cases control : glyph.toNat < 0x20
    · rw [if_pos control, if_pos control]
      exact readUnits?_code control rest
    · rw [if_neg control, if_neg control]
      exact readUnits?_plain quote escape control rest

/-- The text between the quotes is read back up to its closing quote. -/
theorem readUnits?_escaped (text rest : List Char) :
    readUnits? (text.flatMap escapedGlyph ++ '"' :: rest) = some (text.map unitOf, rest) := by
  induction text with
  | nil =>
    rw [List.flatMap_nil, List.nil_append, readUnits?]
    rfl
  | cons glyph text ih =>
    rw [List.flatMap_cons, List.append_assoc, readUnits?_escapedGlyph, ih]
    rfl

theorem toList_stringText (text : String) :
    (stringText text).toList = '"' :: (text.toList.flatMap escapedGlyph ++ ['"']) := by
  unfold stringText
  rw [String.toList_append, String.toList_append]
  exact congrArg (fun body => '"' :: (body ++ ['"'])) String.toList_ofList

/-- A string ends at its closing quote, whatever follows. -/
theorem stringText_unique {text other : String} {rest otherRest : List Char}
    (same : (stringText text).toList ++ rest = (stringText other).toList ++ otherRest) :
    text = other ∧ rest = otherRest := by
  rw [toList_stringText, toList_stringText, List.cons_append, List.cons_append, List.append_assoc,
    List.append_assoc] at same
  have read := congrArg readUnits? (List.cons.inj same).2
  rw [List.singleton_append, List.singleton_append, readUnits?_escaped, readUnits?_escaped] at read
  have parts := Prod.mk.inj (Option.some.inj read)
  exact ⟨String.toList_injective (unitOf_injective.list_map parts.1), parts.2⟩

/-! ## Numbers -/

inductive Number.IsFinite : Number → Prop
  | integer (value : Int) : IsFinite (.integer value)
  | real {value : Float} (finite : value.isFinite = true) : IsFinite (.real value)

/-- No number goes on here. -/
def Closes (rest : List Char) : Prop :=
  ∀ glyph ∈ rest.head?, Decimal.isNumeral glyph = false

theorem numberStyle_readable : numberStyle.Readable :=
  ⟨Or.inr rfl, Or.inr rfl⟩

theorem toList_integerText (value : Int) :
    (integerText value).toList =
      (if value < 0 then ['-'] else []) ++ Decimal.digitsOf value.natAbs := by
  unfold integerText Decimal.natText
  split
  · rw [String.toList_append]
    exact congrArg ('-' :: ·) String.toList_ofList
  · exact String.toList_ofList

/-- Integers and finite reals start as numbers do, with a sign or a digit. -/
theorem exists_lead_numberText {number : Number} (finite : number.IsFinite) :
    ∃ lead rest, (numberText number).toList = lead :: rest ∧
      (lead = '-' ∨ Decimal.isDigit lead = true) := by
  cases finite with
  | integer value =>
    rcases Decimal.digitsOf_eq_cons value.natAbs with ⟨first, rest, shown, digit⟩
    rw [numberText, toList_integerText, shown]
    split
    · exact ⟨'-', first :: rest, rfl, Or.inl rfl⟩
    · exact ⟨first, rest, rfl, Or.inr digit⟩
  | @real value finite =>
    rw [numberText, if_pos finite, Decimal.text_of_isFinite numberStyle finite]
    rcases Decimal.exists_unsigned_finiteText numberStyle value with
      ⟨unsigned, shown, ⟨first, rest, rfl, digit⟩, -⟩
    rcases shown with shown | shown
    · exact ⟨first, rest, shown, Or.inr digit⟩
    · exact ⟨'-', first :: rest, shown, Or.inl rfl⟩

private theorem isNumeral_of_mem_numberText {number : Number} (finite : number.IsFinite)
    {glyph : Char} (member : glyph ∈ (numberText number).toList) :
    Decimal.isNumeral glyph = true := by
  cases finite with
  | integer value =>
    rw [numberText, toList_integerText, List.mem_append] at member
    rcases member with sign | digit
    · split at sign
      · cases List.mem_singleton.1 sign
        decide
      · cases sign
    · exact Decimal.isNumeral_of_isDigit (Decimal.isDigit_of_mem_digitsOf digit)
  | real finite =>
    rw [numberText, if_pos finite] at member
    exact Decimal.isNumeral_of_mem_text numberStyle_readable member

/-- A real is never written as an integer is: it has a point or an exponent. -/
private theorem integerText_ne_text (value : Int) {number : Float}
    (finite : number.isFinite = true) : integerText value ≠ Decimal.text numberStyle number := by
  intro same
  have plain : ∀ glyph ∈ (integerText value).toList, glyph ≠ '.' ∧ glyph ≠ 'e' := by
    intro glyph member
    rw [toList_integerText, List.mem_append] at member
    rcases member with sign | digit
    · split at sign
      · cases List.mem_singleton.1 sign
        decide
      · cases sign
    · have known := Decimal.isDigit_of_mem_digitsOf digit
      constructor <;> rintro rfl <;> exact absurd known (by decide)
  rw [same, Decimal.text_of_isFinite numberStyle finite] at plain
  rcases Decimal.exists_unsigned_finiteText numberStyle number with ⟨unsigned, shown, -, mark⟩
  have inside : ∀ glyph ∈ unsigned, glyph ∈ (Decimal.finiteText numberStyle number).toList := by
    intro glyph member
    rcases shown with shown | shown
    · exact shown ▸ member
    · exact shown ▸ List.mem_cons_of_mem _ member
  rcases mark rfl with point | exponent
  · exact (plain _ (inside _ point)).1 rfl
  · exact (plain _ (inside _ exponent)).2 rfl

private theorem digitsOf_injective {count other : Nat}
    (same : Decimal.digitsOf count = Decimal.digitsOf other) : count = other := by
  have value := Decimal.digitsValue_digitsOf count
  rw [same, Decimal.digitsValue_digitsOf] at value
  exact value.symm

private theorem minus_ne_digitsOf (rest : List Char) (count : Nat) :
    '-' :: rest ≠ Decimal.digitsOf count := by
  intro same
  have digit := Decimal.isDigit_of_mem_digitsOf (same ▸ List.mem_cons_self : '-' ∈ _)
  exact absurd digit (by decide)

private theorem integerText_injective {value other : Int}
    (same : integerText value = integerText other) : value = other := by
  have lists := congrArg String.toList same
  rw [toList_integerText, toList_integerText] at lists
  split at lists
  · split at lists
    · have size := digitsOf_injective (List.cons.inj lists).2
      omega
    · exact absurd lists (minus_ne_digitsOf _ _)
  · split at lists
    · exact absurd lists.symm (minus_ne_digitsOf _ _)
    · have size := digitsOf_injective lists
      omega

theorem numberText_injective {number other : Number} (finite : number.IsFinite)
    (otherFinite : other.IsFinite) (same : numberText number = numberText other) :
    number = other := by
  cases finite with
  | integer value =>
    cases otherFinite with
    | integer otherValue => exact congrArg Number.integer (integerText_injective same)
    | real otherFinite =>
      rw [numberText, numberText, if_pos otherFinite] at same
      exact absurd same (integerText_ne_text value otherFinite)
  | @real value finite =>
    rw [numberText, if_pos finite] at same
    cases otherFinite with
    | integer otherValue => exact absurd same.symm (integerText_ne_text otherValue finite)
    | real otherFinite =>
      rw [numberText, if_pos otherFinite] at same
      have read := Decimal.number?_text numberStyle_readable value
      rw [same, Decimal.number?_text numberStyle_readable] at read
      exact congrArg Number.real (Option.some.inj read).symm

/-- A number ends before the first character that no number is written with. -/
private theorem numberText_unique {number other : Number} (finite : number.IsFinite)
    (otherFinite : other.IsFinite) {rest otherRest : List Char} (closes : Closes rest)
    (otherCloses : Closes otherRest)
    (same : (numberText number).toList ++ rest = (numberText other).toList ++ otherRest) :
    number = other ∧ rest = otherRest := by
  have whole : ∀ {written : Number}, written.IsFinite → ∀ {after : List Char}, Closes after →
      ((numberText written).toList ++ after).takeWhile Decimal.isNumeral =
        (numberText written).toList := by
    intro written known after closed
    rw [List.takeWhile_append_of_pos fun _ => isNumeral_of_mem_numberText known]
    cases after with
    | nil => exact List.append_nil _
    | cons glyph after =>
      rw [List.takeWhile_cons_of_neg (by rw [closed glyph rfl]; exact Bool.false_ne_true),
        List.append_nil]
  have texts := congrArg (List.takeWhile Decimal.isNumeral) same
  rw [whole finite closes, whole otherFinite otherCloses] at texts
  rw [texts] at same
  exact ⟨numberText_injective finite otherFinite (String.toList_injective texts),
    List.append_cancel_left same⟩

/-! ## Entries between commas -/

section Entries

variable {α : Type} (write : α → List Char)

/-- Entries with commas between them. -/
def between : List α → List Char
  | [] => []
  | entry :: entries => write entry ++ entries.flatMap fun next => ',' :: write next

/-- Is an entry determined by its text, whatever follows it? -/
def ReadsAlone (entry other : α) : Prop :=
  ∀ {rest otherRest : List Char}, Closes rest → Closes otherRest →
    write entry ++ rest = write other ++ otherRest → entry = other ∧ rest = otherRest

variable {write} {closing : Char}

private theorem closes_more (numeral : Decimal.isNumeral closing = false) (entries : List α)
    (rest : List Char) :
    Closes ((entries.flatMap fun next => ',' :: write next) ++ closing :: rest) := by
  intro glyph first
  cases entries with
  | nil =>
    cases first
    exact numeral
  | cons entry entries =>
    cases first
    decide

/-- Each comma starts another entry, and the closing mark is no comma. -/
private theorem more_unique (numeral : Decimal.isNumeral closing = false) (mark : closing ≠ ',')
    {entries others : List α} (each : ∀ entry ∈ entries, ∀ other ∈ others, ReadsAlone write entry other)
    {rest otherRest : List Char}
    (same : (entries.flatMap fun next => ',' :: write next) ++ closing :: rest =
      (others.flatMap fun next => ',' :: write next) ++ closing :: otherRest) :
    entries = others ∧ rest = otherRest := by
  induction entries generalizing others with
  | nil =>
    cases others with
    | nil => exact ⟨rfl, (List.cons.inj same).2⟩
    | cons other others => exact absurd (List.cons.inj same).1 mark
  | cons entry entries ih =>
    cases others with
    | nil => exact absurd (List.cons.inj same).1.symm mark
    | cons other others =>
      rw [List.flatMap_cons, List.flatMap_cons, List.append_assoc, List.append_assoc] at same
      rcases each entry List.mem_cons_self other List.mem_cons_self
        (closes_more numeral entries rest) (closes_more numeral others otherRest)
        (List.cons.inj same).2 with ⟨rfl, later⟩
      rcases ih (fun one member next nextMember => each one (List.mem_cons_of_mem _ member) next
        (List.mem_cons_of_mem _ nextMember)) later with ⟨rfl, left⟩
      exact ⟨rfl, left⟩

/-- Entries are determined by their text up to the closing mark, with which none of them
starts. -/
private theorem between_unique (numeral : Decimal.isNumeral closing = false) (mark : closing ≠ ',')
    {entries others : List α} (each : ∀ entry ∈ entries, ∀ other ∈ others, ReadsAlone write entry other)
    (opens : ∀ entry, entry ∈ entries ∨ entry ∈ others →
      ∃ lead rest, write entry = lead :: rest ∧ lead ≠ closing)
    {rest otherRest : List Char}
    (same : between write entries ++ closing :: rest =
      between write others ++ closing :: otherRest) : entries = others ∧ rest = otherRest := by
  cases entries with
  | nil =>
    cases others with
    | nil => exact ⟨rfl, (List.cons.inj same).2⟩
    | cons other others =>
      rcases opens other (Or.inr List.mem_cons_self) with ⟨lead, more, shown, different⟩
      rw [between, between, shown] at same
      exact absurd (List.cons.inj same).1.symm different
  | cons entry entries =>
    cases others with
    | nil =>
      rcases opens entry (Or.inl List.mem_cons_self) with ⟨lead, more, shown, different⟩
      rw [between, between, shown] at same
      exact absurd (List.cons.inj same).1 different
    | cons other others => exact more_unique numeral mark each (congrArg (',' :: ·) same)

end Entries

private theorem toList_compactItems (items : List Json) :
    (compactItems items).toList = between (fun item => item.compact.toList) items := by
  cases items with
  | nil => rfl
  | cons item items =>
    induction items generalizing item with
    | nil =>
      rw [compactItems, between, List.flatMap_nil, List.append_nil]
    | cons next items ih =>
      rw [compactItems, String.toList_append, String.toList_append, ih, between, between,
        List.flatMap_cons, List.append_assoc]
      rfl

def memberText (member : String × Json) : List Char :=
  (stringText member.1).toList ++ ':' :: member.2.compact.toList

theorem memberText_opens (member : String × Json) :
    ∃ lead rest, memberText member = lead :: rest ∧ lead ≠ '\x7d' := by
  rw [memberText, toList_stringText]
  exact ⟨'"', _, rfl, by decide⟩

private theorem memberText_readsAlone {member other : String × Json}
    (value : ReadsAlone (fun value => value.compact.toList) member.2 other.2) :
    ReadsAlone memberText member other := by
  intro rest otherRest closes otherCloses same
  rw [memberText, memberText, List.append_assoc, List.append_assoc] at same
  rcases stringText_unique same with ⟨keys, later⟩
  rcases value closes otherCloses (List.cons.inj later).2 with ⟨values, left⟩
  exact ⟨Prod.ext keys values, left⟩

private theorem toList_compactMembers (members : List (String × Json)) :
    (compactMembers members).toList = between memberText members := by
  cases members with
  | nil => rfl
  | cons member members =>
    rcases member with ⟨key, value⟩
    induction members generalizing key value with
    | nil =>
      rw [compactMembers, between, List.flatMap_nil, List.append_nil, String.toList_append,
        String.toList_append, List.append_assoc]
      rfl
    | cons next members ih =>
      rcases next with ⟨nextKey, nextValue⟩
      rw [compactMembers, String.toList_append, String.toList_append, String.toList_append,
        String.toList_append, ih, between, between, List.flatMap_cons, memberText, memberText]
      simp only [List.append_assoc, List.cons_append]
      rfl

theorem toList_array (items : List Json) :
    (Json.array items).compact.toList =
      '[' :: (between (fun item => item.compact.toList) items ++ [']']) := by
  rw [compact, String.toList_append, String.toList_append, toList_compactItems]
  rfl

theorem toList_object (members : List (String × Json)) :
    (Json.object members).compact.toList = '\x7b' :: (between memberText members ++ ['\x7d']) := by
  rw [compact, String.toList_append, String.toList_append, toList_compactMembers]
  rfl

/-! ## Kinds of values -/

/-- The kinds that the first character of a value tells apart. -/
inductive Kind where
  | null
  | bool (value : Bool)
  | number
  | string
  | array
  | object
  deriving DecidableEq

/-- The kind of a value. -/
def kind : Json → Kind
  | .null => .null
  | .bool value => .bool value
  | .number _ => .number
  | .string _ => .string
  | .array _ => .array
  | .object _ => .object

def kindOf? (lead : Char) : Option Kind :=
  if lead = '-' ∨ Decimal.isDigit lead = true then some .number
  else if lead = 'n' then some .null
  else if lead = 't' then some (.bool true)
  else if lead = 'f' then some (.bool false)
  else if lead = '"' then some .string
  else if lead = '[' then some .array
  else if lead = '\x7b' then some .object
  else none

inductive IsFinite : Json → Prop
  | null : IsFinite .null
  | bool (value : Bool) : IsFinite (.bool value)
  | number {number : Number} (finite : number.IsFinite) : IsFinite (.number number)
  | string (text : String) : IsFinite (.string text)
  | array {items : List Json} (each : ∀ item ∈ items, IsFinite item) : IsFinite (.array items)
  | object {members : List (String × Json)} (each : ∀ member ∈ members, IsFinite member.2) :
      IsFinite (.object members)

/-- Two values of one kind. -/
inductive Alike : Json → Json → Prop
  | null : Alike .null .null
  | bool (value : Bool) : Alike (.bool value) (.bool value)
  | number (number other : Number) : Alike (.number number) (.number other)
  | string (text other : String) : Alike (.string text) (.string other)
  | array (items others : List Json) : Alike (.array items) (.array others)
  | object (members others : List (String × Json)) : Alike (.object members) (.object others)

private theorem Alike.of_kind_eq {json other : Json} (same : json.kind = other.kind) :
    Alike json other := by
  cases json <;> cases other <;> cases same <;> constructor

/-- The first character of a value tells its kind. -/
private theorem IsFinite.exists_lead {json : Json} (finite : json.IsFinite) :
    ∃ lead rest, json.compact.toList = lead :: rest ∧ kindOf? lead = some json.kind := by
  cases finite with
  | null => exact ⟨'n', ['u', 'l', 'l'], rfl, rfl⟩
  | bool value =>
    cases value with
    | true => exact ⟨'t', ['r', 'u', 'e'], rfl, rfl⟩
    | false => exact ⟨'f', ['a', 'l', 's', 'e'], rfl, rfl⟩
  | number finite =>
    rcases exists_lead_numberText finite with ⟨lead, rest, shown, known⟩
    exact ⟨lead, rest, shown, if_pos known⟩
  | string text => exact ⟨'"', _, toList_stringText text, rfl⟩
  | array each => exact ⟨'[', _, toList_array _, rfl⟩
  | object each => exact ⟨'\x7b', _, toList_object _, rfl⟩

private theorem IsFinite.exists_opening {json : Json} (finite : json.IsFinite) :
    ∃ lead rest, json.compact.toList = lead :: rest ∧ lead ≠ ']' := by
  rcases finite.exists_lead with ⟨lead, rest, shown, known⟩
  refine ⟨lead, rest, shown, ?_⟩
  rintro rfl
  cases known

private theorem IsFinite.alike {json other : Json} (finite : json.IsFinite)
    (otherFinite : other.IsFinite) {rest otherRest : List Char}
    (same : json.compact.toList ++ rest = other.compact.toList ++ otherRest) :
    Alike json other := by
  rcases finite.exists_lead with ⟨lead, more, shown, known⟩
  rcases otherFinite.exists_lead with ⟨otherLead, otherMore, otherShown, otherKnown⟩
  rw [shown, otherShown] at same
  rw [(List.cons.inj same).1, otherKnown] at known
  exact .of_kind_eq (Option.some.inj known).symm

/-! ## Values -/

/-- A value is determined by its text, whatever follows it. -/
theorem IsFinite.unique {json other : Json} (finite : json.IsFinite)
    (otherFinite : other.IsFinite) : ReadsAlone (fun value => value.compact.toList) json other := by
  induction finite generalizing other with
  | null =>
    intro rest otherRest closes otherCloses same
    cases IsFinite.null.alike otherFinite same
    exact ⟨rfl, List.append_cancel_left same⟩
  | bool value =>
    intro rest otherRest closes otherCloses same
    cases (IsFinite.bool value).alike otherFinite same
    exact ⟨rfl, List.append_cancel_left same⟩
  | number finite =>
    intro rest otherRest closes otherCloses same
    cases (IsFinite.number finite).alike otherFinite same
    cases otherFinite with
    | number otherFinite =>
      rcases numberText_unique finite otherFinite closes otherCloses same with ⟨rfl, left⟩
      exact ⟨rfl, left⟩
  | string text =>
    intro rest otherRest closes otherCloses same
    cases (IsFinite.string text).alike otherFinite same
    rcases stringText_unique same with ⟨rfl, left⟩
    exact ⟨rfl, left⟩
  | array each ih =>
    intro rest otherRest closes otherCloses same
    cases (IsFinite.array each).alike otherFinite same
    cases otherFinite with
    | array otherEach =>
      dsimp only at same
      rw [toList_array, toList_array, List.cons_append, List.cons_append, List.append_assoc,
        List.append_assoc] at same
      rcases between_unique (by decide) (by decide)
        (fun item member other otherMember => ih item member (otherEach other otherMember))
        (fun item member => (member.elim (each item) (otherEach item)).exists_opening)
        (List.cons.inj same).2 with ⟨rfl, left⟩
      exact ⟨rfl, left⟩
  | object each ih =>
    intro rest otherRest closes otherCloses same
    cases (IsFinite.object each).alike otherFinite same
    cases otherFinite with
    | object otherEach =>
      dsimp only at same
      rw [toList_object, toList_object, List.cons_append, List.cons_append, List.append_assoc,
        List.append_assoc] at same
      rcases between_unique (by decide) (by decide)
        (fun member listed other otherListed =>
          memberText_readsAlone (ih member listed (otherEach other otherListed)))
        (fun member _ => memberText_opens member) (List.cons.inj same).2 with ⟨rfl, left⟩
      exact ⟨rfl, left⟩

/-- Different finite values have different texts. -/
theorem IsFinite.compact_injective {json other : Json} (finite : json.IsFinite)
    (otherFinite : other.IsFinite) (same : json.compact = other.compact) : json = other := by
  have ends : Closes [] := fun glyph member => nomatch member
  refine (finite.unique otherFinite ends ends ?_).1
  dsimp only
  rw [same]

end Json
end Mosaic
