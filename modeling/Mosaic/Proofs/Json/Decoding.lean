import Mosaic.Proofs.Json.Numbers

/-!
# Compact texts are read back

A value in compact form is read as one document, and nothing of what follows it is
taken.  The document has the shape of the value; its numbers and strings are as they
were written, and the text of a string can be told from them again.  Each nesting and
each entry of a list costs the reader one call, and the text is at least as long as the
calls are deep, so that the bound on them is never reached.
-/

namespace Mosaic
namespace Json

/-! ## The document of a value -/

/-- What a reader finds where a number was written. -/
def numberDocument (value : Number) : Document :=
  match readNumber? (numberText value).toList with
  | some (literal, _) => .number literal
  | none => .null

mutual

/-- What a reader finds where a value was written. -/
def document : Json → Document
  | .null => .null
  | .bool value => .bool value
  | .number value => numberDocument value
  | .string text => .string (text.toList.map unitOf)
  | .array items => .array (documentItems items)
  | .object members => .object (documentMembers members)

/-- What a reader finds in an array. -/
def documentItems : List Json → List Document
  | [] => []
  | item :: items => document item :: documentItems items

def documentMembers : List (String × Json) → List (List StringUnit × Document)
  | [] => []
  | (key, value) :: members => (key.toList.map unitOf, document value) :: documentMembers members

end

/-- An induction over values and all values inside them. -/
theorem induction {motive : Json → Prop} (null : motive .null)
    (bool : ∀ value, motive (.bool value)) (number : ∀ value, motive (.number value))
    (string : ∀ text, motive (.string text))
    (array : ∀ items, (∀ item ∈ items, motive item) → motive (.array items))
    (object : ∀ members, (∀ member ∈ members, motive member.2) → motive (.object members))
    (json : Json) : motive json :=
  @Json.rec motive (fun items => ∀ item ∈ items, motive item)
    (fun members => ∀ member ∈ members, motive member.2) (fun member => motive member.2)
    null bool number string array object
    (fun _ member => nomatch member)
    (fun item items first later other member => by
      rcases List.mem_cons.1 member with rfl | member
      · exact first
      · exact later other member)
    (fun _ member => nomatch member)
    (fun entry members first later other member => by
      rcases List.mem_cons.1 member with rfl | member
      · exact first
      · exact later other member)
    (fun _ _ value => value) json

/-! ## Strings -/

private theorem textOfUnits?_code {code : Nat} (control : code < 0x20) (rest : List StringUnit) :
    textOfUnits? (.code code :: rest) =
      (textOfUnits? rest).map (Char.ofNat code :: ·) := by
  have leading : isLeadingHalf code = false := by
    unfold isLeadingHalf
    simp only [Bool.and_eq_false_iff, decide_eq_false_iff_not]
    omega
  have trailing : isTrailingHalf code = false := by
    unfold isTrailingHalf
    simp only [Bool.and_eq_false_iff, decide_eq_false_iff_not]
    omega
  cases rest with
  | nil => rw [textOfUnits?.eq_def]; simp only [leading, trailing]; rfl
  | cons unit rest =>
    cases unit with
    | glyph value => rw [textOfUnits?.eq_def]; simp only [leading, trailing]; rfl
    | code other => rw [textOfUnits?]; simp only [leading, trailing, Bool.false_eq_true, if_false]

/-- The text of a string is told from its units. -/
theorem textOfUnits?_map_unitOf (text : List Char) :
    textOfUnits? (text.map unitOf) = some text := by
  induction text with
  | nil => rfl
  | cons glyph text ih =>
    rw [List.map_cons]
    unfold unitOf
    split
    · next control =>
      rw [textOfUnits?_code control.1]
      change (textOfUnits? (text.map unitOf)).map _ = _
      rw [ih, Char.ofNat_toNat]
      rfl
    · rw [textOfUnits?]
      change (textOfUnits? (text.map unitOf)).map _ = _
      rw [ih]
      rfl

/-! ## Single values -/

theorem skipBlanks_cons {glyph : Char} (mark : isBlank glyph = false) (rest : List Char) :
    skipBlanks (glyph :: rest) = glyph :: rest :=
  List.dropWhile_cons_of_neg (by rw [mark]; exact Bool.false_ne_true)

/-- A sign or a digit starts a number. -/
private theorem readValue?_lead {lead : Char} (known : lead = '-' ∨ Decimal.isDigit lead = true)
    (depth : Nat) (more : List Char) :
    readValue? (depth + 1) (lead :: more) =
      (readNumber? (lead :: more)).map fun result => (.number result.1, result.2) := by
  have other {glyph : Char} (neither : ¬ (glyph = '-' ∨ Decimal.isDigit glyph = true)) :
      lead ≠ glyph := fun same => neither (same ▸ known)
  have space : lead ≠ ' ' := other (by decide)
  have feed : lead ≠ '\n' := other (by decide)
  have tab : lead ≠ '\t' := other (by decide)
  have carriage : lead ≠ '\r' := other (by decide)
  have mark : isBlank lead = false := by
    simp only [isBlank, space, feed, tab, carriage, decide_false, Bool.or_self]
  rw [readValue?, skipBlanks_cons mark]
  split
  all_goals first
    | rfl
    | (next same => exact absurd (List.cons.inj same).1 (other (by decide)))

private theorem readValue?_number (value : Number) (depth : Nat) {rest : List Char}
    (follows : FollowsValue rest) :
    readValue? (depth + 1) ((numberText value).toList ++ rest) =
      some (numberDocument value, rest) := by
  have known (finite : value.IsFinite) :
      readValue? (depth + 1) ((numberText value).toList ++ rest) =
        some (numberDocument value, rest) := by
    rcases exists_spelling finite with ⟨literal, grammatical, shown, -⟩
    rcases exists_lead_numberText finite with ⟨lead, more, first, opens⟩
    have alone := grammatical.read_alone
    have beside := grammatical.read follows
    rw [numberDocument]
    rw [← shown] at alone beside
    rw [alone, first, List.cons_append, readValue?_lead opens, ← List.cons_append, ← first, beside]
    rfl
  cases value with
  | integer value => exact known (.integer value)
  | real value =>
    cases finite : value.isFinite with
    | true => exact known (.real finite)
    | false =>
      rw [numberDocument, numberText, finite, if_neg Bool.false_ne_true]
      rfl

/-- A value starts with a character that is neither blank nor a closing bracket. -/
private theorem exists_opening (json : Json) :
    ∃ lead rest, json.compact.toList = lead :: rest ∧ isBlank lead = false ∧ lead ≠ ']' := by
  have numeral {value : Number} (finite : value.IsFinite) :
      ∃ lead rest, (numberText value).toList = lead :: rest ∧
        isBlank lead = false ∧ lead ≠ ']' := by
    rcases exists_lead_numberText finite with ⟨lead, rest, shown, known⟩
    refine ⟨lead, rest, shown, ?_, ?_⟩
    · cases blank : isBlank lead with
      | false => rfl
      | true =>
        unfold isBlank at blank
        simp only [Bool.or_eq_true, decide_eq_true_eq] at blank
        rcases blank with ((rfl | rfl) | rfl) | rfl <;> exact absurd known (by decide)
    · rintro rfl
      exact absurd known (by decide)
  cases json with
  | null => exact ⟨'n', ['u', 'l', 'l'], rfl, rfl, by decide⟩
  | bool value =>
    cases value with
    | true => exact ⟨'t', ['r', 'u', 'e'], rfl, rfl, by decide⟩
    | false => exact ⟨'f', ['a', 'l', 's', 'e'], rfl, rfl, by decide⟩
  | number value =>
    cases value with
    | integer value => exact numeral (.integer value)
    | real value =>
      cases finite : value.isFinite with
      | true => exact numeral (.real finite)
      | false =>
        rw [compact, numberText, finite, if_neg Bool.false_ne_true]
        exact ⟨'n', ['u', 'l', 'l'], rfl, rfl, by decide⟩
  | string text => exact ⟨'"', _, toList_stringText text, rfl, by decide⟩
  | array items => exact ⟨'[', _, toList_array items, rfl, by decide⟩
  | object members => exact ⟨'\x7b', _, toList_object members, rfl, by decide⟩

/-! ## Values with entries -/

/-- Is a value read back, whatever follows it, once the reader may go as deep as the
text is long? -/
def Reads (json : Json) : Prop :=
  ∀ {depth rest}, json.compact.toList.length ≤ depth → FollowsValue rest →
    readValue? depth (json.compact.toList ++ rest) = some (json.document, rest)

private theorem between_cons_cons {α : Type} (write : α → List Char) (first second : α)
    (entries : List α) :
    between write (first :: second :: entries) =
      write first ++ ',' :: between write (second :: entries) := by
  rw [between, between, List.flatMap_cons]
  rfl

private theorem readItems?_between {item : Json} {items : List Json}
    (each : ∀ entry ∈ item :: items, entry.Reads) {depth : Nat}
    (enough : (between (fun entry => entry.compact.toList) (item :: items)).length < depth)
    (rest : List Char) :
    readItems? depth (between (fun entry => entry.compact.toList) (item :: items) ++ ']' :: rest) =
      some (documentItems (item :: items), rest) := by
  induction items generalizing item depth with
  | nil =>
    cases depth with
    | zero => exact absurd enough (Nat.not_lt_zero _)
    | succ depth =>
      rw [between, List.flatMap_nil, List.append_nil] at enough ⊢
      rw [readItems?, each item List.mem_cons_self (by omega) fun glyph first => by
        cases first
        exact Or.inr (Or.inl rfl)]
      rfl
  | cons next items ih =>
    cases depth with
    | zero => exact absurd enough (Nat.not_lt_zero _)
    | succ depth =>
      rw [between_cons_cons, List.length_append, List.length_cons] at enough
      rw [between_cons_cons, List.append_assoc, List.cons_append, readItems?,
        each item List.mem_cons_self (by omega) fun glyph first => by
          cases first
          exact Or.inl rfl]
      change (readItems? depth _).map _ = _
      rw [ih (fun entry member => each entry (List.mem_cons_of_mem _ member)) (by omega)]
      rfl

private theorem memberText_append (key : String) (value : Json) (after : List Char) :
    memberText (key, value) ++ after =
      '"' :: (key.toList.flatMap escapedGlyph ++
        '"' :: ':' :: (value.compact.toList ++ after)) := by
  rw [memberText, toList_stringText]
  simp only [List.cons_append, List.append_assoc, List.nil_append]

/-- The last member is read with the closing brace. -/
private theorem readMembers?_last {key : String} {value : Json} (reads : value.Reads)
    {depth : Nat} (enough : value.compact.toList.length ≤ depth) (rest : List Char) :
    readMembers? (depth + 1) (memberText (key, value) ++ '\x7d' :: rest) =
      some ([(key.toList.map unitOf, value.document)], rest) := by
  have follows : FollowsValue ('\x7d' :: rest) := fun glyph first => by
    cases first
    exact Or.inr (Or.inr rfl)
  rw [memberText_append, readMembers?, skipBlanks_cons (by decide)]
  simp only [readUnits?_escaped, skipBlanks_cons (by decide : isBlank ':' = false),
    reads enough follows, skipBlanks_cons (by decide : isBlank '\x7d' = false)]

/-- A member before others is read with the comma after it. -/
private theorem readMembers?_more {key : String} {value : Json} (reads : value.Reads)
    {depth : Nat} (enough : value.compact.toList.length ≤ depth) (more : List Char) :
    readMembers? (depth + 1) (memberText (key, value) ++ ',' :: more) =
      (readMembers? depth more).map fun result =>
        ((key.toList.map unitOf, value.document) :: result.1, result.2) := by
  have follows : FollowsValue (',' :: more) := fun glyph first => by
    cases first
    exact Or.inl rfl
  rw [memberText_append, readMembers?, skipBlanks_cons (by decide)]
  simp only [readUnits?_escaped, skipBlanks_cons (by decide : isBlank ':' = false),
    reads enough follows, skipBlanks_cons (by decide : isBlank ',' = false)]

private theorem readMembers?_between {member : String × Json} {members : List (String × Json)}
    (each : ∀ entry ∈ member :: members, entry.2.Reads) {depth : Nat}
    (enough : (between memberText (member :: members)).length < depth) (rest : List Char) :
    readMembers? depth (between memberText (member :: members) ++ '\x7d' :: rest) =
      some (documentMembers (member :: members), rest) := by
  have shorter (entry : String × Json) :
      entry.2.compact.toList.length ≤ (memberText entry).length := by
    rw [memberText, List.length_append, List.length_cons]
    omega
  induction members generalizing member depth with
  | nil =>
    cases depth with
    | zero => exact absurd enough (Nat.not_lt_zero _)
    | succ depth =>
      rcases member with ⟨key, value⟩
      rw [between, List.flatMap_nil, List.append_nil] at enough ⊢
      have inside := shorter (key, value)
      rw [readMembers?_last (each _ List.mem_cons_self) (by omega)]
      rfl
  | cons next members ih =>
    cases depth with
    | zero => exact absurd enough (Nat.not_lt_zero _)
    | succ depth =>
      rcases member with ⟨key, value⟩
      have inside := shorter (key, value)
      rw [between_cons_cons, List.length_append, List.length_cons] at enough
      rw [between_cons_cons, List.append_assoc, List.cons_append,
        readMembers?_more (each _ List.mem_cons_self) (by omega),
        ih (fun entry member => each entry (List.mem_cons_of_mem _ member)) (by omega)]
      rfl

private theorem readValue?_array {lead : Char} (blank : isBlank lead = false) (item : lead ≠ ']')
    (depth : Nat) (more : List Char) :
    readValue? (depth + 1) ('[' :: lead :: more) =
      (readItems? depth (lead :: more)).map fun result => (.array result.1, result.2) := by
  rw [readValue?, skipBlanks_cons (by decide : isBlank '[' = false)]
  simp only [skipBlanks_cons blank]
  split
  · next same => exact absurd (List.cons.inj same).1 item
  · rfl

/-- No value is written as nothing, so the reader may always go one level deep. -/
private theorem reads_of_succ {json : Json}
    (next : ∀ {depth rest}, json.compact.toList.length ≤ depth + 1 → FollowsValue rest →
      readValue? (depth + 1) (json.compact.toList ++ rest) = some (json.document, rest)) :
    json.Reads := by
  intro depth rest enough follows
  cases depth with
  | zero =>
    rcases exists_opening json with ⟨lead, more, shown, -⟩
    rw [shown] at enough
    exact absurd enough (Nat.not_succ_le_zero _)
  | succ depth => exact next enough follows

private theorem reads_string (text : String) : (Json.string text).Reads := by
  refine reads_of_succ fun {depth rest} _ _ => ?_
  rw [compact, toList_stringText, List.cons_append, List.append_assoc, List.singleton_append]
  change (readUnits? _).map _ = _
  rw [readUnits?_escaped]
  rfl

private theorem reads_array {items : List Json} (each : ∀ item ∈ items, item.Reads) :
    (Json.array items).Reads := by
  refine reads_of_succ fun {depth rest} enough _ => ?_
  rw [toList_array] at enough ⊢
  rw [List.length_cons, List.length_append, List.length_singleton] at enough
  rw [List.cons_append, List.append_assoc, List.singleton_append]
  cases items with
  | nil => rfl
  | cons item items =>
    rcases exists_opening item with ⟨lead, more, shown, blank, opening⟩
    have read := readItems?_between each (show _ < depth by omega) rest
    rw [between, shown, List.cons_append, List.cons_append] at read ⊢
    rw [readValue?_array blank opening, read]
    rfl

private theorem reads_object {members : List (String × Json)}
    (each : ∀ member ∈ members, member.2.Reads) : (Json.object members).Reads := by
  refine reads_of_succ fun {depth rest} enough _ => ?_
  rw [toList_object] at enough ⊢
  rw [List.length_cons, List.length_append, List.length_singleton] at enough
  rw [List.cons_append, List.append_assoc, List.singleton_append]
  cases members with
  | nil => rfl
  | cons member members =>
    have read := readMembers?_between each (show _ < depth by omega) rest
    have quoted : ∃ more, between memberText (member :: members) = '"' :: more := by
      rw [between, memberText, toList_stringText]
      exact ⟨_, rfl⟩
    rcases quoted with ⟨more, shown⟩
    rw [shown, List.cons_append] at read ⊢
    change (readMembers? depth _).map _ = _
    rw [read]
    rfl

/-- Every value is read back from its compact text, whatever follows it. -/
theorem reads (json : Json) : json.Reads := by
  induction json using Json.induction with
  | null => exact reads_of_succ fun _ _ => rfl
  | bool value =>
    cases value with
    | true => exact reads_of_succ fun _ _ => rfl
    | false => exact reads_of_succ fun _ _ => rfl
  | number value =>
    refine reads_of_succ fun {depth rest} _ follows => ?_
    rw [compact, document]
    exact readValue?_number value depth follows
  | string text => exact reads_string text
  | array items each => exact reads_array each
  | object members each => exact reads_object each

/-- The compact text of a value is one document. -/
theorem read?_compact (json : Json) : read? json.compact.toList = some json.document := by
  have whole := json.reads (show _ ≤ 2 * json.compact.toList.length + 2 by omega)
    (show FollowsValue [] from nofun)
  rw [List.append_nil] at whole
  rw [read?, whole]
  rfl

end Json
end Mosaic
