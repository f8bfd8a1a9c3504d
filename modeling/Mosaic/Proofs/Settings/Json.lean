import Mosaic.Proofs.Json.Values
import Mosaic.Proofs.Settings.Spacing
import Mosaic.Settings.Json

/-!
# Settings read back from JSON

Settings that can be used are written as an object of ten members.  Members are taken
over one by one, each by its name, so their order does not count and members of other
names leave no trace.  While they are taken over, each setting still has its default
until its member was met; that is the invariant which the induction over the members
carries.  A setting that is missing is written as null and is read as missing, although
the defaults of the two spacings are not missing.  That the text of a number is read as
that number is not a property of the layout of digits, and is asked for each number of
the settings.
-/

namespace Mosaic
namespace Settings

open Json

/-! ## Single values -/

variable {value : Float}

theorem readReal?_document (readsBack : ReadsBack value) (finite : value.isFinite = true) :
    readReal? (ofFloat value).document = some value := by
  rcases readsBack.exists_literal finite with ⟨literal, found, real, -⟩
  rw [found]
  exact real

/-- A number that may be missing is read back, and so is its being missing. -/
theorem readGiven?_document {given : Option Float}
    (each : ∀ value ∈ given, ReadsBack value ∧ value.isFinite = true) :
    readGiven? (ofFloat? given).document = some given := by
  cases given with
  | none => rfl
  | some value =>
    rcases each value rfl with ⟨readsBack, finite⟩
    have real := readReal?_document readsBack finite
    rcases readsBack.exists_literal finite with ⟨literal, found, -⟩
    rw [ofFloat?]
    rw [found] at real ⊢
    rw [readGiven?, real]
    · rfl
    · nofun

theorem readGlyph?_document (glyph : Char) :
    readGlyph? (Json.string (.singleton glyph)).document = some glyph := by
  rw [document, readGlyph?, textOfUnits?_map_unitOf, String.toList_singleton]

theorem readRule?_document {rule : SpacingRule}
    (each : ∀ value ∈ ruleFactor rule, ReadsBack value ∧ value.isFinite = true) :
    readRule? (ruleJson rule).document = some rule := by
  cases rule with
  | uniform => rfl
  | geometric factor =>
    rcases each factor rfl with ⟨readsBack, finite⟩
    rcases readsBack.exists_literal finite with ⟨literal, found, real, fractional⟩
    have shown : (ruleJson (.geometric factor)).document =
        .object [("kind".toList.map unitOf, .string ("geometric".toList.map unitOf)),
          ("factor".toList.map unitOf, .number literal)] := by
      rw [ruleJson, document, documentMembers, documentMembers, documentMembers, document, found]
    have value : literal.value? = some (.real factor) := by
      rw [NumberLiteral.value?]
      simp only [fractional, real, Bool.false_and, Bool.false_eq_true, if_false]
      rfl
    have members : ofMembers? [("kind".toList.map unitOf, .string ("geometric".toList.map unitOf)),
        ("factor".toList.map unitOf, .number literal)] =
          some [("kind", .string "geometric"), ("factor", .number (.real factor))] := by
      simp only [ofMembers?, Json.ofDocument?, textOfUnits?_map_unitOf, value, Option.map_some,
        String.ofList_toList]
    have depth : nesting (.object [("kind".toList.map unitOf,
        .string ("geometric".toList.map unitOf)), ("factor".toList.map unitOf, .number literal)]) =
          1 := rfl
    rw [shown, readRule?, depth, if_neg (by decide)]
    simp only [members]
    rfl

/-! ## Members -/

def reals (settings : Settings) : List Float :=
  [settings.width, settings.height, settings.dpi] ++ settings.widthFactor.toList ++
    settings.heightFactor.toList ++ settings.wspace.toList ++ settings.hspace.toList ++
    (ruleFactor settings.spacingRule).toList

/-- The settings of `target` under the names that were met, and defaults under the
others. -/
def met (target : Settings) (names : List String) : Settings where
  width := if "width" ∈ names then target.width else default.width
  height := if "height" ∈ names then target.height else default.height
  widthFactor := if "width_factor" ∈ names then target.widthFactor else default.widthFactor
  heightFactor := if "height_factor" ∈ names then target.heightFactor else default.heightFactor
  dpi := if "dpi" ∈ names then target.dpi else default.dpi
  wspace := if "wspace" ∈ names then target.wspace else default.wspace
  hspace := if "hspace" ∈ names then target.hspace else default.hspace
  spacingRule := if "spacing_rule" ∈ names then target.spacingRule else default.spacingRule
  blank := if "blank" ∈ names then target.blank else default.blank
  annotate := if "annotate" ∈ names then target.annotate else default.annotate

theorem met_nil (target : Settings) : target.met [] = default :=
  rfl

/-- When all names were met, nothing is left of the defaults. -/
theorem met_eq_self {target : Settings} {names : List String}
    (all : ∀ name ∈ memberNames, name ∈ names) : target.met names = target := by
  simp only [memberNames, List.mem_cons, List.not_mem_nil, or_false, forall_eq_or_imp,
    forall_eq] at all
  simp only [met, all, if_true]

variable {target : Settings}

/-- A member is taken over by its name, and nothing else changes. -/
theorem set?_met (each : ∀ value ∈ target.reals, ReadsBack value ∧ value.isFinite = true)
    {entry : String × Json} (member : entry ∈ target.members) (names : List String) :
    (target.met names).set? entry.1 entry.2.document = some (target.met (entry.1 :: names)) := by
  have real {value : Float} (inside : value ∈ target.reals) :
      readReal? (ofFloat value).document = some value :=
    readReal?_document (each value inside).1 (each value inside).2
  have given (setting : Option Float) (inside : ∀ value ∈ setting, value ∈ target.reals) :
      readGiven? (ofFloat? setting).document = some setting :=
    readGiven?_document fun value member => each value (inside value member)
  have rule : readRule? (ruleJson target.spacingRule).document = some target.spacingRule :=
    readRule?_document fun value member => each value (by simp [reals, Option.mem_def.1 member])
  simp only [members, List.mem_cons, List.not_mem_nil, or_false] at member
  rcases member with rfl | rfl | rfl | rfl | rfl | rfl | rfl | rfl | rfl | rfl
  · simp [set?, met, real (by simp [reals] : target.width ∈ target.reals)]
  · simp [set?, met, real (by simp [reals] : target.height ∈ target.reals)]
  · have factor := given target.widthFactor (by simp +contextual [reals])
    simp [set?, met, factor]
  · have factor := given target.heightFactor (by simp +contextual [reals])
    simp [set?, met, factor]
  · simp [set?, met, real (by simp [reals] : target.dpi ∈ target.reals)]
  · have space := given target.wspace (by simp +contextual [reals])
    simp [set?, met, space]
  · have space := given target.hspace (by simp +contextual [reals])
    simp [set?, met, space]
  · simp [set?, met, rule]
  · simp [set?, met, readGlyph?_document]
  · simp [set?, met, document, readFlag?]

/-- Settings that can be used have finite numbers. -/
theorem Usable.isFinite {settings : Settings} (usable : settings.Usable) {value : Float}
    (member : value ∈ settings.reals) : value.isFinite = true := by
  have positive {number : Float} (passed : isPositive number = true) : number.isFinite = true :=
    (Bool.and_eq_true_iff.1 passed).1
  have nonNegative {number : Float} (passed : isNonNegative number = true) :
      number.isFinite = true :=
    (Bool.and_eq_true_iff.1 passed).1
  simp only [reals, List.mem_append, List.mem_cons, List.not_mem_nil, or_false,
    Option.mem_toList] at member
  rcases member with ((((((rfl | rfl | rfl) | factor) | factor) | space) | space) | factor)
  · exact positive usable.width
  · exact positive usable.height
  · exact positive usable.dpi
  · exact positive (usable.widthFactor value factor)
  · exact positive (usable.heightFactor value factor)
  · exact nonNegative (usable.wspace value space)
  · exact nonNegative (usable.hspace value space)
  · exact positive (usable.factor value factor)

/-- Members by their names, as a reader finds them. -/
def asRead (given : List (String × Document)) : List (List StringUnit × Document) :=
  given.map fun member => (member.1.toList.map unitOf, member.2)

/-- What a reader finds under the names of written members. -/
def documents (given : List (String × Json)) : List (String × Document) :=
  given.map fun member => (member.1, member.2.document)

theorem documentMembers_eq (given : List (String × Json)) :
    documentMembers given = asRead (documents given) := by
  rw [documentMembers_eq_map, asRead, documents, List.map_map]
  rfl

/-- The members that are settings. -/
def known {β : Type} (given : List (String × β)) : List (String × β) :=
  given.filter fun member => member.1 ∈ memberNames

/-- Members are taken over in any order; those of other names leave no trace. -/
theorem setAll?_met (each : ∀ value ∈ target.reals, ReadsBack value ∧ value.isFinite = true)
    {given : List (String × Document)}
    (own : ∀ member ∈ known given, member ∈ documents target.members) {names : List String}
    (once : ((known given).map Prod.fst ++ names).Nodup) :
    setAll? (target.met names) names (asRead given) =
      some (target.met (((known given).map Prod.fst).reverse ++ names)) := by
  induction given generalizing names with
  | nil => rfl
  | cons member given ih =>
    rcases member with ⟨name, value⟩
    change setAll? _ _ ((name.toList.map unitOf, value) :: asRead given) = _
    rw [setAll?, textOfUnits?_map_unitOf]
    simp only [String.ofList_toList]
    by_cases setting : name ∈ memberNames
    · have first : known ((name, value) :: given) = (name, value) :: known given := by
        simp only [known, List.filter_cons, setting, decide_true, if_true]
      rw [first, List.map_cons, List.cons_append] at once
      rw [first] at own
      have fresh : name ∉ names := fun inside =>
        (List.nodup_cons.1 once).1 (List.mem_append_right _ inside)
      have taken : (target.met names).set? name value = some (target.met (name :: names)) := by
        rcases List.mem_map.1 (own _ List.mem_cons_self) with ⟨entry, listed, same⟩
        cases same
        exact set?_met each listed names
      rw [if_pos setting, if_neg fresh, taken]
      dsimp only
      rw [ih (fun other inside => own other (List.mem_cons_of_mem _ inside))
        (List.nodup_middle.2 once), first, List.map_cons, List.reverse_cons, List.append_assoc]
      rfl
    · have first : known ((name, value) :: given) = known given := by
        simp only [known, List.filter_cons, setting, decide_false, Bool.false_eq_true, if_false]
      rw [first] at own once ⊢
      rw [if_neg setting, ih own once]

/-- A text that holds the members of the settings, in any order and among others, is
read as these settings. -/
theorem ofJsonText_of_read {settings : Settings} (valid : settings.validate = .ok ())
    (readsBack : ∀ value ∈ settings.reals, ReadsBack value) {text : String}
    {given : List (String × Document)} (read : read? text.toList = some (.object (asRead given)))
    (same : (known given).Perm (documents settings.members)) :
    ofJsonText text = .ok settings := by
  have usable := validate_ok_iff.1 valid
  have each : ∀ value ∈ settings.reals, ReadsBack value ∧ value.isFinite = true :=
    fun value member => ⟨readsBack value member, usable.isFinite member⟩
  have names : ((known given).map Prod.fst).Perm memberNames := same.map Prod.fst
  have once : ((known given).map Prod.fst ++ []).Nodup := by
    rw [List.append_nil]
    exact names.nodup_iff.2 (by decide)
  have all : ∀ name ∈ memberNames, name ∈ ((known given).map Prod.fst).reverse ++ [] := by
    intro name listed
    rw [List.append_nil, List.mem_reverse]
    exact names.mem_iff.2 listed
  have found : Settings.ofDocument? (.object (asRead given)) = some settings := by
    rw [ofDocument?, ← met_nil settings, setAll?_met each (fun member => same.mem_iff.1) once,
      met_eq_self all]
  rw [ofJsonText, read, Option.bind_some, found]
  dsimp only
  rw [valid]
  rfl

/-- Settings that can be used are read back from their JSON text.  The members may be
in any order, and there may be others: any values that can be written, and in any text
also those that cannot. -/
theorem ofJsonText_toJson {settings : Settings} (valid : settings.validate = .ok ())
    (readsBack : ∀ value ∈ settings.reals, ReadsBack value) :
    ofJsonText settings.toJson.compact = .ok settings ∧
      (∀ given : List (String × Json), (known given).Perm settings.members →
        ofJsonText (Json.object given).compact = .ok settings) ∧
      ∀ (text : String) (given : List (String × Document)),
        read? text.toList = some (.object (asRead given)) →
          (known given).Perm (documents settings.members) → ofJsonText text = .ok settings := by
  have whole (given : List (String × Json)) (same : (known given).Perm settings.members) :
      ofJsonText (Json.object given).compact = .ok settings := by
    have read : read? (Json.object given).compact.toList =
        some (.object (asRead (documents given))) := by
      rw [read?_compact, document, documentMembers_eq]
    have kept : known (documents given) = documents (known given) := by
      unfold known documents
      rw [List.filter_map]
      rfl
    refine ofJsonText_of_read valid readsBack read ?_
    rw [kept]
    exact same.map _
  refine ⟨?_, whole, fun text given read same => ofJsonText_of_read valid readsBack read same⟩
  exact whole settings.members (List.Perm.refl _)

/-- Settings without spacing whose mark of empty cells is a quotation mark. -/
def quoted : Settings where
  width := 12.5
  height := 8
  widthFactor := none
  heightFactor := some 0.5
  dpi := 96
  wspace := none
  hspace := none
  spacingRule := .geometric 0.75
  blank := '"'
  annotate := false

theorem ofJsonText_toJson_quoted :
    quoted.validate = .ok () ∧ (∀ value ∈ quoted.reals, ReadsBack value) ∧
      ofJsonText quoted.toJson.compact = .ok quoted ∧
      ofJsonText (Json.object (("notes", .array [.null, .string "\\"]) ::
        quoted.members.reverse)).compact = .ok quoted := by
  have valid : quoted.validate = .ok () := by decide +kernel
  have readsBack : ∀ value ∈ quoted.reals, ReadsBack value := by
    intro value member
    have listed : value ∈ [12.5, 8, 96, 0.5, 0.75] := member
    simp only [List.mem_cons, List.not_mem_nil, or_false] at listed
    rcases listed with rfl | rfl | rfl | rfl | rfl
    · exact ⟨⟨false, ['1', '2'], ['5'], none⟩, by decide +kernel, by decide +kernel⟩
    · exact ⟨⟨false, ['8'], ['0'], none⟩, by decide +kernel, by decide +kernel⟩
    · exact ⟨⟨false, ['9', '6'], ['0'], none⟩, by decide +kernel, by decide +kernel⟩
    · exact ⟨⟨false, ['0'], ['5'], none⟩, by decide +kernel, by decide +kernel⟩
    · exact ⟨⟨false, ['0'], ['7', '5'], none⟩, by decide +kernel, by decide +kernel⟩
  rcases ofJsonText_toJson valid readsBack with ⟨plain, mixed, -⟩
  have kept : known (("notes", .array [.null, .string "\\"]) :: quoted.members.reverse) =
      quoted.members.reverse := rfl
  exact ⟨valid, readsBack, plain, mixed _ (kept ▸ List.reverse_perm _)⟩

end Settings
end Mosaic
