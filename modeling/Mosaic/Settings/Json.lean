import Mosaic.Json.Reader
import Mosaic.Json.Writer
import Mosaic.Settings.Basic

/-!
Settings as JSON.  They are written as an object with all members in a fixed
order.  They are read from an object whose members may come in any order and
may be missing, in which case the default holds, or from an array of the same
values in the fixed order.  Members of other names are skipped unread.
-/

namespace Mosaic
namespace Settings

/-! ## Writing -/

def ruleJson : SpacingRule → Json
  | .uniform => .object [("kind", .string "uniform")]
  | .geometric factor => .object [("kind", .string "geometric"), ("factor", .ofFloat factor)]

def members (settings : Settings) : List (String × Json) :=
  [("width", .ofFloat settings.width),
    ("height", .ofFloat settings.height),
    ("width_factor", .ofFloat? settings.widthFactor),
    ("height_factor", .ofFloat? settings.heightFactor),
    ("dpi", .ofFloat settings.dpi),
    ("wspace", .ofFloat? settings.wspace),
    ("hspace", .ofFloat? settings.hspace),
    ("spacing_rule", ruleJson settings.spacingRule),
    ("blank", .string settings.blank.toString),
    ("annotate", .bool settings.annotate)]

def toJson (settings : Settings) : Json :=
  .object settings.members

/-! ## Reading single values -/

/-- A real number. -/
def readReal? : Json.Document → Option Float
  | .number literal => literal.real?
  | _ => none

/-- A real number, or null where it is missing. -/
def readGiven? : Json.Document → Option (Option Float)
  | .null => some none
  | document => (readReal? document).map some

/-- A string of exactly one character. -/
def readGlyph? : Json.Document → Option Char
  | .string units =>
    match Json.textOfUnits? units with
    | some [glyph] => some glyph
    | _ => none
  | _ => none

def readFlag? : Json.Document → Option Bool
  | .bool value => some value
  | _ => none

/-! ## Reading a spacing rule -/

def factorOf? : Json → Option Float
  | .number value => some value.toFloat
  | _ => none

/-- A rule of the given kind, with the values found beside the kind under the
name of its factor. -/
def ruleOf? (kind : String) (factors : List Json) : Option SpacingRule :=
  if kind = "uniform" then some .uniform
  else if kind = "geometric" then
    match factors with
    | [factor] => (factorOf? factor).map .geometric
    | _ => none
  else none

/-- The members of a read object that have a name. -/
def membersNamed (name : String) (members : List (String × Json)) : List Json :=
  members.filterMap fun member => if member.1 = name then some member.2 else none

/-- How deep arrays and objects may lie within one another inside a spacing
rule, which is the second level of its document. -/
def deepestRule : Nat := 126

/-- A spacing rule: an object with a kind, or an array that starts with one.
All of it must be readable, also what is not used. -/
def readRule? (document : Json.Document) : Option SpacingRule :=
  if deepestRule < Json.nesting document then none
  else
    match document with
    | .object members =>
      match Json.ofMembers? members with
      | none => none
      | some read =>
        match membersNamed "kind" read with
        | [.string kind] => ruleOf? kind (membersNamed "factor" read)
        | _ => none
    | .array items =>
      match Json.ofItems? items with
      | some [.string kind] => if kind = "uniform" then some .uniform else none
      | some [.string kind, factor] => if kind = "geometric" then ruleOf? kind [factor] else none
      | _ => none
    | _ => none

/-! ## Reading settings -/

/-- The names of the settings, in their fixed order. -/
def memberNames : List String :=
  ["width", "height", "width_factor", "height_factor", "dpi", "wspace", "hspace",
    "spacing_rule", "blank", "annotate"]

def set? (settings : Settings) (name : String) (document : Json.Document) : Option Settings :=
  if name = "width" then (readReal? document).map fun width => { settings with width }
  else if name = "height" then (readReal? document).map fun height => { settings with height }
  else if name = "width_factor" then
    (readGiven? document).map fun widthFactor => { settings with widthFactor }
  else if name = "height_factor" then
    (readGiven? document).map fun heightFactor => { settings with heightFactor }
  else if name = "dpi" then (readReal? document).map fun dpi => { settings with dpi }
  else if name = "wspace" then (readGiven? document).map fun wspace => { settings with wspace }
  else if name = "hspace" then (readGiven? document).map fun hspace => { settings with hspace }
  else if name = "spacing_rule" then
    (readRule? document).map fun spacingRule => { settings with spacingRule }
  else if name = "blank" then (readGlyph? document).map fun blank => { settings with blank }
  else if name = "annotate" then
    (readFlag? document).map fun annotate => { settings with annotate }
  else none

/-- Take over members one by one.  No setting may come twice, and members of
other names are passed over. -/
def setAll? (settings : Settings) (seen : List String) :
    List (List Json.StringUnit × Json.Document) → Option Settings
  | [] => some settings
  | (units, document) :: members =>
    match Json.textOfUnits? units with
    | none => none
    | some key =>
      let name := String.ofList key
      if name ∈ memberNames then
        if name ∈ seen then none
        else
          match settings.set? name document with
          | none => none
          | some changed => setAll? changed (name :: seen) members
      else setAll? settings seen members

/-- Take over values in the order of the names they belong to.  Values may be
missing at the end, and none may be left over. -/
def setInOrder? (settings : Settings) : List String → List Json.Document → Option Settings
  | _, [] => some settings
  | [], _ :: _ => none
  | name :: names, document :: documents =>
    match settings.set? name document with
    | none => none
    | some changed => setInOrder? changed names documents

/-- The settings that a document describes, before they are checked. -/
def ofDocument? : Json.Document → Option Settings
  | .object members => setAll? default [] members
  | .array items => setInOrder? default memberNames items
  | _ => none

/-- Settings from JSON text, read and checked. -/
def ofJsonText (text : String) : Except SettingsFault Settings := do
  match (Json.read? text.toList).bind ofDocument? with
  | none => .error .unreadable
  | some settings =>
    settings.validate
    return settings

end Settings
end Mosaic
