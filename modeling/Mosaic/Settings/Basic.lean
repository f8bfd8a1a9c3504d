import Mosaic.Fault
import Mosaic.Figure
import Mosaic.Unicode.Alphanumeric
import Mosaic.Unicode.DisplayWidth

/-!
Settings of one figure: its size, the spacing between plots, and the mark of
empty cells.  Settings are plain values; `validate` says which of them can be
used, and names the first that cannot.
-/

namespace Mosaic

/-- How spacing changes with the depth of nesting. -/
inductive SpacingRule where
  /-- Every split has the base spacing. -/
  | uniform
  /-- A split at depth `d` has the base spacing times `factor ^ d`. -/
  | geometric (factor : Float)
  deriving DecidableEq, Repr

/-- Spacing of one split, in cells of the drawing.  Where it is missing, the
canvas uses a spacing of its own. -/
structure Spacing (α : Type) where
  wspace : Option α
  hspace : Option α
  deriving DecidableEq, Repr

/-- The settings of one figure. -/
structure Settings where
  /-- Width of the figure in inches. -/
  width : Float
  /-- Height of the figure in inches. -/
  height : Float
  /-- Inches per column of the drawing; replaces the width. -/
  widthFactor : Option Float
  /-- Inches per row of the drawing; replaces the height. -/
  heightFactor : Option Float
  /-- Dots per inch. -/
  dpi : Float
  /-- Horizontal space between plots. -/
  wspace : Option Float
  /-- Vertical space between plots. -/
  hspace : Option Float
  spacingRule : SpacingRule
  /-- The mark of empty cells. -/
  blank : Char
  /-- Should the program label every plot? -/
  annotate : Bool
  deriving DecidableEq, Repr

/-- A side of the figure whose given size a factor replaces. -/
inductive FigureSide where
  | width
  | height
  deriving DecidableEq, Repr

/-- The name of the setting that gives a side its size. -/
def FigureSide.name : FigureSide → String
  | width => "width"
  | height => "height"

def FigureSide.extent {α : Type} (side : FigureSide) (size : FigureSize α) : α :=
  match side with
  | width => size.width
  | height => size.height

/-- Is the number finite and greater than zero? -/
def isPositive (value : Float) : Bool :=
  value.isFinite && 0 < value

/-- Is the number finite and at least zero? -/
def isNonNegative (value : Float) : Bool :=
  value.isFinite && 0 ≤ value

namespace Settings

/-- The settings used where nothing else is said. -/
def default : Settings where
  width := 12
  height := 8
  widthFactor := none
  heightFactor := none
  dpi := 96
  wspace := some 0.6
  hspace := some 0.5
  spacingRule := .uniform
  blank := '.'
  annotate := true

/-! ## Validity -/

/-- A number that must be positive and finite. -/
def checkPositive (field : String) (value : Float) : Except SettingsFault Unit :=
  if isPositive value then .ok () else .error (.notPositive field value)

/-- A number that must be finite and not negative. -/
def checkNonNegative (field : String) (value : Float) : Except SettingsFault Unit :=
  if isNonNegative value then .ok () else .error (.negative field value)

/-- Apply a check to a setting that is given. -/
def checkGiven (check : String → Float → Except SettingsFault Unit) (field : String) :
    Option Float → Except SettingsFault Unit
  | none => .ok ()
  | some value => check field value

/-- Can `glyph` mark empty cells?  It must not be able to name a plot, and must
be drawn over one column. -/
def isBlankMark (glyph : Char) : Bool :=
  !Unicode.isAlphanumeric glyph && Unicode.displayWidth glyph = 1

def ruleFactor : SpacingRule → Option Float
  | .uniform => none
  | .geometric factor => some factor

/-- Check all settings, in the order in which they are listed. -/
def validate (settings : Settings) : Except SettingsFault Unit := do
  checkPositive "width" settings.width
  checkPositive "height" settings.height
  checkPositive "dpi" settings.dpi
  checkGiven checkPositive "width_factor" settings.widthFactor
  checkGiven checkPositive "height_factor" settings.heightFactor
  checkGiven checkNonNegative "wspace" settings.wspace
  checkGiven checkNonNegative "hspace" settings.hspace
  checkGiven checkPositive "spacing_rule.factor" (ruleFactor settings.spacingRule)
  if isBlankMark settings.blank then .ok () else .error (.blankMarker settings.blank)

/-! ## What settings decide -/

/-- Depths beyond this one are scaled like this one. -/
def deepestScale : Nat := 0x7FFFFFFF

/-- The factor by which a rule scales the spacing at a depth. -/
def scaleAt (rule : SpacingRule) (depth : Nat) : Float :=
  match rule with
  | .uniform => 1
  | .geometric factor => power factor (min depth deepestScale)

def spacingAt (settings : Settings) (depth : Nat) : Spacing Float where
  wspace := settings.wspace.map fun space => space * scaleAt settings.spacingRule depth
  hspace := settings.hspace.map fun space => space * scaleAt settings.spacingRule depth

/-- The size of the figure for a drawing of `rows` by `cols` cells. -/
def figureSize (settings : Settings) (rows cols : Nat) : FigureSize Float where
  width :=
    match settings.widthFactor with
    | some factor => factor * Scalar.ofCount cols
    | none => settings.width
  height :=
    match settings.heightFactor with
    | some factor => factor * Scalar.ofCount rows
    | none => settings.height

/-- The sides whose given size a factor replaces. -/
def overridden (settings : Settings) : List FigureSide :=
  (if settings.widthFactor.isSome then [.width] else []) ++
    (if settings.heightFactor.isSome then [.height] else [])

end Settings
end Mosaic
