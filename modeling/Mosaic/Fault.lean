import Mosaic.CellRect
import Mosaic.Decimal.Style
import Mosaic.Text.Quoted

/-!
Everything that can go wrong between a drawing and a finished figure.  A fault
records its cause; the wording is given once, by the `message` functions.
-/

namespace Mosaic

/-! ## Causes -/

/-- Why settings are refused. -/
inductive SettingsFault where
  /-- A length that must be positive and finite is not. -/
  | notPositive (field : String) (value : Float)
  /-- A spacing that must be finite and at least zero is not. -/
  | negative (field : String) (value : Float)
  /-- The mark of empty cells could be taken for a label, or is not one cell wide. -/
  | blankMarker (glyph : Char)
  /-- The settings document cannot be read. -/
  | unreadable
  deriving DecidableEq, Repr

/-- Why a canvas refuses a call. -/
inductive CanvasFault where
  /-- A cell of a grid is wanted before the grid is there. -/
  | unbuiltGrid (id : String)
  /-- The ratio lists do not fit the shape of the grid. -/
  | ratiosDoNotFit (heights widths : List Nat) (nrows ncols : Nat)
  /-- No grid has been issued under this handle. -/
  | unknownGrid (handle : Nat)
  /-- The grid has no cell of this index. -/
  | outsideGrid (index nrows ncols : Nat)
  /-- The whole program makes no figure. -/
  | neverCreated
  /-- The canvas has a reason of its own. -/
  | refused (reason : String)
  deriving DecidableEq, Repr

/-- Why a program statement cannot be carried out. -/
inductive StatementFault where
  | unexpectedIndent (line : String)
  | unrecognised (line : String)
  | malformedFigure (call : String)
  | malformedAssignment (text : String)
  | unsupportedConstructor (call : String)
  | missingKeyword (line : String)
  | unsupportedArgument (key : String)
  | malformedAxis (text : String)
  | notLeafId (id : String)
  | unterminatedAxis (id : String)
  | malformedCell (text : String)
  | malformedRatios (text : String)
  | notInteger (text : String)
  | notNumber (text : String)
  /-- The block of this grid has no such argument. -/
  | missingArgument (id key : String)
  | neverClosed (id : String)
  /-- A figure is needed, and none has been made. -/
  | noFigure
  /-- The canvas refused the call that the statement makes. -/
  | canvas (cause : CanvasFault)
  deriving DecidableEq, Repr

/-- A fault of any stage. -/
inductive Fault where
  /-- The drawing has no rows, no columns or no labels. -/
  | emptyArt
  | ragged (line expected found : Nat)
  | notSolid (label : Char) (row col : Nat)
  | inseparable (labels : String) (region : CellRect)
  | invalidGlyph (glyph : Char) (row col : Nat)
  | settings (cause : SettingsFault)
  | statement (line : Nat) (cause : StatementFault)
  | canvas (cause : CanvasFault)
  /-- Reading or writing failed outside the program. -/
  | transfer (reason : String)
  deriving DecidableEq, Repr

/-! ## Wording -/

/-- Messages write a real number with the fewest digits and never an exponent;
an exact tie goes up. -/
def messageStyle : Decimal.Style where
  tie := .up
  positional _ := true
  wholeMark := ""
  exponentMark := ""

/-- A list of counts in brackets. -/
def countList (counts : List Nat) : String :=
  "[" ++ String.intercalate ", " (counts.map toString) ++ "]"

namespace SettingsFault

def message : SettingsFault → String
  | notPositive field value =>
    s!"`{field}` must be a positive finite number, got {Decimal.text messageStyle value}"
  | negative field value =>
    s!"`{field}` must be a non-negative finite number, got {Decimal.text messageStyle value}"
  | blankMarker glyph =>
    s!"blank marker {Text.quoted glyph} must be a single-cell, non-alphanumeric glyph"
  | unreadable => "invalid configuration document"

end SettingsFault

namespace CanvasFault

def message : CanvasFault → String
  | unbuiltGrid id => s!"grid `{id}` used before it was built"
  | ratiosDoNotFit heights widths nrows ncols =>
    s!"ratios {countList heights}/{countList widths} do not fit a {nrows}x{ncols} grid"
  | unknownGrid handle => s!"unknown grid handle {handle}"
  | outsideGrid index nrows ncols => s!"cell {index} outside a {nrows}x{ncols} grid"
  | neverCreated => "source never creates a figure"
  | refused reason => reason

end CanvasFault

namespace StatementFault

def message : StatementFault → String
  | unexpectedIndent line => s!"unexpected indented statement `{line}`"
  | unrecognised line => s!"unrecognised statement `{line}`"
  | malformedFigure call => s!"malformed figure call `{call}`"
  | malformedAssignment text => s!"malformed gridspec assignment `{text}`"
  | unsupportedConstructor call => s!"unsupported gridspec constructor `{call}`"
  | missingKeyword line => s!"expected keyword argument, got `{line}`"
  | unsupportedArgument key => s!"unsupported gridspec argument `{key}`"
  | malformedAxis text => s!"malformed axis assignment `{text}`"
  | notLeafId id => s!"`{id}` is not a leaf id"
  | unterminatedAxis id => s!"unterminated add_subplot call for `{id}`"
  | malformedCell text => s!"malformed cell reference `{text}`"
  | malformedRatios text => s!"malformed ratio list `{text}`"
  | notInteger text => s!"expected an integer, got `{text}`"
  | notNumber text => s!"expected a number, got `{text}`"
  | missingArgument id key => s!"gridspec `{id}` has no {key}"
  | neverClosed id => s!"gridspec `{id}` is never closed"
  | noFigure => "figure used before `plt.figure`"
  | canvas cause => cause.message

end StatementFault

namespace Fault

def message : Fault → String
  | emptyArt => "ascii-art has no rows or no columns"
  | ragged line expected found => s!"line {line} has {found} cells, expected {expected}"
  | notSolid label row col =>
    s!"label `{label}` is not a solid rectangle (cell {row},{col} breaks it)"
  | inseparable labels region =>
    s!"labels `{labels}` in {region.describe} cannot be separated by full-span cuts"
  | invalidGlyph glyph row col =>
    s!"glyph {Text.quoted glyph} at cell {row},{col} is not a valid label"
  | settings cause => s!"configuration error: {cause.message}"
  | statement line cause => s!"cannot replay source line {line}: {cause.message}"
  | canvas cause => s!"graphics backend error: {cause.message}"
  | transfer reason => reason

end Fault
end Mosaic
