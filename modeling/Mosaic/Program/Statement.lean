import Mosaic.Decimal.Reading
import Mosaic.NodeName
import Mosaic.Program.Writer
import Mosaic.Text.Lines

/-!
Reading the statements of a program.  Only the forms that are written are
understood, one line at a time.  A grid is made by a block of several lines,
whose arguments are gathered until the block is closed.
-/

namespace Mosaic
namespace Program

/-- A fault about a piece of text. -/
def faultAbout {β : Type} (fault : String → StatementFault) (text : List Char) :
    Except StatementFault β :=
  .error (fault (String.ofList text))

/-- The value found, or else a fault about `text`. -/
def foundOr {β : Type} (fault : String → StatementFault) (text : List Char) :
    Option β → Except StatementFault β
  | some value => .ok value
  | none => faultAbout fault text

/-! ## Values -/

/-- A count, with white space around it allowed. -/
def readCount (text : List Char) : Except StatementFault Nat :=
  foundOr .notInteger text (Decimal.count? (Text.trim text))

/-- A real number, with white space around it allowed. -/
def readReal (text : List Char) : Except StatementFault Float :=
  foundOr .notNumber text (Decimal.number? (Text.trim text))

def readCounts : List (List Char) → Except StatementFault (List Nat)
  | [] => .ok []
  | text :: texts => do
    let count ← readCount text
    let counts ← readCounts texts
    return count :: counts

/-- The text between an opening and a closing mark. -/
def between? (opening closing text : List Char) : Option (List Char) :=
  Text.dropLead? opening text >>= Text.dropTail? closing

/-- A list of counts in brackets. -/
def readRatios (text : List Char) : Except StatementFault (List Nat) := do
  let inner ← foundOr .malformedRatios text (between? ['['] [']'] text)
  readCounts (Text.splitOnPair ',' ' ' inner)

/-- The name of a grid and the text of an index, in a reference to a cell. -/
def cellParts? (text : List Char) : Option (List Char × List Char) := do
  let inner ← Text.dropLead? "gridspecs[\"".toList text
  let (grid, rest) ← Text.cutAt? "\"][".toList inner
  let index ← Text.dropTail? [']'] rest
  return (grid, index)

def readCell (text : List Char) : Except StatementFault Slot := do
  let (grid, index) ← foundOr .malformedCell text (cellParts? text)
  let index ← readCount index
  return .cell (String.ofList grid) index

/-! ## Single statements -/

/-- A statement, as far as one line tells. -/
inductive Statement where
  /-- The line does nothing. -/
  | nothing
  /-- Make the figure. -/
  | figure (size : FigureSize Float) (dpi : Float)
  /-- Start the block of a grid. -/
  | openGrid (id : String)
  /-- Make the axis of a label. -/
  | axis (label : Char) (slot : Slot)
  deriving Repr

/-- The texts of the width, the height and the resolution in a figure call. -/
def figureParts? (call : List Char) : Option (List Char × List Char × List Char) := do
  let inner ← Text.dropLead? "figsize=(".toList call
  let (size, rest) ← Text.cutAt? "), dpi=".toList inner
  let (width, height) ← Text.cutAt? ", ".toList size
  let dpi ← Text.dropTail? [')'] rest
  return (width, height, dpi)

def readFigure (call : List Char) : Except StatementFault Statement := do
  let (width, height, dpi) ← foundOr .malformedFigure call (figureParts? call)
  let width ← readReal width
  let height ← readReal height
  let dpi ← readReal dpi
  return .figure { width, height } dpi

/-- The first line of a block: the name of the grid and how it is made. -/
def readGridOpening (text : List Char) : Except StatementFault Statement := do
  let (id, call) ← foundOr .malformedAssignment text (Text.cutAt? "\"] = ".toList text)
  if call = "mpl.gridspec.GridSpec(".toList ∨
      call = "mpl.gridspec.GridSpecFromSubplotSpec(".toList then
    return .openGrid (String.ofList id)
  else faultAbout .unsupportedConstructor call

def readTarget (target : List Char) : Except StatementFault Slot :=
  if target = "1, 1, 1".toList then .ok .figure else readCell target

def readAxis (text : List Char) : Except StatementFault Statement := do
  let (id, call) ←
    foundOr .malformedAxis text (Text.cutAt? "\"] = fig.add_subplot(".toList text)
  let label ← foundOr .notLeafId id (NodeName.label? (String.ofList id))
  let target ← foundOr .unterminatedAxis id (Text.dropTail? [')'] call)
  let slot ← readTarget target
  return .axis label slot

/-- Does a line start with white space and hold anything else? -/
def isIndented (raw line : List Char) : Bool :=
  match raw with
  | glyph :: _ => Unicode.isWhiteSpace glyph && !line.isEmpty
  | [] => false

/-- Is a line without effect: empty, a comment, an import, or one of the fixed
lines around the nodes? -/
def isIdle (line : List Char) : Bool :=
  line.isEmpty || line.head? = some '#' || (Text.dropLead? "import ".toList line).isSome ||
    [gridStoreLine, axisStoreLine, loopLine].contains (String.ofList line)

/-- The statement on a line outside the blocks of grids.  The only line that
may be indented is the one in the loop over all axes. -/
def readStatement (raw : List Char) : Except StatementFault Statement :=
  let line := Text.trim raw
  if isIndented raw line then
    if line = annotationText.toList then .ok .nothing else faultAbout .unexpectedIndent line
  else if isIdle line then .ok .nothing
  else
    match Text.dropLead? "fig = plt.figure(".toList line with
    | some call => readFigure call
    | none =>
      match Text.dropLead? "gridspecs[\"".toList line with
      | some rest => readGridOpening rest
      | none =>
        match Text.dropLead? "axes[\"".toList line with
        | some rest => readAxis rest
        | none => faultAbout .unrecognised line

/-! ## Blocks of grids -/

/-- The arguments of a grid, as far as its block has been read. -/
structure GridBlock where
  id : String
  slot : Option Slot
  nrows : Option Nat
  ncols : Option Nat
  heightRatios : Option (List Nat)
  widthRatios : Option (List Nat)
  wspace : Option Float
  hspace : Option Float
  deriving Repr

namespace GridBlock

/-- A block of which only the first line has been read. -/
def opened (id : String) : GridBlock :=
  ⟨id, none, none, none, none, none, none, none⟩

/-- Take in the argument `key` with the given text. -/
def set (block : GridBlock) (key value : List Char) : Except StatementFault GridBlock :=
  let name := String.ofList key
  if name = "figure" ∧ value = "fig".toList then .ok { block with slot := some .figure }
  else if name = "subplot_spec" then do
    let slot ← readCell value
    return { block with slot := some slot }
  else if name = "nrows" then do
    let count ← readCount value
    return { block with nrows := some count }
  else if name = "ncols" then do
    let count ← readCount value
    return { block with ncols := some count }
  else if name = "height_ratios" then do
    let ratios ← readRatios value
    return { block with heightRatios := some ratios }
  else if name = "width_ratios" then do
    let ratios ← readRatios value
    return { block with widthRatios := some ratios }
  else if name = "wspace" then do
    let space ← readReal value
    return { block with wspace := some space }
  else if name = "hspace" then do
    let space ← readReal value
    return { block with hspace := some space }
  else .error (.unsupportedArgument name)

/-- Take in a line of the block.  A comma at its end may be missing, and an
argument given again replaces the earlier one. -/
def takeLine (block : GridBlock) (line : List Char) : Except StatementFault GridBlock := do
  let argument := (Text.dropTail? [','] line).getD line
  let (key, value) ← foundOr .missingKeyword line (Text.cutAt? ['='] argument)
  block.set key value

/-- An argument that must be there. -/
def require {β : Type} (block : GridBlock) (key : String) : Option β → Except StatementFault β
  | some value => .ok value
  | none => .error (.missingArgument block.id key)

/-- The grid that a whole block asks for, and its place. -/
def finish (block : GridBlock) : Except StatementFault (GridRequest Float × Slot) := do
  let nrows ← block.require "nrows" block.nrows
  let ncols ← block.require "ncols" block.ncols
  let heightRatios ← block.require "height_ratios" block.heightRatios
  let widthRatios ← block.require "width_ratios" block.widthRatios
  let slot ← block.require "placement" block.slot
  return ({ nrows, ncols, heightRatios, widthRatios
            wspace := block.wspace, hspace := block.hspace }, slot)

end GridBlock

end Program
end Mosaic
