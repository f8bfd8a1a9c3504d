import Mosaic.Canvas.Basic

/-!
The program that rebuilds a figure.  It makes the figure, then for each split a
grid and for each leaf an axis, in the order of the tree, and stores them under
the names of their nodes.  Every real number is written with a point or an
exponent.
-/

namespace Mosaic
namespace Program

/-- Programs write the fewest digits that read back, without an exponent from
`10 ^ -4` up to `10 ^ 16`; an exact tie goes up. -/
def numberStyle : Decimal.Style where
  tie := .up
  positional place := -4 ≤ place && place < 16
  wholeMark := ".0"
  exponentMark := ""

def numberText (number : Float) : String :=
  Decimal.text numberStyle number

/-- A reference to a cell of a grid made before. -/
def cellText (grid : String) (index : Nat) : String :=
  s!"gridspecs[\"{grid}\"][{index}]"

/-! ## Statements -/

def figureLine (size : FigureSize Float) (dpi : Float) : String :=
  s!"fig = plt.figure(figsize=({numberText size.width}, {numberText size.height}), " ++
    s!"dpi={numberText dpi})"

/-- The first two lines of the block for a split: where its grid is stored, and
where it is placed. -/
def placementLines (id : String) : Slot → List String
  | .figure => [s!"gridspecs[\"{id}\"] = mpl.gridspec.GridSpec(", "    figure=fig,"]
  | .cell grid index =>
    [s!"gridspecs[\"{id}\"] = mpl.gridspec.GridSpecFromSubplotSpec(",
      s!"    subplot_spec={cellText grid index},"]

/-- A line for a spacing that is given. -/
def spacingLines (key : String) : Option Float → List String
  | some space => [s!"    {key}={numberText space},"]
  | none => []

def gridLines (id : String) (slot : Slot) (request : GridRequest Float) : List String :=
  [""] ++ placementLines id slot ++
    [s!"    nrows={request.nrows},",
      s!"    ncols={request.ncols},",
      s!"    height_ratios={countList request.heightRatios},",
      s!"    width_ratios={countList request.widthRatios},"] ++
    spacingLines "wspace" request.wspace ++ spacingLines "hspace" request.hspace ++ [")"]

def axisLine (id : String) (slot : Slot) : String :=
  let target := match slot with
    | .figure => "1, 1, 1"
    | .cell grid index => cellText grid index
  s!"axes[\"{id}\"] = fig.add_subplot({target})"

/-- The statement that labels an axis, inside its loop. -/
def annotationText : String :=
  "ax.annotate(name, (0.5, 0.5), ha=\"center\", va=\"center\")"

def gridStoreLine : String := "gridspecs = \x7b\x7d"

def axisStoreLine : String := "axes = \x7b\x7d"

def loopLine : String := "for name, ax in axes.items():"

/-! ## Programs -/

/-- The visitor that appends the lines of each node. -/
def writer : Visitor Float (List String) where
  onSplit cut children slot :=
    modify fun lines => lines ++ gridLines cut.id slot (GridRequest.ofCut cut children.length)
  onLeaf leaf slot := modify fun lines => lines ++ [axisLine leaf.id slot]
  onBlank _ _ := return ()

/-- Lines as text, each with its line feed. -/
def textOfLines (lines : List String) : String :=
  String.join (lines.map fun line => line ++ "\n")

def openingLines (size : FigureSize Float) (dpi : Float) : List String :=
  ["import matplotlib as mpl", "import matplotlib.pyplot as plt", figureLine size dpi, "",
    gridStoreLine, axisStoreLine]

def closingLines (annotate : Bool) : List String :=
  if annotate then ["", loopLine, "    " ++ annotationText] else []

end Program

/-- The program that rebuilds a tree. -/
def PartitionTree.program (tree : PartitionTree Float) (settings : Settings) :
    Except Fault String :=
  let size := settings.figureSize tree.rows tree.cols
  match (tree.walk Program.writer).run (Program.openingLines size settings.dpi) with
  | .ok () lines => .ok (Program.textOfLines (lines ++ Program.closingLines settings.annotate))
  | .error fault _ => .error fault

end Mosaic
