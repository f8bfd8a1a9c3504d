import Mosaic.NodeName
import Mosaic.Partition.Pieces
import Mosaic.Tally
import Mosaic.Tree.Basic

/-!
Cutting a drawing into its partition tree.  A region without labels is blank
and a region that one label fills is a leaf.  Any other region is cut at every
clean column line, or failing that at every clean row line, and each piece is
treated in the same way.  A region that cannot be cut is ambiguous, and the
whole drawing with it.

Names and counts are taken in the order in which regions are entered, parents
before children.  Both are kept when cutting fails.
-/

namespace Mosaic

/-- What is carried from region to region. -/
structure Progress where
  names : NamePool
  tally : Tally
  deriving DecidableEq, Repr

namespace Progress

def count (change : Tally → Tally) : EStateM Fault Progress Unit :=
  modify fun progress => { progress with tally := change progress.tally }

def nameLeaf (label : Char) : EStateM Fault Progress String :=
  modifyGet fun progress =>
    let named := progress.names.leaf label
    (named.1, { progress with names := named.2 })

def nameSplit (labels : List Char) : EStateM Fault Progress String :=
  modifyGet fun progress =>
    let named := progress.names.split labels
    (named.1, { progress with names := named.2 })

end Progress

namespace CellRect

/-- The label that fills the whole region by itself. -/
def soleLabel? (region : CellRect) : List LabelRegion → Option Char
  | [only] => if only.bounds = region then some only.label else none
  | _ => none

theorem direction?_several {region : CellRect} {members : List LabelRegion}
    {orientation : Orientation} (chosen : region.direction? members = some orientation) :
    2 ≤ (region.pieces orientation members).length := by
  unfold direction? at chosen
  split at chosen
  · cases chosen; assumption
  · split at chosen
    · cases chosen; assumption
    · cases chosen

/-- A piece of a region that is cut has fewer grid lines inside. -/
theorem innerLineCount_piece {region : CellRect} {members : List LabelRegion}
    {orientation : Orientation} {span : Span}
    (chosen : region.direction? members = some orientation)
    (member : span ∈ region.pieces orientation members) :
    (region.slice orientation span).innerLineCount < region.innerLineCount := by
  have shorter := piece_shorter (direction?_several chosen) member
  cases orientation <;>
    simp only [along, slice, withCols, withRows, innerLineCount] at shorter ⊢ <;> omega

end CellRect

/-- The node for a region at a depth, given the labels that lie in it. -/
def partitionRegion {α : Type} (spacingAt : Nat → Spacing α) (region : CellRect)
    (members : List LabelRegion) (depth : Nat) : EStateM Fault Progress (Node α) :=
  if members.isEmpty then do
    Progress.count Tally.recordBlank
    return .blank region
  else
    match region.soleLabel? members with
    | some label => do
      Progress.count fun tally => tally.recordLeaf depth
      let id ← Progress.nameLeaf label
      return .leaf { id, label, region }
    | none =>
      match chosen : region.direction? members with
      | none => do
        Progress.count fun tally => tally.recordCuts (region.linesExamined none)
        let labels := NodeName.sorted (members.map LabelRegion.label)
        throw (.inseparable (String.ofList labels) region)
      | some orientation => do
        Progress.count fun tally =>
          (tally.recordCuts (region.linesExamined (some orientation))).recordSplit depth
        let id ← Progress.nameSplit (members.map LabelRegion.label)
        let pieces := region.pieces orientation members
        let children ← pieces.attach.mapM fun piece =>
          let part := region.slice orientation piece.val
          partitionRegion spacingAt part (part.membersIn members) (depth + 1)
        let cut : Cut α :=
          { id, orientation, region, depth, ratios := pieces.map Span.size
            spacing := spacingAt depth }
        return .split cut children
termination_by region.innerLineCount
decreasing_by exact CellRect.innerLineCount_piece chosen piece.property

namespace ArtGrid

/-- The partition tree of a drawing, with spacing given by depth. -/
def partitionWith {α : Type} (spacingAt : Nat → Spacing α) (grid : ArtGrid) :
    EStateM Fault Progress (PartitionTree α) := do
  Progress.count fun tally => tally.recordLabels grid.labels.length
  let root ← partitionRegion spacingAt grid.bounds grid.labels 0
  return { root, rows := grid.rows, cols := grid.cols, labels := grid.labels }

/-- The partition tree of a drawing, and what was counted on the way on top of
an earlier tally.  Settings that cannot be used are refused before anything is
counted. -/
def partitionCounted (grid : ArtGrid) (settings : Settings) (tally : Tally) :
    Except Fault (PartitionTree Float) × Tally :=
  match settings.validate with
  | .error cause => (.error (.settings cause), tally)
  | .ok () =>
    match (grid.partitionWith settings.spacingAt).run ⟨NamePool.empty, tally⟩ with
    | .ok tree progress => (.ok tree, progress.tally)
    | .error fault progress => (.error fault, progress.tally)

def partition (grid : ArtGrid) (settings : Settings) : Except Fault (PartitionTree Float) :=
  (grid.partitionCounted settings Tally.zero).1

end ArtGrid
end Mosaic
