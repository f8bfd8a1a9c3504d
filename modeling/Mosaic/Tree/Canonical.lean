import Mosaic.Blake3
import Mosaic.Json.Writer
import Mosaic.Tree.Basic

/-!
The canonical JSON text of a partition tree, and the fingerprint taken from it.
The text holds everything about the tree in a fixed order, so trees that differ
in shape, names, ratios or spacing have different texts.
-/

namespace Mosaic

def CellRect.toJson (rect : CellRect) : Json :=
  .object [
    ("top", .ofNat rect.top),
    ("left", .ofNat rect.left),
    ("bottom", .ofNat rect.bottom),
    ("right", .ofNat rect.right)]

def LabelRegion.toJson (region : LabelRegion) : Json :=
  .object [("label", .string region.label.toString), ("bounds", region.bounds.toJson)]

def Orientation.toJson : Orientation → Json
  | columns => .string "columns"
  | rows => .string "rows"

def Spacing.toJson (spacing : Spacing Float) : Json :=
  .object [("wspace", .ofFloat? spacing.wspace), ("hspace", .ofFloat? spacing.hspace)]

def Leaf.toJson (leaf : Leaf) : Json :=
  .object [
    ("kind", .string "leaf"),
    ("id", .string leaf.id),
    ("label", .string leaf.label.toString),
    ("region", leaf.region.toJson)]

namespace Node

mutual

def toJson : Node Float → Json
  | leaf contents => contents.toJson
  | blank region => .object [("kind", .string "blank"), ("region", region.toJson)]
  | split cut children =>
    .object [
      ("kind", .string "split"),
      ("id", .string cut.id),
      ("orientation", cut.orientation.toJson),
      ("region", cut.region.toJson),
      ("depth", .ofNat cut.depth),
      ("children", .array (listToJson children)),
      ("ratios", .array (cut.ratios.map .ofNat)),
      ("spacing", cut.spacing.toJson)]

def listToJson : List (Node Float) → List Json
  | [] => []
  | child :: children => child.toJson :: listToJson children

end

end Node

namespace PartitionTree

def toJson (tree : PartitionTree Float) : Json :=
  .object [
    ("root", tree.root.toJson),
    ("rows", .ofNat tree.rows),
    ("cols", .ofNat tree.cols),
    ("labels", .array (tree.labels.map LabelRegion.toJson))]

/-- The text that stands for the whole tree. -/
def canonical (tree : PartitionTree Float) : String :=
  tree.toJson.compact

/-- The digest of the canonical text. -/
def fingerprint (tree : PartitionTree Float) : String :=
  Blake3.hexDigest tree.canonical

end PartitionTree
end Mosaic
