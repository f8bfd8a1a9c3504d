import Mosaic.Tree.Basic

/-!
A partition tree as indented text, one line for each node.
-/

namespace Mosaic

def Orientation.describe : Orientation → String
  | columns => "Columns"
  | rows => "Rows"

namespace Node

variable {α : Type}

/-- A node in words, without its children. -/
def describe : Node α → String
  | leaf contents => s!"{contents.id} [{contents.region.describe}]"
  | blank region => s!"blank [{region.describe}]"
  | split cut _ =>
    let ratios := String.intercalate ":" (cut.ratios.map toString)
    s!"{cut.id} {cut.orientation.describe} ratios={ratios} [{cut.region.describe}]"

def outlineLine (indent : Nat) (node : Node α) : String :=
  String.ofList (List.replicate indent ' ') ++ node.describe ++ "\n"

mutual

/-- The lines of a node and of everything below it.  Children stand four blanks
further in. -/
def outlineLines (indent : Nat) : Node α → List String
  | leaf contents => [outlineLine indent (leaf contents : Node α)]
  | blank region => [outlineLine indent (blank region : Node α)]
  | split cut children =>
    outlineLine indent (split cut children) :: outlineLinesOfAll (indent + 4) children

def outlineLinesOfAll (indent : Nat) : List (Node α) → List String
  | [] => []
  | child :: children => child.outlineLines indent ++ outlineLinesOfAll indent children

end

end Node

def PartitionTree.outline {α : Type} (tree : PartitionTree α) : String :=
  String.join (tree.root.outlineLines 0)

end Mosaic
