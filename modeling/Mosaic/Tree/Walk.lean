import Mosaic.Tree.Basic

/-!
Visiting the nodes of a tree in emission order: parents before children, and
children in the order of the list.  Each node is visited with the place it is
to be drawn in.  A visitor carries a state and may stop the walk with a fault.
-/

namespace Mosaic

/-- Where a node is placed. -/
inductive Slot where
  /-- Directly on the figure. -/
  | figure
  /-- In a cell of the grid that is drawn for the split of this name. -/
  | cell (grid : String) (index : Nat)
  deriving DecidableEq, Repr

/-- What is done at each kind of node.  A split is visited with its children,
which have visits of their own after it. -/
structure Visitor (α σ : Type) where
  onSplit : Cut α → (children : List (Node α)) → Slot → EStateM Fault σ Unit
  onLeaf : Leaf → Slot → EStateM Fault σ Unit
  onBlank : CellRect → Slot → EStateM Fault σ Unit

namespace Node

variable {α σ : Type}

/-- Visit a node without its children. -/
def visit (visitor : Visitor α σ) (slot : Slot) : Node α → EStateM Fault σ Unit
  | leaf contents => visitor.onLeaf contents slot
  | blank region => visitor.onBlank region slot
  | split cut children => visitor.onSplit cut children slot

mutual

def walk (visitor : Visitor α σ) (slot : Slot) : Node α → EStateM Fault σ Unit
  | leaf contents => visitor.onLeaf contents slot
  | blank region => visitor.onBlank region slot
  | split cut children => do
    visitor.onSplit cut children slot
    walkAll visitor cut.id 0 children

/-- Visit several nodes, which lie in the cells of a grid from `index` on. -/
def walkAll (visitor : Visitor α σ) (grid : String) (index : Nat) :
    List (Node α) → EStateM Fault σ Unit
  | [] => return ()
  | child :: children => do
    child.walk visitor (.cell grid index)
    walkAll visitor grid (index + 1) children

end

end Node

def PartitionTree.walk {α σ : Type} (tree : PartitionTree α) (visitor : Visitor α σ) :
    EStateM Fault σ Unit :=
  tree.root.walk visitor .figure

/-! ## Recording visits -/

/-- One visit: what was visited, and where it is placed. -/
structure Visit where
  what : String
  slot : Slot
  deriving DecidableEq, Repr

/-- Note a visit, unless it is the one to be refused. -/
def recordVisit (refused : Option Nat) (what : String) (slot : Slot) :
    EStateM Fault (List Visit) Unit := do
  let visits ← get
  if refused = some visits.length then
    throw (.canvas (.refused s!"visit {visits.length} refused"))
  else set (visits ++ [⟨what, slot⟩])

/-- A visitor that only notes its visits, and may refuse one of them. -/
def visitRecorder (α : Type) (refused : Option Nat) : Visitor α (List Visit) where
  onSplit cut _ slot := recordVisit refused cut.id slot
  onLeaf leaf slot := recordVisit refused leaf.id slot
  onBlank region slot := recordVisit refused ("blank " ++ region.describe) slot

end Mosaic
