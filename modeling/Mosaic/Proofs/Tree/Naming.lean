import Mosaic.Proofs.Tree.Lineage

/-!
# Trees that are named in their order

A tree is named in its order when every node gets its name after the ones before it,
from the pool that those left.  If all leaves differ, then of the splits named before
a given one only those above it can have the same labels, so it is numbered by them
alone.  No name is given twice, and each node is found by its name.
-/

namespace Mosaic
namespace Node

variable {α : Type}

/-- What a node asks a pool of names for; empty regions have no name. -/
def request? : Node α → Option NameRequest
  | leaf contents => some (.leaf contents.label)
  | split cut children => some (.split (split cut children).labels)
  | blank _ => none

def requests (node : Node α) : List NameRequest :=
  node.descendants.filterMap request?

/-- The names of a node and of everything below it. -/
def names (node : Node α) : List String :=
  node.descendants.filterMap id?

/-- Are the names the ones that a pool gives out in the order of the tree? -/
def Named (before : NamePool) (node : Node α) (after : NamePool) : Prop :=
  before.nameAll node.requests = (node.names, after)

variable {root node other : Node α} {above : List (Node α)} {after : NamePool}

theorem requests_leaf (contents : Leaf) :
    (leaf contents : Node α).requests = [.leaf contents.label] := by
  rw [requests, descendants_leaf]
  rfl

theorem requests_blank (region : CellRect) : (blank region : Node α).requests = [] := by
  rw [requests, descendants_blank]
  rfl

theorem requests_split (cut : Cut α) (children : List (Node α)) :
    (split cut children).requests =
      .split (split cut children).labels :: children.flatMap requests := by
  rw [requests, descendants_split, List.filterMap_cons, List.filterMap_flatMap]
  rfl

theorem names_leaf (contents : Leaf) : (leaf contents : Node α).names = [contents.id] := by
  rw [names, descendants_leaf]
  rfl

theorem names_blank (region : CellRect) : (blank region : Node α).names = [] := by
  rw [names, descendants_blank]
  rfl

theorem names_split (cut : Cut α) (children : List (Node α)) :
    (split cut children).names = cut.id :: children.flatMap names := by
  rw [names, descendants_split, List.filterMap_cons, List.filterMap_flatMap]
  rfl

theorem sublist_names (node : Node α) :
    (node.splits.map fun split => split.1.id).Sublist node.names := by
  unfold splits names
  rw [List.map_filterMap]
  induction node.descendants with
  | nil => exact .slnil
  | cons other others ih =>
    rw [List.filterMap_cons, List.filterMap_cons]
    cases other with
    | leaf contents => exact ih.cons _
    | split cut children => exact ih.cons_cons _
    | blank region => exact ih

theorem Named.names_eq {before : NamePool} (named : root.Named before after) :
    (before.nameAll root.requests).1 = root.names :=
  congrArg Prod.fst named

/-- Every request is answered by one name. -/
private theorem length_filterMap_request? (nodes : List (Node α)) :
    (nodes.filterMap request?).length = (nodes.filterMap id?).length := by
  induction nodes with
  | nil => rfl
  | cons node nodes ih =>
    rw [List.filterMap_cons, List.filterMap_cons]
    cases node with
    | leaf contents => exact congrArg Nat.succ ih
    | split cut children => exact congrArg Nat.succ ih
    | blank region => exact ih

/-- The name of a split is what the pool gives out after everything before it was named. -/
theorem Named.id_eq {before : NamePool} {cut : Cut α} {children earlier later : List (Node α)}
    (named : root.Named before after)
    (whole : root.descendants = earlier ++ split cut children :: later) :
    cut.id = ((before.nameAll (earlier.filterMap request?)).2.split
      (split cut children).labels).1 := by
  have answers := named.names_eq
  rw [names, requests, whole, List.filterMap_append, NamePool.nameAll_append] at answers
  have lengths := before.length_nameAll (earlier.filterMap request?)
  rw [length_filterMap_request?] at lengths
  rw [List.filterMap_append] at answers
  exact (List.cons.inj (List.append_inj_right answers lengths)).1.symm

/-! ## Numbers -/

theorem sorted_labels (node : Node α) : NodeName.sorted node.labels = node.labels :=
  NodeName.sorted_eq_of_perm (NodeName.sorted_perm _)

/-- Nodes with the same labels are those whose names start alike. -/
theorem ofLabels_labels_inj :
    NodeName.ofLabels node.labels = NodeName.ofLabels other.labels ↔ node.labels = other.labels := by
  rw [NodeName.ofLabels_eq_iff, sorted_labels, sorted_labels]

/-- The name that a node would have in an unused pool. -/
def base? (node : Node α) : Option String :=
  node.request?.map NameRequest.base

/-- A node without a common label does not ask for the same name. -/
private theorem base?_ne_of_unrelated (labelled : node.labels ≠ []) (apart : other.Unrelated node) :
    other.base? ≠ some (NodeName.ofLabels node.labels) := by
  intro same
  cases other with
  | leaf contents =>
    exact NodeName.ofLeaf_ne_numbered contents.label node.labels 1 (Option.some.inj same)
  | split cut children =>
    rcases List.exists_mem_of_ne_nil _ labelled with ⟨label, listed⟩
    have equal := ofLabels_labels_inj.1 (Option.some.inj same)
    exact apart (equal ▸ listed) listed
  | blank region => cases same

/-- Splits ask for the same name as often as they have the same labels. -/
private theorem count_bases {nodes : List (Node α)}
    (splits : ∀ other ∈ nodes, ∃ cut children, other = split cut children) :
    (nodes.filterMap base?).count (NodeName.ofLabels node.labels) =
      (nodes.map labels).count node.labels := by
  induction nodes with
  | nil => rfl
  | cons other nodes ih =>
    rw [List.forall_mem_cons] at splits
    rcases splits with ⟨⟨cut, children, rfl⟩, rest⟩
    have asked : base? (split cut children) =
        some (NodeName.ofLabels (split cut children).labels) := rfl
    rw [List.filterMap_cons_some asked, List.map_cons]
    by_cases same : (split cut children).labels = node.labels
    · rw [same, List.count_cons_self, List.count_cons_self, ih rest]
    · have different := mt ofLabels_labels_inj.1 same
      rw [List.count_cons_of_ne different, List.count_cons_of_ne same, ih rest]

/-- A split is numbered by the splits above it with the same labels. -/
theorem Named.id_of_lineage {cut : Cut α} {children : List (Node α)}
    (named : root.Named NamePool.empty after) (distinct : (root.leaves.map Leaf.label).Nodup)
    (lineage : root.Lineage above (split cut children))
    (labelled : (split cut children).labels ≠ []) :
    cut.id = NodeName.numbered (NodeName.ofLabels (split cut children).labels)
      ((above.map labels).count (split cut children).labels + 1) := by
  rcases lineage.exists_preorder distinct with ⟨earlier, aside, later, whole, same, apart⟩
  rw [descendants_split, List.append_assoc, List.cons_append] at whole
  have bases : (earlier.filterMap request?).map NameRequest.base = earlier.filterMap base? := by
    rw [List.map_filterMap]
    rfl
  rw [named.id_eq whole, NamePool.split_after, bases, (same.filterMap base?).count_eq, List.filterMap_append,
    List.count_append, count_bases lineage.splits_above]
  have none : (aside.filterMap base?).count (NodeName.ofLabels (split cut children).labels) = 0 := by
    rw [List.count_eq_zero, List.mem_filterMap]
    rintro ⟨other, member, alike⟩
    exact base?_ne_of_unrelated labelled (apart other member) alike
  rw [none, Nat.add_zero]

/-- In a tree whose leaves differ no name is given twice. -/
theorem Named.nodup (named : root.Named NamePool.empty after)
    (distinct : (root.leaves.map Leaf.label).Nodup) : root.names.Nodup := by
  have asked : root.requests.filterMap NameRequest.label? = root.leaves.map Leaf.label := by
    rw [requests, leaves, List.filterMap_filterMap, List.map_filterMap]
    congr 1
    funext node
    cases node <;> rfl
  rw [← named.names_eq]
  apply NamePool.nodup_nameAll
  rw [asked]
  exact distinct

end Node

/-! ## Finding by name -/

namespace PartitionTree

variable {α : Type} {tree : PartitionTree α} {id : String}

/-- When no name occurs twice each node is found by its name. -/
theorem find?_of_nodup (distinct : tree.root.names.Nodup) {node : Node α}
    (member : node ∈ tree.root.descendants) (named : node.id? = some id) :
    tree.find? id = some node := by
  rcases List.append_of_mem member with ⟨earlier, later, whole⟩
  rw [Node.names, whole, List.filterMap_append, List.filterMap_cons_some named] at distinct
  rw [find?, List.find?_eq_some_iff_append]
  refine ⟨decide_eq_true named, earlier, later, whole, ?_⟩
  intro other before
  rw [Bool.not_eq_true', decide_eq_false_iff_not]
  intro same
  have listed : id ∈ earlier.filterMap Node.id? := List.mem_filterMap.2 ⟨other, before, same⟩
  exact (List.nodup_append.1 distinct).2.2 id listed id List.mem_cons_self rfl

theorem find?_eq_none_iff : tree.find? id = none ↔ id ∉ tree.root.names := by
  rw [find?, List.find?_eq_none, Node.names, List.mem_filterMap]
  constructor
  · rintro absent ⟨node, member, named⟩
    exact absent node member (decide_eq_true named)
  · intro absent node member named
    exact absent ⟨node, member, of_decide_eq_true named⟩

end PartitionTree
end Mosaic
