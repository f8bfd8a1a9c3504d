import Mosaic.Proofs.NodeName
import Mosaic.Proofs.Tree.Terminals

/-!
# The way down to a node

Every node of a tree is reached from the root through the splits above it.  What
each split hands down to its children is therefore what every node has, by one
induction over the way down.  In the order of the tree, a node comes after the
splits above it and after what is below the elder siblings on the way.  When all
leaves have different labels, nothing of the latter shares a label with the node.
-/

namespace Mosaic
namespace Node

variable {α : Type}

/-- A node of a tree with the splits above it, nearest first. -/
inductive Lineage (root : Node α) : List (Node α) → Node α → Prop
  | root : Lineage root [] root
  | child {above : List (Node α)} {cut : Cut α} {children : List (Node α)} {child : Node α}
      (parent : Lineage root above (split cut children)) (member : child ∈ children) :
      Lineage root (split cut children :: above) child

/-- The labels of the leaves below a node, in the order of their code points. -/
def labels (node : Node α) : List Char :=
  NodeName.sorted (node.leaves.map Leaf.label)

/-- Nodes without a label in common. -/
def Unrelated (node other : Node α) : Prop :=
  node.labels.Disjoint other.labels

variable {root node : Node α} {above : List (Node α)}

/-! ## Descendants -/

theorem perm_labels (node : Node α) : node.labels.Perm (node.leaves.map Leaf.label) :=
  NodeName.sorted_perm _

theorem sublist_descendants_child {cut : Cut α} {children : List (Node α)} {child : Node α}
    (member : child ∈ children) :
    child.descendants.Sublist (split cut children).descendants := by
  rw [descendants_split]
  exact (List.sublist_flatten_of_mem (List.mem_map_of_mem member)).cons _

theorem mem_descendants_self (node : Node α) : node ∈ node.descendants := by
  rw [descendants_eq]
  exact List.mem_cons_self

namespace Lineage

theorem of_child {cut : Cut α} {children : List (Node α)} {child : Node α}
    (member : child ∈ children) (lineage : child.Lineage above node) :
    (split cut children).Lineage (above ++ [split cut children]) node := by
  induction lineage with
  | root => exact .child .root member
  | child parent inside ih => exact .child ih inside

/-- Every split on the way has its own way down to the node. -/
theorem of_mem_above (lineage : root.Lineage above node) {other : Node α} (member : other ∈ above) :
    ∃ between, other.Lineage between node := by
  induction lineage with
  | root => cases member
  | child parent inside ih =>
    rcases List.mem_cons.1 member with rfl | further
    · exact ⟨_, .child .root inside⟩
    · rcases ih further with ⟨between, lineage⟩
      exact ⟨_, .child lineage inside⟩

theorem splits_above (lineage : root.Lineage above node) :
    ∀ other ∈ above, ∃ cut children, other = split cut children := by
  induction lineage with
  | root => exact fun _ none => absurd none List.not_mem_nil
  | child parent inside ih => exact List.forall_mem_cons.2 ⟨⟨_, _, rfl⟩, ih⟩

theorem sublist_descendants (lineage : root.Lineage above node) :
    node.descendants.Sublist root.descendants := by
  induction lineage with
  | root => exact .refl _
  | child parent inside ih => exact (sublist_descendants_child inside).trans ih

theorem sublist_leaves (lineage : root.Lineage above node) : node.leaves.Sublist root.leaves :=
  lineage.sublist_descendants.filterMap leaf?

theorem labels_subset (lineage : root.Lineage above node) : node.labels ⊆ root.labels := by
  intro label listed
  rw [(perm_labels _).mem_iff] at listed ⊢
  exact (lineage.sublist_leaves.map Leaf.label).subset listed

end Lineage

/-- Every descendant has a lineage. -/
theorem exists_lineage (root : Node α) :
    ∀ node ∈ root.descendants, ∃ above, root.Lineage above node := by
  intro node member
  induction root using induct with
  | leaf contents =>
    rw [descendants_leaf, List.mem_singleton] at member
    exact ⟨[], member ▸ .root⟩
  | blank region =>
    rw [descendants_blank, List.mem_singleton] at member
    exact ⟨[], member ▸ .root⟩
  | split cut children ih =>
    rw [descendants_split] at member
    rcases List.mem_cons.1 member with rfl | deeper
    · exact ⟨[], .root⟩
    · rcases List.mem_flatMap.1 deeper with ⟨child, inside, below⟩
      rcases ih child inside below with ⟨above, lineage⟩
      exact ⟨above ++ [split cut children], lineage.of_child inside⟩

/-- The nodes of a tree are the ones with a lineage. -/
theorem mem_descendants_iff : node ∈ root.descendants ↔ ∃ above, root.Lineage above node := by
  constructor
  · exact exists_lineage root node
  · rintro ⟨above, lineage⟩
    exact lineage.sublist_descendants.subset node.mem_descendants_self

/-- Two different leaves lie below two different children of some split. -/
theorem exists_fork (root : Node α) {one other : Leaf} (first : one ∈ root.leaves)
    (second : other ∈ root.leaves) (different : one ≠ other) :
    ∃ (above : List (Node α)) (cut : Cut α) (children : List (Node α)) (index otherIndex : Nat)
      (child sibling : Node α), root.Lineage above (split cut children) ∧ index ≠ otherIndex ∧
        children[index]? = some child ∧ children[otherIndex]? = some sibling ∧
          one ∈ child.leaves ∧ other ∈ sibling.leaves := by
  induction root using induct with
  | leaf contents =>
    rw [leaves_leaf, List.mem_singleton] at first second
    exact absurd (first.trans second.symm) different
  | blank region =>
    rw [leaves_blank] at first
    exact absurd first List.not_mem_nil
  | split cut children ih =>
    rw [leaves_split, List.mem_flatMap] at first second
    rcases first with ⟨child, member, below⟩
    rcases second with ⟨sibling, otherMember, otherBelow⟩
    rcases List.getElem?_of_mem member with ⟨index, found⟩
    rcases List.getElem?_of_mem otherMember with ⟨otherIndex, otherFound⟩
    by_cases same : index = otherIndex
    · -- both lie below the same child, so the split is further down
      subst same
      cases Option.some.inj (found.symm.trans otherFound)
      rcases ih child member below otherBelow with
        ⟨above, inner, others, place, otherPlace, near, far, lineage, rest⟩
      exact ⟨_, inner, others, place, otherPlace, near, far, lineage.of_child member, rest⟩
    · exact ⟨[], cut, children, index, otherIndex, child, sibling, .root, same, found, otherFound,
        below, otherBelow⟩

/-! ## The order of the tree -/

/-- Below an elder sibling there is no label of a younger one. -/
private theorem unrelated_of_elder {cut : Cut α} {elder younger : List (Node α)} {child : Node α}
    (distinct : ((split cut (elder ++ child :: younger)).leaves.map Leaf.label).Nodup) :
    ∀ other ∈ elder.flatMap descendants, other.Unrelated child := by
  intro other below
  rcases List.mem_flatMap.1 below with ⟨sibling, older, within⟩
  rcases exists_lineage sibling other within with ⟨between, lineage⟩
  rw [leaves_split, List.flatMap_append, List.flatMap_cons, List.map_append, List.map_append,
    List.nodup_append'] at distinct
  intro label listed shared
  rw [(perm_labels _).mem_iff] at listed shared
  apply distinct.2.2 _ (List.mem_append_left _ shared)
  rcases List.mem_map.1 listed with ⟨contents, found, rfl⟩
  exact List.mem_map_of_mem
    (List.mem_flatMap.2 ⟨sibling, older, lineage.sublist_leaves.subset found⟩)

/-- Before a node come the splits above it and otherwise unrelated nodes, if all
leaves of the tree differ. -/
theorem Lineage.exists_preorder (lineage : root.Lineage above node)
    (distinct : (root.leaves.map Leaf.label).Nodup) :
    ∃ earlier aside later, root.descendants = earlier ++ node.descendants ++ later ∧
      earlier.Perm (above ++ aside) ∧ ∀ other ∈ aside, other.Unrelated node := by
  induction lineage with
  | root => exact ⟨[], [], [], (List.append_nil _).symm, .nil, fun _ none => by cases none⟩
  | @child above cut children child parent member ih =>
    rcases ih with ⟨earlier, aside, later, whole, same, apart⟩
    rcases List.append_of_mem member with ⟨elder, younger, rfl⟩
    refine ⟨earlier ++ split cut (elder ++ child :: younger) :: elder.flatMap descendants,
      aside ++ elder.flatMap descendants, younger.flatMap descendants ++ later, ?_, ?_, ?_⟩
    · rw [whole, descendants_split, List.flatMap_append, List.flatMap_cons]
      simp only [List.append_assoc, List.cons_append]
    · rw [List.cons_append, ← List.append_assoc]
      exact List.perm_middle.trans ((same.append_right _).cons _)
    · intro other found
      rcases List.mem_append.1 found with before | beside
      · intro label listed shared
        exact apart other before listed ((Lineage.child .root member).labels_subset shared)
      · exact unrelated_of_elder (distinct.sublist (parent.sublist_leaves.map _)) other beside

end Node

/-! ## Depth -/

private theorem foldl_max_le_iff {entries : List Nat} {start bound : Nat} :
    entries.foldl max start ≤ bound ↔ start ≤ bound ∧ ∀ entry ∈ entries, entry ≤ bound := by
  induction entries generalizing start with
  | nil => simp
  | cons entry entries ih =>
    rw [List.foldl_cons, ih, Nat.max_le, and_assoc, List.forall_mem_cons]

/-- A bound on the depth of a tree is a bound on the depth of every split. -/
theorem PartitionTree.maxDepth_le_iff {α : Type} {tree : PartitionTree α} {bound : Nat} :
    tree.maxDepth ≤ bound ↔
      ∀ cut children, Node.split cut children ∈ tree.root.descendants → cut.depth + 1 ≤ bound := by
  rw [maxDepth, splits, foldl_max_le_iff]
  constructor
  · rintro ⟨-, each⟩ cut children member
    apply each
    exact List.mem_map.2 ⟨(cut, children.length), List.mem_filterMap.2 ⟨_, member, rfl⟩, rfl⟩
  · intro each
    refine ⟨Nat.zero_le _, ?_⟩
    intro entry listed
    rcases List.mem_map.1 listed with ⟨found, member, rfl⟩
    rcases List.mem_filterMap.1 member with ⟨node, inside, same⟩
    cases node with
    | leaf contents => cases same
    | blank region => cases same
    | split cut children =>
      cases same
      exact each cut children inside

end Mosaic
