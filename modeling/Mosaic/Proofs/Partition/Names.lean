import Mosaic.Proofs.Partition.Canonical
import Mosaic.Proofs.Tree.Naming

/-!
# The names in a partition

A drawing is cut up in the order of its tree, and every node is named when it is made.
So a split is numbered by the splits above it that have the same labels.  Directions
alternate: below its grandparent a split is cut along the same direction, at a line that
was straddled in its parent, and the label on that line is none of its own.  Hence only
the parent of a split can have the same labels, and only where the parent is the root.
-/

namespace Mosaic

variable {α : Type}

/-- The name of a node below the given splits, nearest first: its labels in order, and
a number if they are the labels of its parent as well. -/
def Node.nameBelow (above : List (Node α)) : Node α → Option String
  | .leaf contents => some ("ax_" ++ contents.label.toString)
  | .split cut children =>
    let labels := (split cut children).labels
    let number := if above.head?.map Node.labels = some labels then "_2" else ""
    some ("gs_" ++ String.ofList labels ++ number)
  | .blank _ => none

/-- Names that tell the labels below each node, and by which the nodes are found. -/
structure PartitionTree.WellNamed (tree : PartitionTree α) : Prop where
  ordered : ∀ node ∈ tree.root.descendants, node.labels.Pairwise (· < ·)
  named : ∀ above node, tree.root.Lineage above node → node.id? = node.nameBelow above
  distinct : tree.root.names.Nodup
  found : ∀ node ∈ tree.root.descendants, ∀ id, node.id? = some id → tree.find? id = some node
  absent : ∀ id, id ∉ tree.root.names → tree.find? id = none

variable {spacingAt : Nat → Spacing α} {labels members : List LabelRegion} {region : CellRect}
  {depth : Nat} {before after : Progress}

/-! ## The order of naming -/

/-- Children that are named one after the other. -/
theorem nameAll_of_swept {pieces : List Span} {children : List (Node α)}
    (swept : Swept (fun _ start child stop => child.Named start.names stop.names)
      pieces before children after) :
    before.names.nameAll (children.flatMap Node.requests) =
      (children.flatMap Node.names, after.names) := by
  induction swept with
  | nil state => rfl
  | @cons _ _ child _ start _ _ here later ih =>
    have own : start.names.nameAll child.requests = _ := here
    rw [List.flatMap_cons, NamePool.nameAll_append, own, ih, List.flatMap_cons]

theorem Node.Fills.perm_labels {node : Node α} (fills : node.Fills labels members region) :
    node.labels.Perm (members.map LabelRegion.label) := by
  have shown := fills.leaves.map LabelRegion.label
  rw [List.map_map] at shown
  exact node.perm_labels.trans shown

/-- A call names what it makes in the order of the tree. -/
theorem named_of_ok {node : Node α} (laidOut : LaidOut labels)
    (frames : Frames labels region members)
    (done : partitionRegion spacingAt region members depth before = .ok node after) :
    node.Named before.names after.names := by
  induction count : region.innerLineCount using Nat.strongRecOn
    generalizing region members depth before node after with
  | ind count ih =>
    have fills := fills_of_ok laidOut done frames
    cases outcome_of_ok done with
    | blank =>
      rw [Node.Named, Node.requests_blank, Node.names_blank]
      rfl
    | leaf nonempty sole =>
      rw [Node.Named, Node.requests_leaf, Node.names_leaf]
      rfl
    | split cutInto called =>
      have below := nameAll_of_swept (called.imp_of_mem fun piece member start child stop made =>
        ih _ (count ▸ CellRect.innerLineCount_piece cutInto.2.2 member) (frames.piece member)
          made rfl)
      have own := before.names.split_eq_of_perm fills.perm_labels
      rw [Node.Named, Node.requests_split, Node.names_split, NamePool.nameAll, NamePool.name, own]
      exact congrArg (fun later => (_ :: later.1, later.2)) below

/-! ## Labels that are left behind -/

/-- Two splits further down at least one label of the split in between is left out. -/
theorem Cut.MadeAt.exists_label_left {outer middle inner : Cut α}
    {siblings children below : List (Node α)} {others kept : List LabelRegion}
    {level lower : Nat} (made : outer.MadeAt spacingAt labels members depth siblings)
    (member : Node.split middle children ∈ siblings)
    (middleMade : middle.MadeAt spacingAt labels others level children)
    (innerMember : Node.split inner below ∈ children)
    (innerMade : inner.MadeAt spacingAt labels kept lower below) :
    ∃ label ∈ labels, middle.region.contains label.bounds = true ∧
      ¬ inner.region.contains label.bounds = true := by
  -- the inner split has the direction of the outer one, and the extent of the middle one
  have turned := made.alternates member middleMade
  have same : inner.orientation = outer.orientation := by
    rw [middleMade.alternates innerMember innerMade, turned, Orientation.across_across]
  have extent : inner.region.along outer.orientation = middle.region.along outer.orientation := by
    have across := middleMade.along_across innerMember
    rw [turned, Orientation.across_across] at across
    exact across
  rcases innerMade.exists_free with ⟨line, inside, free⟩
  rw [same] at inside free
  rw [extent] at inside
  rcases made.straddled_in_child member inside with ⟨label, listed, held, straddles⟩
  exact ⟨label, listed, held, fun contained => free ⟨label, listed, contained, straddles⟩⟩

namespace ArtGrid.Solid

variable {grid : ArtGrid} {settings : Settings} {tree : PartitionTree Float}
  {node : Node Float} {above : List (Node Float)}

theorem exists_named (solid : grid.Solid) (made : grid.partition settings = .ok tree) :
    ∃ after, tree.root.Named NamePool.empty after := by
  rcases (partition_ok made).2.2.2 with ⟨after, done⟩
  exact ⟨after.names, named_of_ok solid.laidOut solid.frames done⟩

theorem nodup_leaves (solid : grid.Solid) (made : grid.partition settings = .ok tree) :
    (tree.root.leaves.map Leaf.label).Nodup := by
  rcases (partition_ok made).2.2.2 with ⟨after, done⟩
  have fills := fills_of_ok solid.laidOut done solid.frames
  rw [← (tree.root.perm_labels).nodup_iff, fills.perm_labels.nodup_iff]
  exact solid.different

theorem mem_labels_iff (solid : grid.Solid) (made : grid.partition settings = .ok tree)
    (lineage : tree.root.Lineage above node) {name : Char} :
    name ∈ node.labels ↔ ∃ label ∈ grid.labels,
      node.region.contains label.bounds = true ∧ label.label = name := by
  rcases solid.exists_call made lineage with ⟨others, start, stop, frames, done⟩
  rw [(fills_of_ok solid.laidOut done frames).perm_labels.mem_iff, frames.mem_map_label_iff]

theorem labels_ne_nil (solid : grid.Solid) (made : grid.partition settings = .ok tree)
    {cut : Cut Float} {children : List (Node Float)}
    (lineage : tree.root.Lineage above (.split cut children)) :
    (Node.split cut children).labels ≠ [] := by
  rcases solid.cut_madeAt made lineage with ⟨others, known⟩
  rcases List.exists_mem_of_ne_nil _ known.cutInto.1 with ⟨label, member⟩
  rcases known.frames.mem_iff.1 member with ⟨listed, inside⟩
  exact List.ne_nil_of_mem ((solid.mem_labels_iff made lineage).2 ⟨label, listed, inside, rfl⟩)

/-- The parent of a split has a label more, unless it is the root. -/
theorem parent_labels_not_subset (solid : grid.Solid) (made : grid.partition settings = .ok tree)
    {cut : Cut Float} {children : List (Node Float)} {parent grandparent : Node Float}
    (lineage : tree.root.Lineage (parent :: grandparent :: above) (.split cut children)) :
    ¬ parent.labels ⊆ (Node.split cut children).labels := by
  intro subset
  cases lineage with
  | child parentLineage member =>
    cases parentLineage with
    | child grandLineage parentMember =>
      have parentLineage := grandLineage.child parentMember
      have lineage := parentLineage.child member
      rcases solid.cut_madeAt made grandLineage with ⟨_, grandMade⟩
      rcases solid.cut_madeAt made parentLineage with ⟨_, parentMade⟩
      rcases solid.cut_madeAt made lineage with ⟨_, ownMade⟩
      rcases grandMade.exists_label_left parentMember parentMade member ownMade with
        ⟨label, listed, held, left⟩
      have shared := subset ((solid.mem_labels_iff made parentLineage).2 ⟨label, listed, held, rfl⟩)
      rcases (solid.mem_labels_iff made lineage).1 shared with ⟨other, known, contained, alike⟩
      rw [solid.eq_of_label_eq known listed alike] at contained
      exact left contained

/-- Of the splits above a split only the parent can have the same labels. -/
theorem count_labels (solid : grid.Solid) (made : grid.partition settings = .ok tree)
    {cut : Cut Float} {children : List (Node Float)}
    (lineage : tree.root.Lineage above (.split cut children)) :
    (above.map Node.labels).count (Node.split cut children).labels =
      if above.head?.map Node.labels = some (Node.split cut children).labels then 1 else 0 := by
  match above with
  | [] => rfl
  | [parent] =>
    by_cases same : parent.labels = (Node.split cut children).labels <;> simp [same]
  | parent :: grandparent :: above =>
    have more := solid.parent_labels_not_subset made lineage
    have differ : ∀ other ∈ parent :: grandparent :: above,
        other.labels ≠ (Node.split cut children).labels := by
      intro other member same
      apply more
      rw [← same]
      cases lineage with
      | child parentLineage inside =>
        rcases List.mem_cons.1 member with rfl | further
        · exact List.Subset.refl _
        · rcases parentLineage.of_mem_above further with ⟨between, down⟩
          exact down.labels_subset
    have nearest : (parent :: grandparent :: above).head?.map Node.labels ≠
        some (Node.split cut children).labels :=
      fun same => differ parent List.mem_cons_self (Option.some.inj same)
    rw [if_neg nearest, List.count_eq_zero, List.mem_map]
    rintro ⟨other, member, same⟩
    exact differ other member same

/-- Every node has the name that its labels and those of its parent call for. -/
theorem id?_eq (solid : grid.Solid) (made : grid.partition settings = .ok tree)
    (lineage : tree.root.Lineage above node) : node.id? = node.nameBelow above := by
  cases node with
  | leaf contents =>
    cases solid.madeAt made lineage with
    | leaf frames => rfl
  | blank region => rfl
  | split cut children =>
    rcases solid.exists_named made with ⟨after, named⟩
    have given := named.id_of_lineage (solid.nodup_leaves made) lineage
      (solid.labels_ne_nil made lineage)
    rw [solid.count_labels made lineage, NodeName.ofLabels, Node.sorted_labels] at given
    rw [Node.id?, given, Node.nameBelow]
    split
    · rw [NodeName.numbered, if_neg (by decide), String.append_assoc]
      rfl
    · rw [NodeName.numbered, if_pos (by decide), String.append_empty]

end ArtGrid.Solid

/-! ## Whole drawings -/

/-- In the partition of a drawing leaves are named for their labels, and splits for the
labels below them, with a number just below a split with the same labels.  No name is
given twice, and the nodes are found by their names. -/
theorem wellNamed_of_partition {lines : List (List Char)} {blank : Char} {grid : ArtGrid}
    {settings : Settings} {tree : PartitionTree Float}
    (read : ArtGrid.ofLines lines blank = .ok grid) (made : grid.partition settings = .ok tree) :
    tree.WellNamed := by
  have solid := ArtGrid.solid_of_ofLines read
  have labelled := solid.nodup_leaves made
  rcases solid.exists_named made with ⟨after, named⟩
  have distinct := named.nodup labelled
  constructor
  · intro node member
    rcases Node.mem_descendants_iff.1 member with ⟨above, lineage⟩
    exact NodeName.pairwise_lt_sorted (labelled.sublist (lineage.sublist_leaves.map _))
  · exact fun above node lineage => solid.id?_eq made lineage
  · exact distinct
  · exact fun node member id own => PartitionTree.find?_of_nodup distinct member own
  · exact fun id => PartitionTree.find?_eq_none_iff.2

/-- Two plots beside an empty column. -/
def margined : ArtGrid where
  cells := [[.label 'A', .blank], [.label 'B', .blank]]
  rows := 2
  cols := 2
  labels := [⟨'A', 0, 0, 0, 0⟩, ⟨'B', 1, 0, 1, 0⟩]

theorem ofRows_margined : ArtGrid.ofRows [['A', '.'], ['B', '.']] '.' = .ok margined :=
  ArtGrid.ofRows_eq_ok_iff.2 (by decide +kernel)

/-- The root of its tree, which has the labels of its first child. -/
def marginedRoot {α : Type} (spacingAt : Nat → Spacing α) : Node α :=
  .split
    { id := "gs_AB", orientation := .columns, region := ⟨0, 0, 1, 1⟩, depth := 0, ratios := [1, 1]
      spacing := spacingAt 0 }
    [.split
      { id := "gs_AB_2", orientation := .rows, region := ⟨0, 0, 1, 0⟩, depth := 1, ratios := [1, 1]
        spacing := spacingAt 1 }
      [.leaf ⟨"ax_A", 'A', ⟨0, 0, 0, 0⟩⟩, .leaf ⟨"ax_B", 'B', ⟨1, 0, 1, 0⟩⟩],
      .blank ⟨0, 1, 1, 1⟩]

/-- Its tree. -/
def marginedTree : PartitionTree Float where
  root := marginedRoot Settings.default.spacingAt
  rows := 2
  cols := 2
  labels := margined.labels

theorem partition_margined : margined.partition Settings.default = .ok marginedTree := by
  have done : ∀ spacingAt : Nat → Spacing Float,
      partitionRegion spacingAt margined.bounds margined.labels 0 margined.outset =
        .ok (marginedRoot spacingAt)
          ⟨⟨["ax_B", "ax_A", "gs_AB_2", "gs_AB"]⟩, ⟨2, 2, 2, 1, 2, 2⟩⟩ := by
    intro spacingAt
    cbv
  rw [ArtGrid.partition_eq margined (by decide +kernel), done]
  rfl

theorem wellNamed_of_partition_margined :
    ArtGrid.ofLines [['A', '.'], ['B', '.']] '.' = .ok margined ∧
      margined.partition Settings.default = .ok marginedTree ∧ marginedTree.WellNamed := by
  have read : ArtGrid.ofLines [['A', '.'], ['B', '.']] '.' = .ok margined :=
    ArtGrid.ofRows_eq_ok_iff.2 (by decide +kernel)
  exact ⟨read, partition_margined, wellNamed_of_partition read partition_margined⟩

end Mosaic
