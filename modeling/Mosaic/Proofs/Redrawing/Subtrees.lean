import Mosaic.Proofs.Redrawing.Mirrored
import Mosaic.Proofs.Redrawing.Parts

/-!
# Subtrees as partitions

A subtree of a partition is the partition of the part of the drawing in its region.  Three
things have to be forgotten on the way.  The labels elsewhere in the drawing say nothing
about the region.  The splits above it decide only its depth, and with it the spacing.
And the parent's labels decide only the number in the name of the node itself: further
down, the parent belongs to the subtree.
-/

namespace Mosaic

variable {α : Type}

/-! ## Subtrees seen from inside -/

/-- The same cut, so many splits higher and with its places counted from the corner of
`whole`. -/
def Cut.seenFrom (spacingAt : Nat → Spacing α) (whole : CellRect) (levels : Nat) (cut : Cut α) :
    Cut α :=
  { cut with
    region := whole.seenFrom cut.region
    depth := cut.depth - levels
    spacing := spacingAt (cut.depth - levels) }

namespace Node

mutual

/-- The same node, so many splits higher and with all places counted from the corner of
`whole`. -/
def seenFrom (spacingAt : Nat → Spacing α) (whole : CellRect) (levels : Nat) : Node α → Node α
  | leaf contents => leaf { contents with region := whole.seenFrom contents.region }
  | split cut children =>
    split (cut.seenFrom spacingAt whole levels) (seenFromAll spacingAt whole levels children)
  | blank region => blank (whole.seenFrom region)

def seenFromAll (spacingAt : Nat → Spacing α) (whole : CellRect) (levels : Nat) :
    List (Node α) → List (Node α)
  | [] => []
  | child :: children =>
    child.seenFrom spacingAt whole levels :: seenFromAll spacingAt whole levels children

end

/-- How many splits a node lies in, where that makes a difference. -/
def depth : Node α → Nat
  | split cut _ => cut.depth
  | _ => 0

/-- The same node without the number that its name has because of its parent's labels. -/
def unnumbered : Node α → Node α
  | split cut children =>
    let base := "gs_" ++ String.ofList (split cut children).labels
    split { cut with id := if cut.id = base ++ "_2" then base else cut.id } children
  | node => node

/-- A node as the root of a tree. -/
def alone (spacingAt : Nat → Spacing α) (node : Node α) : Node α :=
  node.unnumbered.seenFrom spacingAt node.region node.depth

theorem seenFromAll_eq_map (spacingAt : Nat → Spacing α) (whole : CellRect) (levels : Nat)
    (children : List (Node α)) :
    seenFromAll spacingAt whole levels children =
      children.map (seenFrom spacingAt whole levels) := by
  induction children with
  | nil => rfl
  | cons child children ih => rw [seenFromAll, ih, List.map_cons]

theorem region_seenFrom (spacingAt : Nat → Spacing α) (whole : CellRect) (levels : Nat)
    (node : Node α) :
    (node.seenFrom spacingAt whole levels).region = whole.seenFrom node.region := by
  cases node <;> rfl

theorem region_unnumbered (node : Node α) : node.unnumbered.region = node.region := by
  cases node <;> rfl

end Node

variable {spacingAt : Nat → Spacing α} {labels others members : List LabelRegion}
  {whole region : CellRect} {depth levels : Nat} {parent : Option (List Char)} {node : Node α}

/-! ## Labels elsewhere -/

/-- A region is framed by the labels of a larger region as well. -/
theorem Frames.ofPart (frames : Frames labels region members)
    (inside : whole.contains region = true) :
    Frames (whole.membersIn labels) region members := by
  constructor
  · exact frames.upright
  · exact fun label listed => frames.uncrossed label (List.mem_of_mem_filter listed)
  · rw [frames.members_eq, CellRect.membersIn, CellRect.membersIn, CellRect.membersIn,
      List.filter_filter]
    apply List.filter_congr
    intro label listed
    exact (Bool.and_eq_left_iff_imp.2 (CellRect.contains_trans inside)).symm

theorem Cut.MadeAt.contains_child {cut : Cut α} {children : List (Node α)} {child : Node α}
    (made : cut.MadeAt spacingAt labels members depth children) (member : child ∈ children) :
    cut.region.contains child.region = true := by
  rw [made.across child member]
  exact made.frames.contains_piece (made.mem_pieces member)

/-- A partition in a region is determined by the labels of the region. -/
theorem Node.IsPartition.ofPart (partition : node.IsPartition spacingAt labels parent depth)
    (inside : whole.contains node.region = true) :
    node.IsPartition spacingAt (whole.membersIn labels) parent depth := by
  induction partition with
  | blank frames => exact .blank (frames.ofPart inside)
  | leaf frames => exact .leaf (frames.ofPart inside)
  | split made named below ih =>
    refine .split { made with frames := made.frames.ofPart inside } named ?_
    exact fun child member =>
      ih child member (CellRect.contains_trans inside (made.contains_child member))

/-! ## Splits above -/

/-- What is known about a cut holds of it at every depth, and of any children in the same
regions. -/
theorem Cut.MadeAt.atDepth {cut : Cut α} {children twins : List (Node α)}
    (made : cut.MadeAt spacingAt labels members depth children)
    (same : twins.map Node.region = children.map Node.region) (level : Nat) :
    Cut.MadeAt spacingAt labels members level
      { cut with depth := level, spacing := spacingAt level } twins := by
  refine { made with level := rfl, spaced := rfl, spans := ?_, across := ?_ }
  · have spans := congrArg (List.map fun region => region.along cut.orientation) same
    rw [List.map_map, List.map_map] at spans
    exact spans.trans made.spans
  · intro twin member
    have found : twin.region ∈ twins.map Node.region := List.mem_map_of_mem member
    rw [same] at found
    rcases List.mem_map.1 found with ⟨child, listed, alike⟩
    rw [← alike]
    exact made.across child listed

theorem Cut.seenFrom_eq (cut : Cut α) :
    cut.seenFrom spacingAt whole levels =
      { cut.redrawn whole.countedFrom with
        depth := cut.depth - levels, spacing := spacingAt (cut.depth - levels) } := by
  simp [seenFrom, redrawn, CellRect.redrawn_countedFrom, CellRect.countedFrom, LineMap.backTo,
    LineMap.arrange]

/-- Seen from inside, a partition is the partition of the same cells at a smaller depth. -/
theorem Redraws.isPartition_seenFrom (redraws : Redraws whole.countedFrom whole members others)
    (partition : node.IsPartition spacingAt members parent depth)
    (inside : whole.contains node.region = true) (lower : levels ≤ depth) :
    (node.seenFrom spacingAt whole levels).IsPartition spacingAt others parent (depth - levels) := by
  induction partition with
  | blank frames =>
    have framed := redraws.frames frames inside
    rw [List.perm_nil.1 (redraws.perm_membersIn frames inside),
      CellRect.redrawn_countedFrom] at framed
    exact .blank framed
  | @leaf _ _ label frames =>
    have framed := redraws.frames frames inside
    rw [List.perm_singleton.1 (redraws.perm_membersIn frames inside), LabelRegion.redrawn,
      CellRect.redrawn_countedFrom] at framed
    exact @Node.IsPartition.leaf _ _ _ _ _ ⟨label.label, whole.seenFrom label.bounds⟩ framed
  | @split _ depth inner cut children made named below ih =>
    have same : (children.map (Node.seenFrom spacingAt whole levels)).map Node.region =
        (children.map (Node.redrawn whole.countedFrom)).map Node.region := by
      rw [List.map_map, List.map_map]
      apply List.map_congr_left
      intro child _
      rw [Function.comp_apply, Function.comp_apply, Node.region_seenFrom, Node.region_redrawn,
        CellRect.redrawn_countedFrom]
    have moved := (redraws.madeAt made inside).atDepth same (depth - levels)
    have kept := redraws.sortedLabels_eq made.frames inside
    rw [Node.seenFrom, Node.seenFromAll_eq_map]
    rw [← made.level, ← Cut.seenFrom_eq, made.level] at moved
    apply Node.IsPartition.split moved
    · rw [kept]
      exact named
    · intro child member
      rcases List.mem_map.1 member with ⟨old, found, rfl⟩
      rw [kept, ← Nat.sub_add_comm lower]
      exact ih old found (CellRect.contains_trans inside (made.contains_child found))
        (Nat.le_succ_of_le lower)

/-! ## The parent's labels -/

namespace ArtGrid.Solid

variable {grid : ArtGrid} {settings : Settings} {tree : PartitionTree Float}
  {node : Node Float} {above : List (Node Float)}

/-- Without its number a node is a partition for itself. -/
theorem isPartition_unnumbered (solid : grid.Solid) (made : grid.partition settings = .ok tree)
    (lineage : tree.root.Lineage above node) :
    node.unnumbered.IsPartition settings.spacingAt grid.labels none above.length := by
  have labelled : ∀ members, Frames grid.labels node.region members →
      node.labels = LabelRegion.sortedLabels members :=
    fun members => solid.labels_eq_sortedLabels made lineage
  cases solid.isPartition_of_lineage made lineage with
  | blank frames => exact .blank frames
  | leaf frames => exact .leaf frames
  | @split _ _ members cut children known named below =>
    have renamed : ∀ name, Cut.MadeAt settings.spacingAt grid.labels members above.length
        { cut with id := name } children := fun name => { known with }
    refine .split (renamed _) ?_ below
    rw [NodeName.underParent, ← labelled members known.frames] at named ⊢
    rw [if_neg (Option.some_ne_none _).symm, String.append_empty]
    split at named
    · exact if_pos named
    · rw [String.append_empty] at named
      simp only [named, ite_self]

theorem contains_of_lineage (solid : grid.Solid) (made : grid.partition settings = .ok tree)
    (lineage : tree.root.Lineage above node) : grid.bounds.contains node.region = true := by
  induction lineage with
  | root =>
    rw [((solid.partition_eq_ok_iff (valid_of_partition_ok made)).1 made).2.1]
    exact CellRect.contains_refl _
  | child parent member ih =>
    rcases solid.cut_madeAt made parent with ⟨members, known⟩
    exact CellRect.contains_trans ih (known.contains_child member)

/-- The depth of a split is the number of splits above it. -/
theorem alone_eq (solid : grid.Solid) (made : grid.partition settings = .ok tree)
    (lineage : tree.root.Lineage above node) :
    node.alone settings.spacingAt =
      node.unnumbered.seenFrom settings.spacingAt node.region above.length := by
  cases solid.madeAt made lineage with
  | blank frames => rfl
  | leaf frames => rfl
  | split known => rw [Node.alone, Node.depth, known.level]

end ArtGrid.Solid

/-! ## Whole drawings -/

/-- What the region of a node shows is a drawing of its own, if it has a label.  Its
partition under the same settings is the subtree of the node. -/
theorem partition_part {lines : List (List Char)} {blank : Char} {grid : ArtGrid}
    {settings : Settings} {tree : PartitionTree Float} {node : Node Float}
    (read : ArtGrid.ofLines lines blank = .ok grid) (made : grid.partition settings = .ok tree)
    (member : node ∈ tree.root.descendants)
    (labelled : ∃ row col label, node.region.containsCell row col = true ∧
      grid.cell? row col = some (.label label)) :
    ∃ part partTree,
      ArtGrid.ofLines (node.region.cutOut (lines.map Text.withoutEscapes)) blank = .ok part ∧
        part.partition settings = .ok partTree ∧
          partTree.root = node.alone settings.spacingAt := by
  have solid := ArtGrid.solid_of_ofLines read
  rcases Node.mem_descendants_iff.1 member with ⟨above, lineage⟩
  rcases solid.exists_call made lineage with ⟨members, start, stop, frames, done⟩
  have inside := solid.contains_of_lineage made lineage
  rcases ArtGrid.exists_part read frames.upright inside labelled with ⟨part, partRead, partOf⟩
  have redraws := partOf.redraws solid frames
  have within : node.region.contains node.unnumbered.region = true := by
    rw [node.region_unnumbered]
    exact CellRect.contains_refl _
  have partition := (solid.isPartition_unnumbered made lineage).ofPart within
  rw [← frames.members_eq] at partition
  have moved := redraws.isPartition_seenFrom partition within (Nat.le_refl _)
  rw [Nat.sub_self, ← solid.alone_eq made lineage] at moved
  refine ⟨part, ⟨node.alone settings.spacingAt, part.rows, part.cols, part.labels⟩, partRead, ?_,
    rfl⟩
  rw [partOf.solid.partition_eq_ok_iff (ArtGrid.valid_of_partition_ok made)]
  refine ⟨⟨rfl, rfl, rfl⟩, ?_, moved⟩
  change (node.alone settings.spacingAt).region = part.bounds
  rw [Node.alone, Node.region_seenFrom, Node.region_unnumbered, partOf.bounds]

def stacked (id : String) (left depth : Nat) : Node Float :=
  .split
    { id, orientation := .rows, region := ⟨0, left, 1, left⟩, depth, ratios := [1, 1]
      spacing := Settings.default.spacingAt depth }
    [.leaf ⟨"ax_A", 'A', ⟨0, left, 0, left⟩⟩, .leaf ⟨"ax_B", 'B', ⟨1, left, 1, left⟩⟩]

def marginedLeftTree : PartitionTree Float where
  root := .split
    { id := "gs_AB", orientation := .columns, region := ⟨0, 0, 1, 1⟩, depth := 0, ratios := [1, 1]
      spacing := Settings.default.spacingAt 0 }
    [.blank ⟨0, 0, 1, 0⟩, stacked "gs_AB_2" 1 1]
  rows := 2
  cols := 2
  labels := marginedLeft.labels

theorem partition_marginedLeft : marginedLeft.partition Settings.default = .ok marginedLeftTree := by
  have solid := ArtGrid.solid_of_ofRows ofRows_margined
  have drawn : margined.RedrawnAs (margined.mirroring .columns) marginedLeft :=
    (solid.cellsRedrawn_mirroring .columns).redrawnAs solid
      (ArtGrid.solid_of_ofRows ofRows_marginedLeft)
      fun orientation => Or.inl (margined.scale_mirroring .columns orientation)
  exact drawn.partition_ok partition_margined

theorem alone_stacked :
    (stacked "gs_AB_2" 1 1).alone Settings.default.spacingAt = stacked "gs_AB" 0 0 := by
  have labels : (stacked "gs_AB_2" 1 1).labels = ['A', 'B'] := by
    rw [Node.labels, stacked, Node.leaves_split, List.flatMap_cons, List.flatMap_cons,
      Node.leaves_leaf, Node.leaves_leaf]
    change ['A', 'B'].mergeSort (fun one other => one ≤ other) = ['A', 'B']
    cbv
  have numbered : "gs_AB_2" = "gs_" ++ String.ofList ['A', 'B'] ++ "_2" := by
    decide +kernel
  rw [Node.alone, stacked, Node.unnumbered, ← stacked, labels, if_pos numbered]
  rfl

theorem partition_part_stacked :
    ArtGrid.ofLines [['.', 'A'], ['.', 'B']] '.' = .ok marginedLeft ∧
      marginedLeft.partition Settings.default = .ok marginedLeftTree ∧
      stacked "gs_AB_2" 1 1 ∈ marginedLeftTree.root.descendants ∧
      (∃ row col label, (stacked "gs_AB_2" 1 1).region.containsCell row col = true ∧
        marginedLeft.cell? row col = some (.label label)) ∧
      ∃ part partTree,
        ArtGrid.ofLines ((stacked "gs_AB_2" 1 1).region.cutOut
          ([['.', 'A'], ['.', 'B']].map Text.withoutEscapes)) '.' = .ok part ∧
          part.partition Settings.default = .ok partTree ∧ partTree.root = stacked "gs_AB" 0 0 := by
  have read : ArtGrid.ofLines [['.', 'A'], ['.', 'B']] '.' = .ok marginedLeft :=
    ArtGrid.ofRows_eq_ok_iff.2 (by decide +kernel)
  have member : stacked "gs_AB_2" 1 1 ∈ marginedLeftTree.root.descendants :=
    (Node.sublist_descendants_child (List.mem_cons_of_mem _ List.mem_cons_self)).subset
      (Node.mem_descendants_self _)
  have labelled : ∃ row col label, (stacked "gs_AB_2" 1 1).region.containsCell row col = true ∧
      marginedLeft.cell? row col = some (.label label) := ⟨1, 1, 'B', rfl, rfl⟩
  have known := partition_part read partition_marginedLeft member labelled
  rw [alone_stacked] at known
  exact ⟨read, partition_marginedLeft, member, labelled, known⟩

end Mosaic
