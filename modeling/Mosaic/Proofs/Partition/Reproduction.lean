import Mathlib
import Mosaic.Proofs.Partition.Frames
import Mosaic.Proofs.Tree.Terminals

/-!
# The tree of a drawing shows the drawing

The pieces of a region hold every cell and every label of it exactly once.  So the
ends of a partition tree hold every cell of the drawing exactly once, and its
leaves are the labels.  An empty region is apart from all labels, so what an end
shows in a cell is what the drawing has there.
-/

namespace Mosaic

def Leaf.shown (leaf : Leaf) : LabelRegion :=
  ⟨leaf.label, leaf.region⟩

/-- An end of a tree agrees with the labels: a leaf shows one of them, and an
empty region is apart from all. -/
def Node.Agrees {α : Type} (labels : List LabelRegion) : Node α → Prop
  | .leaf contents => contents.shown ∈ labels
  | .split _ _ => False
  | .blank region => ∀ label ∈ labels, region.Apart label.bounds

/-! ## Pieces -/

/-- Parts that each entry is in exactly one of make up the list. -/
theorem perm_flatMap_filter {α β : Type} [BEq β] [LawfulBEq β] (parts : List α)
    (entries : List β) (inPart : α → β → Bool)
    (once : ∀ entry ∈ entries, parts.countP (inPart · entry) = 1) :
    (parts.flatMap fun part => entries.filter (inPart part)).Perm entries := by
  have counted : ∀ entry, (parts.flatMap fun part => entries.filter (inPart part)).count entry =
      parts.countP (inPart · entry) * entries.count entry := by
    intro entry
    clear once
    induction parts with
    | nil => simp
    | cons part parts ih =>
      rw [List.flatMap_cons, List.count_append, ih, List.countP_cons]
      by_cases member : inPart part entry = true
      · rw [List.count_filter member, if_pos member, Nat.add_mul, Nat.one_mul, Nat.add_comm]
      · have absent : (entries.filter (inPart part)).count entry = 0 := by
          rw [List.count_eq_zero]
          exact fun found => member (List.mem_filter.1 found).2
        rw [absent, if_neg member, Nat.zero_add, Nat.add_zero]
  rw [List.perm_iff_count]
  intro entry
  rw [counted]
  by_cases member : entry ∈ entries
  · rw [once entry member, Nat.one_mul]
  · rw [List.count_eq_zero.2 member, Nat.mul_zero]

variable {labels members : List LabelRegion} {region : CellRect} {orientation : Orientation}

/-- A cell of a region is in exactly one of its pieces. -/
theorem CellRect.countP_containsCell (orientation : Orientation) (members : List LabelRegion)
    {row col : Nat} (inside : region.containsCell row col = true) :
    (region.pieces orientation members).countP
      (fun piece => (region.slice orientation piece).containsCell row col) = 1 := by
  have cuts := region.cutLines_cleanLines orientation members
  have place : region.contains (CellRect.single (row, col)) = true := by
    rw [containsCell_iff] at inside
    rw [contains_iff]
    simp only [single]
    omega
  have within := Span.holds_iff.1 (holds_along place orientation)
  have thin : ((single (row, col)).along orientation).first =
      ((single (row, col)).along orientation).last := by
    cases orientation <;> rfl
  have once := cuts.countP_holds (Nat.le_of_eq thin) within.1 within.2 (by
    intro line clean
    apply Bool.eq_false_iff.2
    intro held
    rw [Span.straddles_iff] at held
    omega)
  rw [← once]
  apply List.countP_congr
  intro piece member
  exact slice_containsCell_iff inside

/-- A label of a region is in exactly one of its pieces. -/
theorem Frames.countP_contains (frames : Frames labels region members) (laidOut : LaidOut labels)
    {label : LabelRegion} (member : label ∈ members) :
    (region.pieces orientation members).countP
      (fun piece => (region.slice orientation piece).contains label.bounds) = 1 := by
  have cuts := region.cutLines_cleanLines orientation members
  rcases frames.mem_iff.1 member with ⟨listed, contained⟩
  have within := Span.holds_iff.1 (CellRect.holds_along contained orientation)
  have proper := (laidOut.upright label listed).along orientation
  rw [← cuts.countP_holds proper within.1 within.2
    fun line clean => (CellRect.mem_cleanLines.1 clean).2 label member]
  apply List.countP_congr
  intro piece found
  exact CellRect.slice_contains_iff contained

/-- Together the pieces have the labels of the region. -/
theorem Frames.perm_membersIn (frames : Frames labels region members)
    (laidOut : LaidOut labels) (orientation : Orientation) :
    ((region.pieces orientation members).flatMap fun piece =>
      (region.slice orientation piece).membersIn members).Perm members :=
  perm_flatMap_filter _ _ _ fun _ member => frames.countP_contains laidOut member

/-! ## Nodes -/

variable {α : Type}

/-- The pieces of a region and the nodes made of them hold a cell equally often. -/
theorem countP_terminals_flatMap {row col : Nat} {pieces : List Span} {children : List (Node α)}
    (counted : List.Forall₂ (fun piece child =>
      child.terminals.countP (fun terminal => terminal.region.containsCell row col) =
        ((region.slice orientation piece).containsCell row col).toNat) pieces children) :
    (children.flatMap Node.terminals).countP
        (fun terminal => terminal.region.containsCell row col) =
      pieces.countP fun piece => (region.slice orientation piece).containsCell row col := by
  induction counted with
  | nil => rfl
  | @cons piece child pieces children here later ih =>
    rw [List.flatMap_cons, List.countP_append, ih, here, List.countP_cons, Nat.add_comm]
    cases (region.slice orientation piece).containsCell row col <;> rfl

/-- The pieces of a region and the nodes made of them have the same labels. -/
theorem perm_leaves_flatMap {pieces : List Span} {children : List (Node α)}
    (same : List.Forall₂ (fun piece child =>
      (child.leaves.map Leaf.shown).Perm ((region.slice orientation piece).membersIn members))
      pieces children) :
    ((children.flatMap Node.leaves).map Leaf.shown).Perm
      (pieces.flatMap fun piece => (region.slice orientation piece).membersIn members) := by
  induction same with
  | nil => exact .nil
  | cons here later ih =>
    rw [List.flatMap_cons, List.map_append, List.flatMap_cons]
    exact here.append ih

/-- What a node is to the region that it was made of. -/
structure Node.Fills (labels members : List LabelRegion) (region : CellRect) (node : Node α) :
    Prop where
  agrees : ∀ terminal ∈ node.terminals, terminal.Agrees labels
  cells : ∀ row col,
    node.terminals.countP (fun terminal => terminal.region.containsCell row col) =
      (region.containsCell row col).toNat
  leaves : (node.leaves.map Leaf.shown).Perm members

private theorem countP_singleton (region : CellRect) (node : Node α)
    (same : node.region = region) (row col : Nat) :
    [node].countP (fun terminal => terminal.region.containsCell row col) =
      (region.containsCell row col).toNat := by
  rw [List.countP_cons, List.countP_nil, same, Nat.zero_add]
  cases region.containsCell row col <;> rfl

/-- A region without labels is apart from all of them. -/
private theorem fills_blank (frames : Frames labels region []) :
    (Node.blank region : Node α).Fills labels [] region := by
  constructor
  · intro terminal found
    rw [Node.terminals_blank, List.mem_singleton] at found
    subst found
    intro label listed
    apply (frames.uncrossed label listed).resolve_left
    exact fun contained => List.not_mem_nil (frames.mem_iff.2 ⟨listed, contained⟩)
  · rw [Node.terminals_blank]
    exact countP_singleton region _ rfl
  · rw [Node.leaves_blank]
    exact .nil

/-- A label fills its own rectangle. -/
private theorem fills_leaf {member : LabelRegion} (id : String)
    (frames : Frames labels member.bounds [member]) :
    (Node.leaf ⟨id, member.label, member.bounds⟩ : Node α).Fills labels [member]
      member.bounds := by
  constructor
  · intro terminal found
    rw [Node.terminals_leaf, List.mem_singleton] at found
    subst found
    exact (frames.mem_iff.1 List.mem_cons_self).1
  · rw [Node.terminals_leaf]
    exact countP_singleton member.bounds _ rfl
  · rw [Node.leaves_leaf]
    exact .refl _

/-- Nodes that fill the pieces of a region fill the region. -/
private theorem fills_split {cut : Cut α} {children : List (Node α)} (laidOut : LaidOut labels)
    (frames : Frames labels region members) (orientation : Orientation)
    (fills : List.Forall₂ (fun piece child => Node.Fills labels
      ((region.slice orientation piece).membersIn members) (region.slice orientation piece) child)
      (region.pieces orientation members) children) :
    (Node.split cut children).Fills labels members region := by
  constructor
  · intro terminal found
    rw [Node.terminals_split, List.mem_flatMap] at found
    rcases found with ⟨child, listed, inside⟩
    rcases List.forall₂_iff_get.1 fills with ⟨same, each⟩
    rcases List.get_of_mem listed with ⟨place, rfl⟩
    have early : place.1 < (region.pieces orientation members).length := by
      rw [same]
      exact place.2
    exact (each place.1 early place.2).agrees terminal inside
  · intro row col
    rw [Node.terminals_split,
      countP_terminals_flatMap (fills.imp fun piece child fill => fill.cells row col)]
    cases inside : region.containsCell row col with
    | true => exact CellRect.countP_containsCell orientation members inside
    | false =>
      apply List.countP_eq_zero.2
      intro piece member held
      have within := CellRect.containsCell_of_contains (frames.contains_piece member) held
      rw [inside] at within
      cases within
  · rw [Node.leaves_split]
    exact (perm_leaves_flatMap (fills.imp fun piece child fill => fill.leaves)).trans
      (frames.perm_membersIn laidOut orientation)

/-- The node that is made of a framed region holds its cells and labels. -/
theorem fills_of_ok {spacingAt : Nat → Spacing α} {depth : Nat} {before after : Progress}
    {node : Node α} (laidOut : LaidOut labels)
    (done : partitionRegion spacingAt region members depth before = .ok node after)
    (frames : Frames labels region members) : node.Fills labels members region := by
  revert frames
  refine partitionRegion_induction (motive := fun region members _ _ node _ =>
    Frames labels region members → node.Fills labels members region) ?_ ?_ ?_ done
  · intro region depth before frames
    exact fills_blank frames
  · intro region members depth before label nonempty sole frames
    rcases CellRect.eq_singleton_of_soleLabel? sole with ⟨member, rfl, rfl, rfl⟩
    exact fills_leaf _ frames
  · intro region members depth before orientation children after cutInto swept frames
    apply fills_split laidOut frames orientation
    exact (swept.imp_of_mem fun piece member _ _ _ fills => fills (frames.piece member)).forall₂
      fun _ _ _ _ fills => fills

/-! ## Whole drawings -/

/-- What an end of the tree shows in its cells is what the drawing has there. -/
theorem ArtGrid.Solid.cell?_of_agrees {grid : ArtGrid} (solid : grid.Solid) {terminal : Node α}
    (agrees : terminal.Agrees grid.labels) {row col : Nat} (high : row < grid.rows)
    (wide : col < grid.cols) (inside : terminal.region.containsCell row col = true) :
    grid.cell? row col = terminal.cell? := by
  cases terminal with
  | leaf contents => exact (solid.fills contents.shown agrees row col).1 inside
  | split cut children => exact agrees.elim
  | blank region =>
    rcases solid.exists_cell high wide with ⟨cell, found⟩
    rw [found]
    cases cell with
    | blank => rfl
    | label name =>
      -- the label would be apart from the region, and yet have a cell of it
      rcases solid.covered row col name found with ⟨label, listed, rfl⟩
      have own := (solid.fills label listed row col).2 found
      have other := CellRect.not_containsCell_of_apart (agrees label listed) own
      rw [show region.containsCell row col = true from inside] at other
      cases other

/-- The tree of a drawing has the drawing's extent and labels.  Every cell lies in
one end of the tree, which shows what the drawing has there, and the leaves are the
labels, each over its rectangle. -/
theorem partition_reproduces {lines : List (List Char)} {blank : Char} {grid : ArtGrid}
    {settings : Settings} {tree : PartitionTree Float}
    (read : ArtGrid.ofLines lines blank = .ok grid) (made : grid.partition settings = .ok tree) :
    (tree.rows = grid.rows ∧ tree.cols = grid.cols ∧ tree.labels = grid.labels) ∧
      (∀ row < grid.rows, ∀ col < grid.cols, ∃ terminal cell,
        (tree.root.terminals.filter fun node => node.region.containsCell row col) = [terminal] ∧
          grid.cell? row col = some cell ∧ terminal.cell? = some cell) ∧
      (tree.leaves.map Leaf.shown).Perm grid.labels ∧
      (grid.labels.map LabelRegion.label).Nodup ∧
        tree.leaves.length = (labelsOf grid.cells).length := by
  have solid := ArtGrid.solid_of_ofLines read
  rcases ArtGrid.partition_ok made with ⟨rows, cols, labels, after, done⟩
  have fills := fills_of_ok solid.laidOut done solid.frames
  have leaves : (tree.leaves.map Leaf.shown).Perm grid.labels := fills.leaves
  refine ⟨⟨rows, cols, labels⟩, ?_, leaves, solid.different, ?_⟩
  · intro row high col wide
    have inside : grid.bounds.containsCell row col = true := by
      rw [CellRect.containsCell_iff]
      unfold ArtGrid.bounds CellRect.full
      simp only
      omega
    have once := fills.cells row col
    rw [inside, List.countP_eq_length_filter] at once
    rcases List.length_eq_one_iff.1 once with ⟨terminal, only⟩
    have member : terminal ∈ tree.root.terminals.filter
        fun node => node.region.containsCell row col := by
      rw [only]
      exact List.mem_cons_self
    rw [List.mem_filter] at member
    have shown := solid.cell?_of_agrees (fills.agrees terminal member.1) high wide member.2
    rcases solid.exists_cell high wide with ⟨cell, found⟩
    exact ⟨terminal, cell, only, found, shown.symm.trans found⟩
  · rw [← solid.met, List.length_map, ← leaves.length_eq, List.length_map]

/-- A drawing that is cut into columns, rows and columns again. -/
def mixed : ArtGrid where
  cells := [[.label 'A', .label 'A', .label 'C'], [.label 'B', .blank, .label 'C']]
  rows := 2
  cols := 3
  labels := [⟨'A', 0, 0, 0, 1⟩, ⟨'C', 0, 2, 1, 2⟩, ⟨'B', 1, 0, 1, 0⟩]

theorem ofLines_mixed :
    ArtGrid.ofLines [['A', 'A', 'C'], ['B', '.', 'C']] '.' = .ok mixed :=
  ArtGrid.ofRows_eq_ok_iff.2 (by decide +kernel)

/-- The root of its tree. -/
def mixedRoot {α : Type} (spacingAt : Nat → Spacing α) : Node α :=
  .split
    { id := "gs_ABC", orientation := .columns, region := ⟨0, 0, 1, 2⟩, depth := 0, ratios := [2, 1]
      spacing := spacingAt 0 }
    [.split
      { id := "gs_AB", orientation := .rows, region := ⟨0, 0, 1, 1⟩, depth := 1, ratios := [1, 1]
        spacing := spacingAt 1 }
      [.leaf ⟨"ax_A", 'A', ⟨0, 0, 0, 1⟩⟩,
        .split
          { id := "gs_B", orientation := .columns, region := ⟨1, 0, 1, 1⟩, depth := 2
            ratios := [1, 1], spacing := spacingAt 2 }
          [.leaf ⟨"ax_B", 'B', ⟨1, 0, 1, 0⟩⟩, .blank ⟨1, 1, 1, 1⟩]],
      .leaf ⟨"ax_C", 'C', ⟨0, 2, 1, 2⟩⟩]

/-- Its tree. -/
def mixedTree : PartitionTree Float where
  root := mixedRoot Settings.default.spacingAt
  rows := 2
  cols := 3
  labels := mixed.labels

theorem partitionRegion_mixed (spacingAt : Nat → Spacing Float) :
    partitionRegion spacingAt mixed.bounds mixed.labels 0 mixed.outset =
      .ok (mixedRoot spacingAt)
        ⟨⟨["ax_C", "ax_B", "gs_B", "ax_A", "gs_AB", "gs_ABC"]⟩, ⟨3, 3, 3, 1, 5, 3⟩⟩ := by
  cbv

theorem partition_mixed : mixed.partition Settings.default = .ok mixedTree := by
  rw [ArtGrid.partition_eq mixed (by decide +kernel), partitionRegion_mixed]
  rfl

theorem partition_reproduces_mixed :
    ArtGrid.ofLines [['A', 'A', 'C'], ['B', '.', 'C']] '.' = .ok mixed ∧
      mixed.partition Settings.default = .ok mixedTree ∧
      (mixedTree.rows = mixed.rows ∧ mixedTree.cols = mixed.cols ∧
        mixedTree.labels = mixed.labels) ∧
      (∀ row < mixed.rows, ∀ col < mixed.cols, ∃ terminal cell,
        (mixedTree.root.terminals.filter
          fun node => node.region.containsCell row col) = [terminal] ∧
            mixed.cell? row col = some cell ∧ terminal.cell? = some cell) ∧
      (mixedTree.leaves.map Leaf.shown).Perm mixed.labels ∧
      (mixed.labels.map LabelRegion.label).Nodup ∧
        mixedTree.leaves.length = (labelsOf mixed.cells).length := by
  exact ⟨ofLines_mixed, partition_mixed, partition_reproduces ofLines_mixed partition_mixed⟩

end Mosaic
