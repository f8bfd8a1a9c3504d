import Mathlib.Data.List.Forall2
import Mosaic.Partition.Cutting

/-!
# What cutting does with a region

A call on a region looks at the region alone to decide whether it makes a blank,
a leaf or a split, or gives up.  What the calls below a split do is put together
from left to right.  Every property of the outcome is shown by one of two
inductions: over the calls of a run that came to an end, or over the calls that
are reached when nothing is known about the outcome.
-/

namespace Mosaic

/-- Steps with a state over a list, from left to right. -/
inductive Swept {α β σ : Type} (step : α → σ → β → σ → Prop) : List α → σ → List β → σ → Prop
  | nil (state : σ) : Swept step [] state [] state
  | cons {entry : α} {entries : List α} {result : β} {results : List β} {before between after : σ}
      (here : step entry before result between) (later : Swept step entries between results after) :
      Swept step (entry :: entries) before (result :: results) after

namespace Swept

variable {α β σ ε : Type}

/-- A traversal that came to an end took every step. -/
theorem of_mapM {action : α → EStateM ε σ β} {entries : List α} {results : List β}
    {before after : σ} (done : entries.mapM action before = .ok results after) :
    Swept (fun entry before result after => action entry before = .ok result after)
      entries before results after := by
  induction entries generalizing before results with
  | nil =>
    cases done
    exact .nil _
  | cons entry entries ih =>
    rw [List.mapM_cons] at done
    change EStateM.bind _ _ _ = _ at done
    unfold EStateM.bind at done
    cases here : action entry before with
    | error fault between =>
      rw [here] at done
      cases done
    | ok result between =>
      rw [here] at done
      change EStateM.bind _ _ _ = _ at done
      unfold EStateM.bind at done
      cases later : entries.mapM action between with
      | error fault stopped =>
        rw [later] at done
        cases done
      | ok others stopped =>
        rw [later] at done
        cases done
        exact .cons here (ih later)

/-- A traversal that failed did so at one entry. -/
theorem exists_error_of_mapM {action : α → EStateM ε σ β} {entries : List α} {fault : ε}
    {before after : σ} (failed : entries.mapM action before = .error fault after) :
    ∃ entry ∈ entries, ∃ between, action entry between = .error fault after := by
  induction entries generalizing before with
  | nil => cases failed
  | cons entry entries ih =>
    rw [List.mapM_cons] at failed
    change EStateM.bind _ _ _ = _ at failed
    unfold EStateM.bind at failed
    cases here : action entry before with
    | error other between =>
      rw [here] at failed
      cases failed
      exact ⟨entry, List.mem_cons_self, before, here⟩
    | ok result between =>
      rw [here] at failed
      change EStateM.bind _ _ _ = _ at failed
      unfold EStateM.bind at failed
      cases later : entries.mapM action between with
      | error other stopped =>
        rw [later] at failed
        cases failed
        rcases ih later with ⟨culprit, member, found⟩
        exact ⟨culprit, List.mem_cons_of_mem _ member, found⟩
      | ok others stopped =>
        rw [later] at failed
        cases failed

theorem exists_of_mem {step : α → σ → β → σ → Prop} {entries : List α} {results : List β}
    {before after : σ} (swept : Swept step entries before results after) {entry : α}
    (member : entry ∈ entries) : ∃ before result after, step entry before result after := by
  induction swept with
  | nil state => cases member
  | cons here later ih =>
    rcases List.mem_cons.1 member with rfl | inside
    · exact ⟨_, _, _, here⟩
    · exact ih inside

theorem exists_of_mem_results {step : α → σ → β → σ → Prop} {entries : List α} {results : List β}
    {before after : σ} (swept : Swept step entries before results after) {result : β}
    (member : result ∈ results) :
    ∃ entry ∈ entries, ∃ before after, step entry before result after := by
  induction swept with
  | nil state => cases member
  | cons here later ih =>
    rcases List.mem_cons.1 member with rfl | inside
    · exact ⟨_, List.mem_cons_self, _, _, here⟩
    · rcases ih inside with ⟨entry, found, taken⟩
      exact ⟨entry, List.mem_cons_of_mem _ found, taken⟩

theorem imp_of_mem {step other : α → σ → β → σ → Prop} {entries : List α} {results : List β}
    {before after : σ} (swept : Swept step entries before results after)
    (stronger : ∀ entry ∈ entries, ∀ before result after,
      step entry before result after → other entry before result after) :
    Swept other entries before results after := by
  induction swept with
  | nil state => exact .nil state
  | cons here later ih =>
    exact .cons (stronger _ List.mem_cons_self _ _ _ here)
      (ih fun entry member => stronger entry (List.mem_cons_of_mem _ member))

theorem length_eq {step : α → σ → β → σ → Prop} {entries : List α} {results : List β}
    {before after : σ} (swept : Swept step entries before results after) :
    results.length = entries.length := by
  induction swept with
  | nil state => rfl
  | cons here later ih => rw [List.length_cons, List.length_cons, ih]

/-- Without the states, a sweep relates two lists entry by entry. -/
theorem forall₂ {step : α → σ → β → σ → Prop} {related : α → β → Prop} {entries : List α}
    {results : List β} {before after : σ} (swept : Swept step entries before results after)
    (relates : ∀ entry before result after, step entry before result after →
      related entry result) : List.Forall₂ related entries results := by
  induction swept with
  | nil state => exact .nil
  | cons here later ih => exact .cons (relates _ _ _ _ here) ih

end Swept

namespace CellRect

/-- Nothing can be done with such a region. -/
def Stuck (region : CellRect) (members : List LabelRegion) : Prop :=
  members ≠ [] ∧ region.soleLabel? members = none ∧ region.direction? members = none

/-- Is the region cut in this direction? -/
def CutInto (region : CellRect) (members : List LabelRegion) (orientation : Orientation) : Prop :=
  members ≠ [] ∧ region.soleLabel? members = none ∧
    region.direction? members = some orientation

variable {region : CellRect} {members : List LabelRegion}

theorem eq_singleton_of_soleLabel? {label : Char} (sole : region.soleLabel? members = some label) :
    ∃ member, members = [member] ∧ member.label = label ∧ member.bounds = region := by
  unfold soleLabel? at sole
  split at sole
  · next only =>
    split at sole
    · next same =>
      cases sole
      exact ⟨only, rfl, rfl, same⟩
    · cases sole
  · cases sole

theorem direction?_ne_none {orientation : Orientation} {line : Nat}
    (clean : line ∈ region.cleanLines orientation members) : region.direction? members ≠ none := by
  have several : 2 ≤ (region.pieces orientation members).length := by
    unfold pieces
    rw [length_runsBetween]
    exact Nat.succ_le_succ (List.length_pos_of_mem clean)
  unfold direction?
  cases orientation with
  | columns =>
    rw [if_pos several]
    exact Option.some_ne_none _
  | rows =>
    rw [if_pos several]
    split <;> exact Option.some_ne_none _

theorem CutInto.exists_clean {orientation : Orientation}
    (cutInto : region.CutInto members orientation) :
    ∃ line, line ∈ region.cleanLines orientation members := by
  have several := direction?_several cutInto.2.2
  rw [pieces, length_runsBetween] at several
  exact List.exists_mem_of_length_pos (Nat.le_of_succ_le_succ several)

/-- Rows are cut only where no column line is clean. -/
theorem CutInto.not_mem_cleanLines_columns (cutInto : region.CutInto members .rows) (line : Nat) :
    line ∉ region.cleanLines .columns members := by
  intro clean
  have several : 2 ≤ (region.pieces .columns members).length := by
    rw [pieces, length_runsBetween]
    exact Nat.succ_le_succ (List.length_pos_of_mem clean)
  have chosen := cutInto.2.2
  rw [direction?, if_pos several] at chosen
  cases chosen

end CellRect

variable {α : Type} {spacingAt : Nat → Spacing α} {region : CellRect}
  {members : List LabelRegion} {depth : Nat} {before after : Progress}

/-! ## One call -/

theorem partitionRegion_blank (spacingAt : Nat → Spacing α) (region : CellRect) (depth : Nat)
    (before : Progress) :
    partitionRegion spacingAt region [] depth before =
      .ok (.blank region) { before with tally := before.tally.recordBlank } := by
  unfold partitionRegion
  rfl

private theorem not_isEmpty (nonempty : members ≠ []) : ¬ members.isEmpty = true :=
  fun empty => nonempty (List.isEmpty_iff.1 empty)

theorem partitionRegion_leaf (nonempty : members ≠ []) {label : Char}
    (sole : region.soleLabel? members = some label) (before : Progress) :
    partitionRegion spacingAt region members depth before =
      .ok (.leaf ⟨(before.names.leaf label).1, label, region⟩)
        ⟨(before.names.leaf label).2, before.tally.recordLeaf depth⟩ := by
  unfold partitionRegion
  rw [if_neg (not_isEmpty nonempty), sole]
  rfl

/-- What is known before the pieces of a region are cut up. -/
def Progress.enterSplit (progress : Progress) (region : CellRect) (members : List LabelRegion)
    (orientation : Orientation) (depth : Nat) : Progress where
  names := (progress.names.split (members.map LabelRegion.label)).2
  tally :=
    (progress.tally.recordCuts (region.linesExamined (some orientation))).recordSplit depth

/-- The call on one piece of a region. -/
def partitionPiece (spacingAt : Nat → Spacing α) (region : CellRect)
    (members : List LabelRegion) (orientation : Orientation) (depth : Nat) (piece : Span) :
    EStateM Fault Progress (Node α) :=
  partitionRegion spacingAt (region.slice orientation piece)
    ((region.slice orientation piece).membersIn members) depth

theorem partitionRegion_stuck (stuck : region.Stuck members) (before : Progress) :
    ∃ after, partitionRegion spacingAt region members depth before =
      .error (.inseparable
        (String.ofList (NodeName.sorted (members.map LabelRegion.label))) region) after := by
  rcases stuck with ⟨nonempty, several, whole⟩
  rw [partitionRegion.eq_def, if_neg (not_isEmpty nonempty), several]
  dsimp only
  rw [whole]
  exact ⟨_, rfl⟩

theorem partitionRegion_split {orientation : Orientation}
    (cutInto : region.CutInto members orientation) (before : Progress) :
    partitionRegion spacingAt region members depth before =
      match (region.pieces orientation members).mapM
          (partitionPiece spacingAt region members orientation (depth + 1))
          (before.enterSplit region members orientation depth) with
      | .ok children after =>
        .ok (.split
          { id := (before.names.split (members.map LabelRegion.label)).1, orientation, region, depth
            ratios := (region.pieces orientation members).map Span.size
            spacing := spacingAt depth } children) after
      | .error fault after => .error fault after := by
  rcases cutInto with ⟨nonempty, several, chosen⟩
  have calls : (region.pieces orientation members).attach.mapM (fun piece =>
      partitionRegion spacingAt (region.slice orientation piece.val)
        ((region.slice orientation piece.val).membersIn members) (depth + 1)) =
          (region.pieces orientation members).mapM
            (partitionPiece spacingAt region members orientation (depth + 1)) := by
    have each : ∀ piece (member : piece ∈ region.pieces orientation members),
        partitionRegion spacingAt (region.slice orientation piece)
            ((region.slice orientation piece).membersIn members) (depth + 1) =
          partitionPiece spacingAt region members orientation (depth + 1) piece :=
      fun _ _ => rfl
    rw [List.mapM_subtype each, List.unattach_attach]
  rw [partitionRegion.eq_def, if_neg (not_isEmpty nonempty), several]
  dsimp only
  rw [chosen]
  dsimp only
  rw [calls]
  change EStateM.bind _ _ (before.enterSplit region members orientation depth) = _
  unfold EStateM.bind
  cases (region.pieces orientation members).mapM
    (partitionPiece spacingAt region members orientation (depth + 1))
    (before.enterSplit region members orientation depth) <;> rfl

/-- A region is blank, a leaf, stuck, or cut in one direction. -/
theorem CellRect.cases (region : CellRect) (members : List LabelRegion) :
    members = [] ∨ (members ≠ [] ∧ ∃ label, region.soleLabel? members = some label) ∨
      region.Stuck members ∨ ∃ orientation, region.CutInto members orientation := by
  by_cases nonempty : members = []
  · exact Or.inl nonempty
  · cases sole : region.soleLabel? members with
    | some label => exact Or.inr (Or.inl ⟨nonempty, label, rfl⟩)
    | none =>
      cases chosen : region.direction? members with
      | none => exact Or.inr (Or.inr (Or.inl ⟨nonempty, sole, chosen⟩))
      | some orientation => exact Or.inr (Or.inr (Or.inr ⟨orientation, nonempty, sole, chosen⟩))

/-- What a call that came to an end made of its region, and the calls that it made
itself. -/
inductive Outcome (spacingAt : Nat → Spacing α) (region : CellRect) (depth : Nat)
    (before : Progress) : List LabelRegion → Node α → Progress → Prop
  | blank : Outcome spacingAt region depth before [] (.blank region)
      { before with tally := before.tally.recordBlank }
  | leaf {members : List LabelRegion} {label : Char} (nonempty : members ≠ [])
      (sole : region.soleLabel? members = some label) :
      Outcome spacingAt region depth before members
        (.leaf ⟨(before.names.leaf label).1, label, region⟩)
        ⟨(before.names.leaf label).2, before.tally.recordLeaf depth⟩
  | split {members : List LabelRegion} {orientation : Orientation} {children : List (Node α)}
      {after : Progress} (cutInto : region.CutInto members orientation)
      (called : Swept (fun piece before child after =>
          partitionPiece spacingAt region members orientation (depth + 1) piece before =
            .ok child after)
        (region.pieces orientation members) (before.enterSplit region members orientation depth)
        children after) :
      Outcome spacingAt region depth before members
        (.split
          { id := (before.names.split (members.map LabelRegion.label)).1, orientation, region
            depth, ratios := (region.pieces orientation members).map Span.size
            spacing := spacingAt depth } children) after

theorem outcome_of_ok {node : Node α}
    (done : partitionRegion spacingAt region members depth before = .ok node after) :
    Outcome spacingAt region depth before members node after := by
  rcases region.cases members with rfl | ⟨nonempty, label, sole⟩ | stuck | ⟨orientation, cutInto⟩
  · rw [partitionRegion_blank] at done
    cases done
    exact .blank
  · rw [partitionRegion_leaf nonempty sole] at done
    cases done
    exact .leaf nonempty sole
  · rcases partitionRegion_stuck stuck before with ⟨stopped, failed⟩
    rw [failed] at done
    cases done
  · rw [partitionRegion_split cutInto] at done
    cases called : (region.pieces orientation members).mapM
        (partitionPiece spacingAt region members orientation (depth + 1))
        (before.enterSplit region members orientation depth) with
    | error fault stopped =>
      rw [called] at done
      cases done
    | ok children ended =>
      rw [called] at done
      cases done
      exact .split cutInto (Swept.of_mapM called)

/-- A node covers the region that it was made of. -/
theorem region_of_ok {node : Node α}
    (done : partitionRegion spacingAt region members depth before = .ok node after) :
    node.region = region := by
  cases outcome_of_ok done <;> rfl

/-! ## Whole runs -/

/-- Induction over the calls of a run that came to an end. -/
theorem partitionRegion_induction
    {motive : CellRect → List LabelRegion → Nat → Progress → Node α → Progress → Prop}
    (blank : ∀ region depth before, motive region [] depth before (.blank region)
      { before with tally := before.tally.recordBlank })
    (leaf : ∀ region members depth before label, members ≠ [] →
      region.soleLabel? members = some label →
        motive region members depth before (.leaf ⟨(before.names.leaf label).1, label, region⟩)
          ⟨(before.names.leaf label).2, before.tally.recordLeaf depth⟩)
    (split : ∀ region members depth before orientation children after,
      region.CutInto members orientation →
        Swept (fun piece before child after => motive (region.slice orientation piece)
            ((region.slice orientation piece).membersIn members) (depth + 1) before child after)
          (region.pieces orientation members) (before.enterSplit region members orientation depth)
          children after →
        motive region members depth before
          (.split
            { id := (before.names.split (members.map LabelRegion.label)).1, orientation, region
              depth, ratios := (region.pieces orientation members).map Span.size
              spacing := spacingAt depth } children) after)
    {node : Node α} (done : partitionRegion spacingAt region members depth before = .ok node after) :
    motive region members depth before node after := by
  induction count : region.innerLineCount using Nat.strongRecOn
    generalizing region members depth before node after with
  | ind count ih =>
    cases outcome_of_ok done with
    | blank => exact blank region depth before
    | leaf nonempty sole => exact leaf region members depth before _ nonempty sole
    | split cutInto called =>
      apply split region members depth before _ _ after cutInto
      apply called.imp_of_mem
      intro piece member before child after finished
      have fewer := CellRect.innerLineCount_piece cutInto.2.2 member
      exact ih _ (count ▸ fewer) finished rfl

/-- The calls that a call leads to. -/
inductive Reached : CellRect → List LabelRegion → CellRect → List LabelRegion → Prop
  | here (region : CellRect) (members : List LabelRegion) : Reached region members region members
  | piece {region other : CellRect} {members others : List LabelRegion}
      {orientation : Orientation} {piece : Span} (cutInto : region.CutInto members orientation)
      (member : piece ∈ region.pieces orientation members)
      (deeper : Reached (region.slice orientation piece)
        ((region.slice orientation piece).membersIn members) other others) :
      Reached region members other others

/-- A run fails at a call that is stuck, and names the labels there. -/
theorem stuck_of_error {fault : Fault}
    (failed : partitionRegion spacingAt region members depth before = .error fault after) :
    ∃ other others, Reached region members other others ∧ other.Stuck others ∧
      fault = .inseparable
        (String.ofList (NodeName.sorted (others.map LabelRegion.label))) other := by
  induction count : region.innerLineCount using Nat.strongRecOn
    generalizing region members depth before after with
  | ind count ih =>
    rcases region.cases members with rfl | ⟨nonempty, label, sole⟩ | stuck | ⟨orientation, cutInto⟩
    · rw [partitionRegion_blank] at failed
      cases failed
    · rw [partitionRegion_leaf nonempty sole] at failed
      cases failed
    · rcases partitionRegion_stuck stuck before with ⟨stopped, same⟩
      rw [same] at failed
      cases failed
      exact ⟨region, members, .here region members, stuck, rfl⟩
    · rw [partitionRegion_split cutInto] at failed
      cases called : (region.pieces orientation members).mapM
          (partitionPiece spacingAt region members orientation (depth + 1))
          (before.enterSplit region members orientation depth) with
      | ok children ended =>
        rw [called] at failed
        cases failed
      | error other stopped =>
        rw [called] at failed
        cases failed
        rcases Swept.exists_error_of_mapM called with ⟨piece, member, between, culprit⟩
        have fewer := CellRect.innerLineCount_piece cutInto.2.2 member
        rcases ih _ (count ▸ fewer) culprit rfl with ⟨other, others, reached, stuck, same⟩
        exact ⟨other, others, .piece cutInto member reached, stuck, same⟩

/-! ## Whole drawings -/

namespace ArtGrid

variable {grid : ArtGrid} {settings : Settings}

/-- What is known before a drawing is cut up. -/
def outset (grid : ArtGrid) : Progress :=
  ⟨NamePool.empty, Tally.zero.recordLabels grid.labels.length⟩

/-- With settings that can be used, a drawing is partitioned as its rectangle is, on top of
any tally. -/
theorem partitionCounted_eq (grid : ArtGrid) (valid : settings.validate = .ok ())
    (before : Tally) :
    grid.partitionCounted settings before =
      match partitionRegion settings.spacingAt grid.bounds grid.labels 0
          ⟨NamePool.empty, before.recordLabels grid.labels.length⟩ with
      | .ok root after =>
        (.ok { root, rows := grid.rows, cols := grid.cols, labels := grid.labels }, after.tally)
      | .error fault after => (.error fault, after.tally) := by
  have run : (grid.partitionWith settings.spacingAt).run ⟨NamePool.empty, before⟩ =
      match partitionRegion settings.spacingAt grid.bounds grid.labels 0
          ⟨NamePool.empty, before.recordLabels grid.labels.length⟩ with
      | .ok root after =>
        .ok { root, rows := grid.rows, cols := grid.cols, labels := grid.labels } after
      | .error fault after => .error fault after := by
    change EStateM.bind _ _ (Progress.mk NamePool.empty (before.recordLabels grid.labels.length)) = _
    unfold EStateM.bind
    cases partitionRegion settings.spacingAt grid.bounds grid.labels 0
      ⟨NamePool.empty, before.recordLabels grid.labels.length⟩ <;> rfl
  unfold partitionCounted
  rw [valid, run]
  cases partitionRegion settings.spacingAt grid.bounds grid.labels 0
    ⟨NamePool.empty, before.recordLabels grid.labels.length⟩ <;> rfl

theorem partition_eq (grid : ArtGrid) (valid : settings.validate = .ok ()) :
    grid.partition settings =
      match partitionRegion settings.spacingAt grid.bounds grid.labels 0 grid.outset with
      | .ok root _ => .ok { root, rows := grid.rows, cols := grid.cols, labels := grid.labels }
      | .error fault _ => .error fault := by
  unfold partition outset
  rw [partitionCounted_eq grid valid]
  cases partitionRegion settings.spacingAt grid.bounds grid.labels 0
    ⟨NamePool.empty, Tally.zero.recordLabels grid.labels.length⟩ <;> rfl

/-- Settings that cannot be used leave no tree. -/
theorem valid_of_partitionCounted_ok {before after : Tally} {tree : PartitionTree Float}
    (made : grid.partitionCounted settings before = (.ok tree, after)) :
    settings.validate = .ok () := by
  cases checked : settings.validate with
  | ok done => rfl
  | error cause =>
    unfold partitionCounted at made
    rw [checked] at made
    cases made

theorem valid_of_partition_ok {tree : PartitionTree Float}
    (made : grid.partition settings = .ok tree) : settings.validate = .ok () :=
  valid_of_partitionCounted_ok (Prod.ext made rfl)

/-- The tree of a drawing keeps its extent and labels, and its root is made of the
whole rectangle. -/
theorem partition_ok {tree : PartitionTree Float} (made : grid.partition settings = .ok tree) :
    tree.rows = grid.rows ∧ tree.cols = grid.cols ∧ tree.labels = grid.labels ∧
      ∃ after, partitionRegion settings.spacingAt grid.bounds grid.labels 0 grid.outset =
        .ok tree.root after := by
  rw [partition_eq grid (valid_of_partition_ok made)] at made
  cases done : partitionRegion settings.spacingAt grid.bounds grid.labels 0 grid.outset with
  | error fault after =>
    rw [done] at made
    cases made
  | ok root after =>
    rw [done] at made
    cases made
    exact ⟨rfl, rfl, rfl, after, rfl⟩

/-- When a drawing has no partition, a call that is reached is stuck. -/
theorem partition_error (valid : settings.validate = .ok ()) {fault : Fault}
    (failed : grid.partition settings = .error fault) :
    ∃ region members, Reached grid.bounds grid.labels region members ∧ region.Stuck members ∧
      fault = .inseparable
        (String.ofList (NodeName.sorted (members.map LabelRegion.label))) region := by
  rw [partition_eq grid valid] at failed
  cases done : partitionRegion settings.spacingAt grid.bounds grid.labels 0 grid.outset with
  | ok root after =>
    rw [done] at failed
    cases failed
  | error cause after =>
    rw [done] at failed
    cases failed
    exact stuck_of_error done

end ArtGrid
end Mosaic
