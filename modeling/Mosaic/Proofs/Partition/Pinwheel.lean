import Mosaic.Proofs.Partition.Frames

/-!
# Regions that cannot be cut

Every line inside a region that cannot be cut is straddled by a label, in both
directions.  So each label has a neighbour with which it shares a column, and one
with which it shares a row.  Labels do not overlap, so no neighbour is of both
kinds.  Following these neighbours from any label leads to three others: a region
that cannot be cut holds at least four labels, and a drawing with at most three
labels can always be partitioned.
-/

namespace Mosaic

/-- Runs that have a row or column in common. -/
def Span.Meets (span other : Span) : Prop :=
  span.first ≤ other.last ∧ other.first ≤ span.last

theorem Span.Meets.symm {span other : Span} (meets : span.Meets other) : other.Meets span :=
  ⟨meets.2, meets.1⟩

/-- Rectangles that meet in both directions overlap. -/
theorem CellRect.not_apart_of_meets {rect other : CellRect}
    (across : (rect.along .columns).Meets (other.along .columns))
    (down : (rect.along .rows).Meets (other.along .rows)) : ¬ rect.Apart other := by
  simp only [Span.Meets, along] at across down
  unfold Apart
  omega

namespace CellRect.Stuck

variable {labels members : List LabelRegion} {region : CellRect}

/-- Every line inside a stuck region is straddled. -/
theorem straddled (stuck : region.Stuck members) (orientation : Orientation) {line : Nat}
    (inside : (region.along orientation).first < line ∧
      line ≤ (region.along orientation).last) :
    ∃ member ∈ members, (member.bounds.along orientation).straddles line = true := by
  by_contra clear
  have clean : line ∈ region.cleanLines orientation members := by
    rw [mem_cleanLines]
    refine ⟨inside, fun member found => ?_⟩
    apply Bool.eq_false_iff.2
    exact fun held => clear ⟨member, found, held⟩
  exact direction?_ne_none clean stuck.2.2

/-- A stuck region has more labels than one. -/
theorem exists_other (stuck : region.Stuck members) (frames : Frames labels region members)
    (laidOut : LaidOut labels) {label : LabelRegion} (member : label ∈ members) :
    ∃ other ∈ members, other ≠ label := by
  by_contra alone
  have only : ∀ other ∈ members, other = label := by
    intro other found
    by_contra different
    exact alone ⟨other, found, different⟩
  rcases frames.mem_iff.1 member with ⟨listed, contained⟩
  -- no line is left for the label to stop at, so it fills the region
  have fills : ∀ orientation, region.along orientation = label.bounds.along orientation := by
    intro orientation
    have within := holds_along contained orientation
    have proper := (laidOut.upright label listed).along orientation
    rw [Span.holds_iff] at within
    have crossed : ∀ line, (region.along orientation).first < line →
        line ≤ (region.along orientation).last →
          (label.bounds.along orientation).first < line ∧
            line ≤ (label.bounds.along orientation).last := by
      intro line lower upper
      rcases stuck.straddled orientation ⟨lower, upper⟩ with ⟨other, found, held⟩
      rw [only other found, Span.straddles_iff] at held
      exact held
    have start := crossed (label.bounds.along orientation).first
    have stop := crossed ((label.bounds.along orientation).last + 1)
    cases whole : region.along orientation
    cases part : label.bounds.along orientation
    rw [whole, part] at within start stop
    rw [part] at proper
    rw [Span.mk.injEq]
    simp only at within start stop proper
    omega
  have same : label.bounds = region := by
    have columns := Span.mk.inj (fills .columns)
    have rows := Span.mk.inj (fills .rows)
    cases region
    cases whole : label.bounds
    rw [whole] at columns rows
    simp only [CellRect.mk.injEq] at columns rows ⊢
    omega
  subst same
  have sole := frames.soleLabel? laidOut listed
  rw [stuck.2.1] at sole
  cases sole

/-- In either direction a label meets another one. -/
theorem exists_meeting (stuck : region.Stuck members) (frames : Frames labels region members)
    (laidOut : LaidOut labels) (orientation : Orientation) {label : LabelRegion}
    (member : label ∈ members) :
    ∃ other ∈ members, other ≠ label ∧
      (label.bounds.along orientation).Meets (other.bounds.along orientation) := by
  have within : ∀ other ∈ members,
      ((region.along orientation).first ≤ (other.bounds.along orientation).first ∧
        (other.bounds.along orientation).last ≤ (region.along orientation).last) ∧
          (other.bounds.along orientation).first ≤ (other.bounds.along orientation).last := by
    intro other found
    rcases frames.mem_iff.1 found with ⟨listed, contained⟩
    exact ⟨Span.holds_iff.1 (holds_along contained orientation),
      (laidOut.upright other listed).along orientation⟩
  have own := within label member
  rcases stuck.exists_other frames laidOut member with ⟨other, found, different⟩
  have their := within other found
  by_cases meets : (label.bounds.along orientation).Meets (other.bounds.along orientation)
  · exact ⟨other, found, different, meets⟩
  · -- the label straddling the line on the side of the other one meets the label
    unfold Span.Meets at meets
    have beside : ∃ line, (region.along orientation).first < line ∧
        line ≤ (region.along orientation).last ∧
          (line = (label.bounds.along orientation).first ∨
            line = (label.bounds.along orientation).last + 1) := by
      rcases Nat.lt_or_ge (label.bounds.along orientation).last
        (other.bounds.along orientation).first with after | before
      · exact ⟨_, by omega, by omega, Or.inr rfl⟩
      · exact ⟨_, by omega, by omega, Or.inl rfl⟩
    rcases beside with ⟨line, lower, upper, edge⟩
    rcases stuck.straddled orientation ⟨lower, upper⟩ with ⟨third, held, straddles⟩
    rw [Span.straddles_iff] at straddles
    refine ⟨third, held, ?_, ?_⟩
    · rintro rfl
      omega
    · unfold Span.Meets
      omega

/-- A stuck region has four labels. -/
theorem four_le_length (stuck : region.Stuck members) (frames : Frames labels region members)
    (laidOut : LaidOut labels) : 4 ≤ members.length := by
  have overlap : ∀ {one other : LabelRegion}, one ∈ members → other ∈ members → other ≠ one →
      (one.bounds.along .columns).Meets (other.bounds.along .columns) →
        ¬ (one.bounds.along .rows).Meets (other.bounds.along .rows) := by
    intro one other member found different across down
    apply not_apart_of_meets across down
    exact laidOut.apart one (frames.mem_iff.1 member).1 other (frames.mem_iff.1 found).1
      different.symm
  have enough : ∀ {one two three four : LabelRegion}, one ∈ members → two ∈ members →
      three ∈ members → four ∈ members → [one, two, three, four].Nodup → 4 ≤ members.length := by
    intro one two three four first second third fourth distinct
    apply distinct.length_le_of_subset
    intro label listed
    simp only [List.mem_cons, List.not_mem_nil, or_false] at listed
    rcases listed with rfl | rfl | rfl | rfl <;> assumption
  rcases List.exists_mem_of_ne_nil members stuck.1 with ⟨one, first⟩
  rcases stuck.exists_meeting frames laidOut .columns first with ⟨two, second, other, across⟩
  rcases stuck.exists_meeting frames laidOut .rows first with ⟨three, third, other', down⟩
  have twoThree : two ≠ three := by
    rintro rfl
    exact overlap first second other across down
  rcases stuck.exists_meeting frames laidOut .rows second with ⟨four, fourth, other₄, down₄⟩
  have oneFour : four ≠ one := by
    rintro rfl
    exact overlap second fourth other₄ across.symm down₄
  by_cases same : four = three
  · -- then the third label meets a fifth one in columns
    subst same
    rcases stuck.exists_meeting frames laidOut .columns third with ⟨five, fifth, other₅, across₅⟩
    have oneFive : five ≠ one := by
      rintro rfl
      exact overlap third fifth other₅ across₅ down.symm
    have twoFive : five ≠ two := by
      rintro rfl
      exact overlap third fifth other₅ across₅ down₄.symm
    apply enough first second third fifth
    simp [other.symm, other'.symm, oneFive.symm, twoThree, twoFive.symm, other₅.symm]
  · apply enough first second third fourth
    simp [other.symm, other'.symm, oneFour.symm, twoThree, other₄.symm, Ne.symm same]

end CellRect.Stuck

/-! ## Whole drawings -/

/-- A refusal names at least four labels, so three or fewer are never refused. -/
theorem four_labels_of_inseparable {lines : List (List Char)} {blank : Char} {grid : ArtGrid}
    {settings : Settings} (read : ArtGrid.ofLines lines blank = .ok grid)
    (valid : settings.validate = .ok ()) :
    (∀ names region, grid.partition settings = .error (.inseparable names region) →
      4 ≤ names.toList.length ∧ names.toList.Nodup ∧
        ∀ name ∈ names.toList, ∃ label ∈ grid.labels, label.label = name) ∧
      (grid.labels.length ≤ 3 → ∃ tree, grid.partition settings = .ok tree) := by
  have solid := ArtGrid.solid_of_ofLines read
  constructor
  · intro names region failed
    rcases ArtGrid.partition_error valid failed with ⟨other, others, reached, stuck, same⟩
    have framed := solid.frames.reached reached
    have spelled : names.toList.Perm (others.map LabelRegion.label) := by
      rw [(Fault.inseparable.inj same).1, String.toList_ofList]
      exact List.mergeSort_perm _ _
    have distinct : (others.map LabelRegion.label).Nodup := by
      rw [framed.members_eq]
      exact solid.different.sublist (List.filter_sublist.map _)
    refine ⟨?_, spelled.nodup_iff.2 distinct, ?_⟩
    · rw [spelled.length_eq, List.length_map]
      exact stuck.four_le_length framed solid.laidOut
    · intro name listed
      rcases List.mem_map.1 (spelled.mem_iff.1 listed) with ⟨label, member, rfl⟩
      exact ⟨label, (framed.mem_iff.1 member).1, rfl⟩
  · intro few
    cases made : grid.partition settings with
    | ok tree => exact ⟨tree, rfl⟩
    | error fault =>
      rcases ArtGrid.partition_error valid made with ⟨other, others, reached, stuck, -⟩
      have framed := solid.frames.reached reached
      have enough := stuck.four_le_length framed solid.laidOut
      rw [framed.members_eq] at enough
      have fewer := List.length_filter_le (fun label => other.contains label.bounds) grid.labels
      unfold CellRect.membersIn at enough
      omega

/-- Four plots around an empty cell. -/
def pinwheel : ArtGrid where
  cells := [[.label 'A', .label 'A', .label 'B'], [.label 'D', .blank, .label 'B'],
    [.label 'D', .label 'C', .label 'C']]
  rows := 3
  cols := 3
  labels := [⟨'A', 0, 0, 0, 1⟩, ⟨'B', 0, 2, 1, 2⟩, ⟨'D', 1, 0, 2, 0⟩, ⟨'C', 2, 1, 2, 2⟩]

/-- No line of it is free, so it is refused with the names of all plots. -/
theorem partition_pinwheel :
    pinwheel.partition Settings.default = .error (.inseparable "ABCD" pinwheel.bounds) := by
  have stuck : pinwheel.bounds.Stuck pinwheel.labels := ⟨by decide, by decide, by decide⟩
  have order : NodeName.sorted (pinwheel.labels.map LabelRegion.label) = ['A', 'B', 'C', 'D'] := by
    simp [NodeName.sorted, pinwheel, List.mergeSort, List.MergeSort.Internal.splitInTwo]
  have names : String.ofList (NodeName.sorted (pinwheel.labels.map LabelRegion.label)) =
      "ABCD" := by
    rw [order]
  rcases @partitionRegion_stuck Float Settings.default.spacingAt _ _ 0 stuck pinwheel.outset with
    ⟨after, stopped⟩
  rw [ArtGrid.partition_eq pinwheel (by decide +kernel), stopped, names]

theorem four_labels_of_inseparable_pinwheel :
    ArtGrid.ofLines [['A', 'A', 'B'], ['D', '.', 'B'], ['D', 'C', 'C']] '.' = .ok pinwheel ∧
      Settings.default.validate = .ok () ∧
      pinwheel.partition Settings.default = .error (.inseparable "ABCD" pinwheel.bounds) ∧
      4 ≤ "ABCD".toList.length ∧ "ABCD".toList.Nodup ∧
        ∀ name ∈ "ABCD".toList, ∃ label ∈ pinwheel.labels, label.label = name := by
  have read : ArtGrid.ofLines [['A', 'A', 'B'], ['D', '.', 'B'], ['D', 'C', 'C']] '.' =
      .ok pinwheel := ArtGrid.ofRows_eq_ok_iff.2 (by decide +kernel)
  have valid : Settings.default.validate = .ok () := by decide +kernel
  exact ⟨read, valid, partition_pinwheel,
    (four_labels_of_inseparable read valid).1 "ABCD" pinwheel.bounds partition_pinwheel⟩

end Mosaic
