import Mosaic.Proofs.Partition.Runs

/-!
# Grid lines that are moved

A drawing is redrawn by moving the grid lines of each direction.  Neighbouring lines
keep one distance, and either all lines keep their order or all turn round.  Runs lie
between lines, so what a run holds and where it is straddled does not change.  A new
line inside a moved run is a moved line, or it lies inside one moved row or column.
Cutting at the moved lines therefore gives the moved runs, listed in the new order.
-/

namespace Mosaic

/-- Does the run have this row or column? -/
def Span.Has (span : Span) (place : Nat) : Prop :=
  span.first ≤ place ∧ place ≤ span.last

/-- A run of at least one row or column inside another one. -/
structure Span.PartOf (span whole : Span) : Prop where
  lower : whole.first ≤ span.first
  proper : span.first ≤ span.last
  upper : span.last ≤ whole.last

/-- The run of one row or column. -/
def Span.single (place : Nat) : Span :=
  ⟨place, place⟩

/-- Where the grid lines of one direction go. -/
structure LineMap where
  line : Nat → Nat
  /-- How far apart neighbouring lines are afterwards. -/
  scale : Nat
  /-- Do the lines change their order? -/
  turns : Bool

namespace LineMap

/-- What becomes of a run, which lies between two lines. -/
def span (map : LineMap) (run : Span) : Span :=
  if map.turns then ⟨map.line (run.last + 1), map.line run.first - 1⟩
  else ⟨map.line run.first, map.line (run.last + 1) - 1⟩

/-- What was listed from line to line, in the new order. -/
def arrange {α : Type} (map : LineMap) (entries : List α) : List α :=
  if map.turns then entries.reverse else entries

/-- Neighbouring lines of a run, its ends included, keep one distance. -/
structure Regular (map : LineMap) (range : Span) : Prop where
  spread : 0 < map.scale
  forth : map.turns = false → ∀ place, range.Has place →
    map.line (place + 1) = map.line place + map.scale
  back : map.turns = true → ∀ place, range.Has place →
    map.line place = map.line (place + 1) + map.scale

/-! ## Kinds of maps -/

def stay : LineMap :=
  ⟨fun line => line, 1, false⟩

/-- The lines of so many rows or columns are mirrored. -/
def mirror (extent : Nat) : LineMap :=
  ⟨fun line => extent - line, 1, true⟩

def enlarge (factor : Nat) : LineMap :=
  ⟨fun line => line * factor, factor, false⟩

theorem regular_stay (range : Span) : stay.Regular range := by
  constructor
  · exact Nat.one_pos
  · exact fun _ _ _ => rfl
  · exact fun turned => nomatch turned

theorem regular_mirror {range : Span} {extent : Nat} (inside : range.last < extent) :
    (mirror extent).Regular range := by
  constructor
  · exact Nat.one_pos
  · exact fun straight => nomatch straight
  · intro _ place within
    have upper := within.2
    change extent - place = extent - (place + 1) + 1
    omega

theorem regular_enlarge {factor : Nat} (positive : 0 < factor) (range : Span) :
    (enlarge factor).Regular range := by
  constructor
  · exact positive
  · intro _ place _
    exact Nat.succ_mul place factor
  · exact fun turned => nomatch turned

theorem has_stay_single {old place : Nat} :
    (stay.span (.single old)).Has place ↔ place = old := by
  change old ≤ place ∧ place ≤ old + 1 - 1 ↔ _
  omega

theorem has_mirror_single {extent old place : Nat} (inside : old < extent) :
    ((mirror extent).span (.single old)).Has place ↔ place = extent - 1 - old := by
  change extent - (old + 1) ≤ place ∧ place ≤ extent - old - 1 ↔ _
  omega

theorem has_enlarge_single {factor old place : Nat} (positive : 0 < factor) :
    ((enlarge factor).span (.single old)).Has place ↔ place / factor = old := by
  change old * factor ≤ place ∧ place ≤ (old + 1) * factor - 1 ↔ _
  rw [Nat.div_eq_iff positive, Nat.succ_mul]

/-! ## Lists -/

section Arrange

variable {α β : Type} (map : LineMap)

theorem mem_arrange {entry : α} {entries : List α} :
    entry ∈ map.arrange entries ↔ entry ∈ entries := by
  unfold arrange
  split
  · exact List.mem_reverse
  · exact Iff.rfl

theorem length_arrange (entries : List α) : (map.arrange entries).length = entries.length := by
  unfold arrange
  split
  · exact List.length_reverse
  · rfl

theorem map_arrange (change : α → β) (entries : List α) :
    (map.arrange entries).map change = map.arrange (entries.map change) := by
  unfold arrange
  split
  · exact List.map_reverse
  · rfl

end Arrange

/-! ## Order of lines and runs -/

variable {map : LineMap} {range run other : Span}

namespace Regular

theorem line_eq_add (regular : map.Regular range) (straight : map.turns = false)
    {first : Nat} (last : Nat) (lower : range.first ≤ first) (ordered : first ≤ last)
    (upper : last ≤ range.last + 1) :
    map.line last = map.line first + (last - first) * map.scale := by
  induction last, ordered using Nat.le_induction with
  | base => rw [Nat.sub_self, Nat.zero_mul, Nat.add_zero]
  | succ last ordered ih =>
    rw [regular.forth straight last ⟨by omega, by omega⟩, ih (by omega), Nat.succ_sub ordered,
      Nat.succ_mul, Nat.add_assoc]

theorem line_eq_sub (regular : map.Regular range) (turned : map.turns = true)
    {first : Nat} (last : Nat) (lower : range.first ≤ first) (ordered : first ≤ last)
    (upper : last ≤ range.last + 1) :
    map.line first = map.line last + (last - first) * map.scale := by
  induction last, ordered using Nat.le_induction with
  | base => rw [Nat.sub_self, Nat.zero_mul, Nat.add_zero]
  | succ last ordered ih =>
    have next := regular.back turned last ⟨by omega, by omega⟩
    rw [ih (by omega), Nat.succ_sub ordered, Nat.succ_mul]
    omega

theorem line_lt_iff (regular : map.Regular range) (straight : map.turns = false) (one other : Nat)
    (within : range.first ≤ one ∧ one ≤ range.last + 1)
    (otherWithin : range.first ≤ other ∧ other ≤ range.last + 1) :
    map.line one < map.line other ↔ one < other := by
  rcases Nat.lt_or_ge one other with before | behind
  · have later := regular.line_eq_add straight other within.1 (Nat.le_of_lt before) otherWithin.2
    have gap := Nat.mul_pos (Nat.sub_pos_of_lt before) regular.spread
    omega
  · have later := regular.line_eq_add straight one otherWithin.1 behind within.2
    omega

theorem line_gt_iff (regular : map.Regular range) (turned : map.turns = true) (one other : Nat)
    (within : range.first ≤ one ∧ one ≤ range.last + 1)
    (otherWithin : range.first ≤ other ∧ other ≤ range.last + 1) :
    map.line other < map.line one ↔ one < other := by
  rcases Nat.lt_or_ge one other with before | behind
  · have later := regular.line_eq_sub turned other within.1 (Nat.le_of_lt before) otherWithin.2
    have gap := Nat.mul_pos (Nat.sub_pos_of_lt before) regular.spread
    omega
  · have later := regular.line_eq_sub turned one otherWithin.1 behind within.2
    omega

private theorem ends_lt (regular : map.Regular range) (straight : map.turns = false)
    (part : run.PartOf range) : map.line run.first < map.line (run.last + 1) := by
  rcases part with ⟨lower, ordered, upper⟩
  exact (regular.line_lt_iff straight _ _ (by omega) (by omega)).2 (by omega)

private theorem ends_gt (regular : map.Regular range) (turned : map.turns = true)
    (part : run.PartOf range) : map.line (run.last + 1) < map.line run.first := by
  rcases part with ⟨lower, ordered, upper⟩
  exact (regular.line_gt_iff turned _ _ (by omega) (by omega)).2 (by omega)

/-- A moved run has rows or columns again. -/
theorem proper (regular : map.Regular range) (part : run.PartOf range) :
    (map.span run).first ≤ (map.span run).last := by
  unfold span
  split
  · next turned => exact Nat.le_sub_one_of_lt (regular.ends_gt turned part)
  · next straight =>
    exact Nat.le_sub_one_of_lt (regular.ends_lt (Bool.eq_false_iff.2 straight) part)

/-- A run holds another one exactly if it does so afterwards. -/
theorem holds_span_iff (regular : map.Regular range) (part : run.PartOf range)
    (otherPart : other.PartOf range) :
    (map.span run).holds (map.span other) = true ↔ run.holds other = true := by
  have bounds := part
  have otherBounds := otherPart
  rcases bounds with ⟨lower, ordered, upper⟩
  rcases otherBounds with ⟨otherLower, otherOrdered, otherUpper⟩
  rw [Span.holds_iff, Span.holds_iff]
  unfold span
  cases turning : map.turns with
  | true =>
    have ends := regular.ends_gt turning part
    have otherEnds := regular.ends_gt turning otherPart
    have firsts := regular.line_gt_iff turning other.first run.first (by omega) (by omega)
    have lasts := regular.line_gt_iff turning (run.last + 1) (other.last + 1) (by omega) (by omega)
    simp only [if_true]
    omega
  | false =>
    have ends := regular.ends_lt turning part
    have otherEnds := regular.ends_lt turning otherPart
    have firsts := regular.line_lt_iff turning other.first run.first (by omega) (by omega)
    have lasts := regular.line_lt_iff turning (run.last + 1) (other.last + 1) (by omega) (by omega)
    simp only [Bool.false_eq_true, if_false]
    omega

/-- Runs are apart exactly if they are so afterwards. -/
theorem apart_span_iff (regular : map.Regular range) (part : run.PartOf range)
    (otherPart : other.PartOf range) :
    (map.span other).last < (map.span run).first ∨ (map.span run).last < (map.span other).first ↔
      other.last < run.first ∨ run.last < other.first := by
  have bounds := part
  have otherBounds := otherPart
  rcases bounds with ⟨lower, ordered, upper⟩
  rcases otherBounds with ⟨otherLower, otherOrdered, otherUpper⟩
  unfold span
  cases turning : map.turns with
  | true =>
    have ends := regular.ends_gt turning part
    have otherEnds := regular.ends_gt turning otherPart
    have before := regular.line_gt_iff turning run.first (other.last + 1) (by omega) (by omega)
    have behind := regular.line_gt_iff turning other.first (run.last + 1) (by omega) (by omega)
    simp only [if_true]
    omega
  | false =>
    have ends := regular.ends_lt turning part
    have otherEnds := regular.ends_lt turning otherPart
    have before := regular.line_lt_iff turning run.first (other.last + 1) (by omega) (by omega)
    have behind := regular.line_lt_iff turning other.first (run.last + 1) (by omega) (by omega)
    simp only [Bool.false_eq_true, if_false]
    omega

/-- A run is straddled by the lines that straddled it. -/
theorem straddles_line_iff (regular : map.Regular range) (part : run.PartOf range) {line : Nat}
    (within : range.first ≤ line ∧ line ≤ range.last + 1) :
    (map.span run).straddles (map.line line) = true ↔ run.straddles line = true := by
  have bounds := part
  rcases bounds with ⟨lower, ordered, upper⟩
  rw [Span.straddles_iff, Span.straddles_iff]
  unfold span
  cases turning : map.turns with
  | true =>
    have ends := regular.ends_gt turning part
    have front := regular.line_gt_iff turning run.first line (by omega) within
    have back := regular.line_gt_iff turning line (run.last + 1) within (by omega)
    simp only [if_true]
    omega
  | false =>
    have ends := regular.ends_lt turning part
    have front := regular.line_lt_iff turning run.first line (by omega) within
    have back := regular.line_lt_iff turning line (run.last + 1) within (by omega)
    simp only [Bool.false_eq_true, if_false]
    omega

theorem size_span (regular : map.Regular range) (part : run.PartOf range) :
    (map.span run).size = run.size * map.scale := by
  have bounds := part
  rcases bounds with ⟨lower, ordered, upper⟩
  have count : run.last + 1 - run.first = run.size := by
    unfold Span.size
    omega
  unfold span
  cases turning : map.turns with
  | true =>
    have apart := regular.ends_gt turning part
    have ends := regular.line_eq_sub turning (run.last + 1) lower (by omega) (by omega)
    rw [count] at ends
    simp only [if_true]
    change map.line run.first - 1 - map.line (run.last + 1) + 1 = _
    omega
  | false =>
    have apart := regular.ends_lt turning part
    have ends := regular.line_eq_add turning (run.last + 1) lower (by omega) (by omega)
    rw [count] at ends
    simp only [Bool.false_eq_true, if_false]
    change map.line (run.last + 1) - 1 - map.line run.first + 1 = _
    omega

/-! ## Between the moved lines -/

/-- Where something holds at the start of a run and not behind it, it ends at some place. -/
private theorem exists_last_place (Holds : Nat → Prop) {first last : Nat} (ordered : first ≤ last)
    (start : Holds first) (stop : ¬ Holds (last + 1)) :
    ∃ place, first ≤ place ∧ place ≤ last ∧ Holds place ∧ ¬ Holds (place + 1) := by
  induction last, ordered using Nat.le_induction with
  | base => exact ⟨first, Nat.le_refl _, Nat.le_refl _, start, stop⟩
  | succ last ordered ih =>
    by_cases further : Holds (last + 1)
    · exact ⟨last + 1, Nat.le_succ_of_le ordered, Nat.le_refl _, further, stop⟩
    · rcases ih further with ⟨place, lower, upper, ends⟩
      exact ⟨place, lower, Nat.le_succ_of_le upper, ends⟩

/-- What a moved run has lies in one of its moved rows or columns. -/
theorem exists_has (regular : map.Regular range) (part : run.PartOf range) {place : Nat}
    (inside : (map.span run).Has place) :
    ∃ old, run.Has old ∧ (map.span (.single old)).Has place := by
  rcases inside with ⟨lower, upper⟩
  unfold span at lower upper
  cases turning : map.turns with
  | true =>
    have ends := regular.ends_gt turning part
    simp only [turning, if_true] at lower upper
    rcases exists_last_place (fun line => place < map.line line) part.proper (by omega)
        (by omega) with ⟨old, start, stop, above, below⟩
    refine ⟨old, ⟨start, stop⟩, ?_⟩
    simp only [span, turning, if_true, Span.single, Span.Has]
    omega
  | false =>
    have ends := regular.ends_lt turning part
    simp only [turning, Bool.false_eq_true, if_false] at lower upper
    rcases exists_last_place (fun line => map.line line ≤ place) part.proper (by omega)
        (by omega) with ⟨old, start, stop, below, above⟩
    refine ⟨old, ⟨start, stop⟩, ?_⟩
    simp only [span, turning, Bool.false_eq_true, if_false, Span.single, Span.Has]
    omega

/-- A moved run has what its moved rows and columns have. -/
theorem has_of_has (regular : map.Regular range) (part : run.PartOf range) {old place : Nat}
    (member : run.Has old) (inside : (map.span (.single old)).Has place) :
    (map.span run).Has place := by
  have thin : (Span.single old).PartOf range :=
    ⟨part.lower.trans member.1, Nat.le_refl _, member.2.trans part.upper⟩
  have held := (regular.holds_span_iff part thin).2 (Span.holds_iff.2 member)
  rw [Span.holds_iff] at held
  exact ⟨held.1.trans inside.1, inside.2.trans held.2⟩

/-- A line inside a moved run is a moved line, or it lies inside one moved row or column. -/
theorem exists_line_or_inside (regular : map.Regular range) (part : run.PartOf range) {line : Nat}
    (inside : (map.span run).straddles line = true) :
    (∃ old, run.straddles old = true ∧ map.line old = line) ∨
      ∃ old, run.Has old ∧ (map.span (.single old)).straddles line = true := by
  rw [Span.straddles_iff] at inside
  rcases regular.exists_has part ⟨Nat.le_of_lt inside.1, inside.2⟩ with ⟨old, member, within⟩
  rcases Nat.lt_or_eq_of_le within.1 with beyond | starts
  · exact Or.inr ⟨old, member, Span.straddles_iff.2 ⟨beyond, within.2⟩⟩
  · -- the line is the moved start of the row or column, and not that of the run
    left
    have lower := inside.1
    rcases member with ⟨front, back⟩
    unfold span at starts lower
    cases turning : map.turns with
    | true =>
      simp only [turning, if_true, Span.single] at starts lower
      refine ⟨old + 1, Span.straddles_iff.2 ⟨Nat.lt_succ_of_le front, ?_⟩, starts⟩
      rcases Nat.lt_or_eq_of_le back with before | last
      · exact before
      · rw [last] at starts
        omega
    | false =>
      simp only [turning, Bool.false_eq_true, if_false, Span.single] at starts lower
      refine ⟨old, Span.straddles_iff.2 ⟨?_, back⟩, starts⟩
      rcases Nat.lt_or_eq_of_le front with behind | first
      · exact behind
      · rw [← first] at starts
        omega

/-- A single row or column that keeps its extent has no line inside. -/
theorem not_straddles_single (regular : map.Regular range) (exact : map.scale = 1) {old : Nat}
    (member : range.Has old) (line : Nat) : (map.span (.single old)).straddles line = false := by
  have thin : (Span.single old).PartOf range := ⟨member.1, Nat.le_refl _, member.2⟩
  have size := regular.size_span thin
  have proper := regular.proper thin
  rw [exact, Nat.mul_one] at size
  apply Bool.eq_false_iff.2
  intro straddled
  rw [Span.straddles_iff] at straddled
  simp only [Span.size, Span.single] at size proper straddled
  omega

end Regular

/-! ## Cutting -/

/-- One more line cuts the last run in two. -/
private theorem runsBetween_concat (first : Nat) (lines : List Nat) (line last : Nat) :
    runsBetween first (lines ++ [line]) last =
      runsBetween first lines (line - 1) ++ [⟨line, last⟩] := by
  induction lines generalizing first with
  | nil => rfl
  | cons other lines ih => rw [List.cons_append, runsBetween, ih, runsBetween, List.cons_append]

/-- Cutting at the moved lines gives the moved runs. -/
theorem runsBetween_arrange (map : LineMap) {first last : Nat} {lines : List Nat}
    (cuts : CutLines first last lines) :
    runsBetween (map.span ⟨first, last⟩).first (map.arrange (lines.map map.line))
        (map.span ⟨first, last⟩).last =
      map.arrange ((runsBetween first lines last).map map.span) := by
  unfold span arrange
  cases map.turns with
  | true =>
    simp only [if_true]
    induction lines generalizing first with
    | nil => rfl
    | cons line lines ih =>
      have before : line - 1 + 1 = line := Nat.sub_add_cancel (Nat.one_le_of_lt cuts.head.1)
      rw [List.map_cons, List.reverse_cons, runsBetween_concat, ih cuts.tail, runsBetween,
        List.map_cons, List.reverse_cons]
      simp only [before]
  | false =>
    simp only [Bool.false_eq_true, if_false]
    induction lines generalizing first with
    | nil => rfl
    | cons line lines ih =>
      have before : line - 1 + 1 = line := Nat.sub_add_cancel (Nat.one_le_of_lt cuts.head.1)
      rw [List.map_cons, runsBetween, ih cuts.tail, runsBetween, List.map_cons]
      simp only [before]

/-- Lines in order are in order again when they are moved and arranged. -/
theorem Regular.pairwise_arrange (regular : map.Regular range) {lines : List Nat}
    (within : ∀ line ∈ lines, range.first ≤ line ∧ line ≤ range.last + 1)
    (increasing : lines.Pairwise (· < ·)) :
    (map.arrange (lines.map map.line)).Pairwise (· < ·) := by
  unfold arrange
  split
  · next turned =>
    rw [List.pairwise_reverse, List.pairwise_map]
    refine increasing.imp_of_mem ?_
    intro one other member otherMember before
    exact (regular.line_gt_iff turned one other (within _ member) (within _ otherMember)).2 before
  · next straight =>
    rw [List.pairwise_map]
    refine increasing.imp_of_mem ?_
    intro one other member otherMember before
    exact (regular.line_lt_iff (Bool.eq_false_iff.2 straight) one other (within _ member)
      (within _ otherMember)).2 before

end LineMap
end Mosaic
