import Mathlib.Algebra.GroupWithZero.Nat
import Mathlib.Data.List.Chain
import Mosaic.Proofs.CellRect

/-!
# Runs between cut lines

Cutting a run of rows or columns at some of its lines leaves runs that lie side
by side and fill it.  What no line straddles is therefore inside exactly one of
them and apart from all others.  A single row or column is never straddled, so
it belongs to exactly one run.
-/

namespace Mosaic

/-- Parts of a run that are laid end to end, from where it starts to where it stops. -/
structure Span.Tiles (whole : Span) (parts : List Span) : Prop where
  proper : ∀ part ∈ parts, part.first ≤ part.last
  starts : parts.head?.map Span.first = some whole.first
  joined : parts.IsChain fun part next => next.first = part.last + 1
  stops : parts.getLast?.map Span.last = some whole.last

/-- Such parts are together as long as the run. -/
theorem Span.Tiles.sum_size {whole : Span} {parts : List Span} (tiles : whole.Tiles parts) :
    whole.first ≤ whole.last ∧ (parts.map Span.size).sum = whole.size := by
  induction parts generalizing whole with
  | nil => cases tiles.starts
  | cons part parts ih =>
    have proper := tiles.proper part List.mem_cons_self
    have start : part.first = whole.first := Option.some.inj tiles.starts
    cases parts with
    | nil =>
      have stop : part.last = whole.last := Option.some.inj tiles.stops
      rw [List.map_singleton, List.sum_singleton]
      unfold size
      omega
    | cons next parts =>
      rcases List.isChain_cons_cons.1 tiles.joined with ⟨touches, joined⟩
      have rest : (Span.mk next.first whole.last).Tiles (next :: parts) :=
        ⟨fun other member => tiles.proper other (List.mem_cons_of_mem _ member), rfl, joined,
          tiles.stops⟩
      have later := ih rest
      rw [List.map_cons, List.sum_cons, later.2]
      simp only [size] at later ⊢
      omega

/-- Lines at which a run can be cut: in order, and strictly inside it. -/
structure CutLines (first last : Nat) (lines : List Nat) : Prop where
  inside : ∀ line ∈ lines, first < line ∧ line ≤ last
  increasing : lines.Pairwise (· < ·)

namespace CutLines

variable {first last line : Nat} {lines : List Nat}

theorem single (inside : first < line ∧ line ≤ last) : CutLines first last [line] := by
  constructor
  · intro other member
    rw [List.mem_singleton.1 member]
    exact inside
  · exact List.pairwise_singleton _ _

theorem tail (cuts : CutLines first last (line :: lines)) : CutLines line last lines := by
  have ordered := List.pairwise_cons.1 cuts.increasing
  constructor
  · intro other member
    exact ⟨ordered.1 other member, (cuts.inside other (List.mem_cons_of_mem _ member)).2⟩
  · exact ordered.2

theorem head (cuts : CutLines first last (line :: lines)) : first < line ∧ line ≤ last :=
  cuts.inside line List.mem_cons_self

theorem exists_cons (first : Nat) (lines : List Nat) (last : Nat) :
    ∃ stop others, runsBetween first lines last = ⟨first, stop⟩ :: others := by
  cases lines with
  | nil => exact ⟨last, [], rfl⟩
  | cons line lines => exact ⟨line - 1, runsBetween line lines last, rfl⟩

/-- Every run is a part of the whole, and ends where the whole does or at a line. -/
theorem run_spec (whole : first ≤ last) (cuts : CutLines first last lines) :
    ∀ run ∈ runsBetween first lines last,
      first ≤ run.first ∧ run.first ≤ run.last ∧ run.last ≤ last ∧
        (run.first = first ∨ run.first ∈ lines) ∧ (run.last = last ∨ run.last + 1 ∈ lines) := by
  induction lines generalizing first with
  | nil =>
    intro run member
    rw [List.mem_singleton.1 member]
    exact ⟨Nat.le_refl _, whole, Nat.le_refl _, Or.inl rfl, Or.inl rfl⟩
  | cons line lines ih =>
    intro run member
    have inside := cuts.head
    rcases List.mem_cons.1 member with rfl | later
    · refine ⟨Nat.le_refl _, by simp only; omega, by simp only; omega, Or.inl rfl, Or.inr ?_⟩
      have next : line - 1 + 1 = line := by omega
      rw [next]
      exact List.mem_cons_self
    · rcases ih inside.2 cuts.tail run later with ⟨lower, proper, upper, start, stop⟩
      refine ⟨by omega, proper, upper, Or.inr ?_, stop.imp id (List.mem_cons_of_mem _)⟩
      rcases start with same | found
      · rw [same]
        exact List.mem_cons_self
      · exact List.mem_cons_of_mem _ found

/-- No line is left inside a run. -/
theorem not_straddles (whole : first ≤ last) (cuts : CutLines first last lines) {run : Span}
    (member : run ∈ runsBetween first lines last) :
    ∀ line ∈ lines, run.straddles line = false := by
  induction lines generalizing first with
  | nil => exact fun line none => absurd none List.not_mem_nil
  | cons line lines ih =>
    have inside := cuts.head
    have ordered := List.pairwise_cons.1 cuts.increasing
    intro other found
    apply Bool.eq_false_iff.2
    intro held
    rw [Span.straddles_iff] at held
    rcases List.mem_cons.1 member with rfl | later
    · rcases List.mem_cons.1 found with rfl | found
      · simp only at held
        omega
      · have := ordered.1 other found
        simp only at held
        omega
    · rcases List.mem_cons.1 found with rfl | found
      · have := (cuts.tail.run_spec inside.2 run later).1
        omega
      · have clean := ih inside.2 cuts.tail later other found
        rw [Bool.eq_false_iff, Ne, Span.straddles_iff] at clean
        exact clean held

/-- A run holds what no line straddles, or is apart from it. -/
theorem holds_or_apart (whole : first ≤ last) (cuts : CutLines first last lines) {part : Span}
    (start : first ≤ part.first) (stop : part.last ≤ last)
    (unstraddled : ∀ line ∈ lines, part.straddles line = false) {run : Span}
    (member : run ∈ runsBetween first lines last) :
    run.holds part = true ∨ part.last < run.first ∨ run.last < part.first := by
  rcases cuts.run_spec whole run member with ⟨-, -, -, front, back⟩
  have apart : ∀ line ∈ lines, part.last < line ∨ line ≤ part.first := by
    intro line found
    have clean := Bool.eq_false_iff.1 (unstraddled line found)
    rw [Ne, Span.straddles_iff] at clean
    omega
  rw [Span.holds_iff]
  rcases front with same | found
  · rcases back with same' | found'
    · omega
    · have := apart _ found'
      omega
  · have := apart _ found
    rcases back with same' | found'
    · omega
    · have := apart _ found'
      omega

/-- What no line straddles is inside exactly one run. -/
theorem countP_holds (cuts : CutLines first last lines) {part : Span}
    (proper : part.first ≤ part.last) (start : first ≤ part.first) (stop : part.last ≤ last)
    (unstraddled : ∀ line ∈ lines, part.straddles line = false) :
    (runsBetween first lines last).countP (·.holds part) = 1 := by
  induction lines generalizing first with
  | nil =>
    have held : (Span.mk first last).holds part = true := Span.holds_iff.2 ⟨start, stop⟩
    rw [runsBetween, List.countP_cons, List.countP_nil, if_pos held]
  | cons line lines ih =>
    have inside := cuts.head
    have clean := Bool.eq_false_iff.1 (unstraddled line List.mem_cons_self)
    rw [Ne, Span.straddles_iff] at clean
    rcases Nat.lt_or_ge part.first line with before | after
    · -- it lies in the first run, and all others start too late
      have held : (Span.mk first (line - 1)).holds part = true := by
        rw [Span.holds_iff]
        simp only
        omega
      rw [runsBetween, List.countP_cons, if_pos held]
      have none : (runsBetween line lines last).countP (·.holds part) = 0 := by
        apply List.countP_eq_zero.2
        intro run member held'
        have lower := (cuts.tail.run_spec inside.2 run member).1
        rw [Span.holds_iff] at held'
        omega
      rw [none]
    · have skipped : ¬ (Span.mk first (line - 1)).holds part = true := by
        rw [Span.holds_iff]
        simp only
        omega
      rw [runsBetween, List.countP_cons, if_neg skipped]
      exact ih cuts.tail after fun other member => unstraddled other (List.mem_cons_of_mem _ member)

/-- The runs are laid end to end over the whole. -/
theorem tiles (whole : first ≤ last) (cuts : CutLines first last lines) :
    (Span.mk first last).Tiles (runsBetween first lines last) := by
  induction lines generalizing first with
  | nil => exact ⟨fun part member => List.mem_singleton.1 member ▸ whole, rfl, .singleton _, rfl⟩
  | cons line lines ih =>
    have inside := cuts.head
    have rest := ih inside.2 cuts.tail
    rcases exists_cons line lines last with ⟨stop, others, same⟩
    rw [runsBetween]
    rw [same] at rest ⊢
    constructor
    · rw [List.forall_mem_cons]
      exact ⟨Nat.le_sub_one_of_lt inside.1, rest.proper⟩
    · rfl
    · apply List.isChain_cons_cons.2 ⟨_, rest.joined⟩
      simp only
      omega
    · exact rest.stops

/-- The lines are where one run ends and the next one starts. -/
theorem seam_iff (cuts : CutLines first last lines) {place : Nat} :
    (∃ one next, [one, next] <:+: runsBetween first lines last ∧
      one.last + 1 = place ∧ next.first = place) ↔ place ∈ lines := by
  induction lines generalizing first with
  | nil =>
    rw [runsBetween]
    constructor
    · rintro ⟨one, next, within, -⟩
      exact absurd within.length_le (Nat.not_succ_le_self 1)
    · exact fun none => absurd none List.not_mem_nil
  | cons line lines ih =>
    have inside := cuts.head
    rcases exists_cons line lines last with ⟨stop, others, same⟩
    rw [runsBetween, List.mem_cons, ← ih cuts.tail, same]
    constructor
    · rintro ⟨one, next, within, ends, starts⟩
      rcases List.infix_cons_iff.1 within with front | later
      · left
        rcases List.cons_prefix_cons.1 front with ⟨-, front⟩
        rcases List.cons_prefix_cons.1 front with ⟨rfl, -⟩
        exact starts.symm
      · exact Or.inr ⟨one, next, later, ends, starts⟩
    · rintro (rfl | ⟨one, next, within, joint⟩)
      · refine ⟨_, _, List.IsPrefix.isInfix ⟨others, rfl⟩, ?_, rfl⟩
        simp only
        omega
      · exact ⟨one, next, List.infix_cons within, joint⟩

end CutLines

namespace CellRect

variable {region : CellRect} {orientation : Orientation} {members : List LabelRegion}

theorem mem_cleanLines {line : Nat} :
    line ∈ region.cleanLines orientation members ↔
      ((region.along orientation).first < line ∧ line ≤ (region.along orientation).last) ∧
        ∀ member ∈ members, (member.bounds.along orientation).straddles line = false := by
  unfold cleanLines isClean
  rw [List.mem_filter, Span.mem_innerLines_iff]
  simp

theorem cutLines_cleanLines (region : CellRect) (orientation : Orientation)
    (members : List LabelRegion) :
    CutLines (region.along orientation).first (region.along orientation).last
      (region.cleanLines orientation members) := by
  constructor
  · intro line member
    exact (mem_cleanLines.1 member).1
  · exact List.Pairwise.filter _ List.pairwise_lt_range'

end CellRect
end Mosaic
