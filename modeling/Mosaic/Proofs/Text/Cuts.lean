import Mathlib.Data.List.Basic
import Mathlib.Data.List.TakeWhile
import Mosaic.Text.Lines

/-!
# Cuts undo joins

A text is cut where it was put together, as long as the parts do not hold the
first character of the mark between them.  Trimming leaves a text alone that
starts and ends with characters other than white space, and lines that are
joined are found again.
-/

namespace Mosaic
namespace Text

/-! ## Marks -/

/-- A cut is made at the first place where the mark can start. -/
theorem cutAt?_append {first : Char} {mark before : List Char} (after : List Char)
    (absent : first ∉ before) :
    cutAt? (first :: mark) (before ++ (first :: mark) ++ after) = some (before, after) := by
  induction before with
  | nil =>
    have lead := dropLead?_append (first :: mark) after
    rw [List.cons_append] at lead
    simp only [List.nil_append, List.cons_append, cutAt?, lead]
  | cons glyph before ih =>
    have other : ¬ first = glyph := fun same => absent (same ▸ List.mem_cons_self)
    have later : first ∉ before := fun member => absent (List.mem_cons_of_mem _ member)
    simp only [List.cons_append, cutAt?, dropLead?, if_neg other]
    rw [ih later]
    rfl

private theorem splitOnPair_cons {first second glyph : Char} {text piece : List Char}
    {pieces : List (List Char)} (other : glyph ≠ first)
    (later : splitOnPair first second text = piece :: pieces) :
    splitOnPair first second (glyph :: text) = (glyph :: piece) :: pieces := by
  cases text with
  | nil =>
    cases later
    rfl
  | cons next rest =>
    unfold splitOnPair
    rw [if_neg fun both => other both.1, later]

private theorem splitOnPair_piece {first second : Char} {piece : List Char}
    (absent : first ∉ piece) : splitOnPair first second piece = [piece] := by
  induction piece with
  | nil => rfl
  | cons glyph piece ih =>
    have other : glyph ≠ first := fun same => absent (same ▸ List.mem_cons_self)
    exact splitOnPair_cons other (ih fun member => absent (List.mem_cons_of_mem _ member))

private theorem splitOnPair_append {first second : Char} {piece : List Char} (rest : List Char)
    (absent : first ∉ piece) :
    splitOnPair first second (piece ++ first :: second :: rest) =
      piece :: splitOnPair first second rest := by
  induction piece with
  | nil =>
    rw [List.nil_append, splitOnPair, if_pos ⟨rfl, rfl⟩]
  | cons glyph piece ih =>
    have other : glyph ≠ first := fun same => absent (same ▸ List.mem_cons_self)
    exact splitOnPair_cons other (ih fun member => absent (List.mem_cons_of_mem _ member))

/-- Pieces without the first character of the mark are found again. -/
theorem splitOnPair_intercalate {first second : Char} {pieces : List (List Char)}
    (nonempty : pieces ≠ []) (absent : ∀ piece ∈ pieces, first ∉ piece) :
    splitOnPair first second ([first, second].intercalate pieces) = pieces := by
  induction pieces with
  | nil => exact absurd rfl nonempty
  | cons piece pieces ih =>
    have here := absent piece List.mem_cons_self
    have later := fun other member => absent other (List.mem_cons_of_mem _ member)
    cases pieces with
    | nil =>
      rw [List.intercalate_singleton]
      exact splitOnPair_piece here
    | cons next pieces =>
      rw [List.intercalate_cons_cons, List.append_assoc]
      exact (splitOnPair_append _ here).trans
        (congrArg (piece :: ·) (ih (List.cons_ne_nil _ _) later))

/-! ## Edges -/

/-- Does a text start and end with characters other than white space? -/
def IsTrimmed (text : List Char) : Prop :=
  (∀ glyph, text.head? = some glyph → Unicode.isWhiteSpace glyph = false) ∧
    ∀ glyph, text.getLast? = some glyph → Unicode.isWhiteSpace glyph = false

theorem dropWhile_eq_self {drop : Char → Bool} {text : List Char}
    (kept : ∀ glyph, text.head? = some glyph → drop glyph = false) :
    text.dropWhile drop = text := by
  cases text with
  | nil => rfl
  | cons glyph text => rw [List.dropWhile_cons_of_neg (by simp [kept glyph rfl])]

theorem trim_eq_self {text : List Char} (trimmed : IsTrimmed text) : trim text = text := by
  unfold trim trimBy
  rw [dropWhile_eq_self trimmed.1, dropWhile_eq_self, List.reverse_reverse]
  intro glyph last
  rw [List.head?_reverse] at last
  exact trimmed.2 glyph last

/-- What is dropped at both ends goes, and a text without such characters stays. -/
theorem trimBy_padded {drop : Char → Bool} {front kept back : List Char}
    (before : ∀ glyph ∈ front, drop glyph = true) (inside : ∀ glyph ∈ kept, drop glyph = false)
    (behind : ∀ glyph ∈ back, drop glyph = true) :
    trimBy drop (front ++ kept ++ back) = kept := by
  unfold trimBy
  rw [List.append_assoc, List.dropWhile_append_of_pos before]
  by_cases empty : kept = []
  · rw [empty, List.nil_append, List.dropWhile_eq_nil_iff.2 behind]
    rfl
  · have head : (kept ++ back).dropWhile drop = kept ++ back := by
      apply dropWhile_eq_self
      intro glyph first
      rw [List.head?_append_of_ne_nil _ empty] at first
      exact inside glyph (List.mem_of_mem_head? first)
    have last : kept.reverse.dropWhile drop = kept.reverse := by
      apply dropWhile_eq_self
      intro glyph first
      exact inside glyph (List.mem_reverse.1 (List.mem_of_mem_head? first))
    rw [head, List.reverse_append, List.dropWhile_append_of_pos, last, List.reverse_reverse]
    exact fun glyph member => behind glyph (List.mem_reverse.1 member)

theorem trimBy_subset (drop : Char → Bool) (text : List Char) : trimBy drop text ⊆ text := by
  intro glyph kept
  have inside := (List.dropWhile_sublist drop).subset (List.mem_reverse.1 kept)
  exact (List.dropWhile_sublist drop).subset (List.mem_reverse.1 inside)

/-- White space in front of a text does not count. -/
theorem trim_append {space text : List Char}
    (white : space.all Unicode.isWhiteSpace = true) : trim (space ++ text) = trim text := by
  unfold trim trimBy
  rw [List.dropWhile_append_of_pos (List.all_eq_true.1 white)]

/-- Pieces that are joined have no other characters than they and the separator have. -/
theorem not_mem_intercalate {glyph : Char} {separator : List Char} {pieces : List (List Char)}
    (outside : glyph ∉ separator) (each : ∀ piece ∈ pieces, glyph ∉ piece) :
    glyph ∉ separator.intercalate pieces := by
  induction pieces with
  | nil => exact List.not_mem_nil
  | cons piece pieces ih =>
    rw [List.forall_mem_cons] at each
    cases pieces with
    | nil =>
      rw [List.intercalate_singleton]
      exact each.1
    | cons next pieces =>
      rw [List.intercalate_cons_cons, List.mem_append, List.mem_append, not_or, not_or]
      exact ⟨⟨each.1, outside⟩, ih each.2⟩

/-! ## Lines -/

/-- The first line of a text, up to its line feed. -/
theorem lines_append {line : List Char} (whole : '\n' ∉ line) (rest : List Char) :
    lines (line ++ '\n' :: rest) = endedLine line.reverse :: lines rest := by
  unfold lines
  rw [linesAfter_append whole, List.append_nil]

private theorem linesAfter_whole {line : List Char} (whole : '\n' ∉ line) (current : List Char) :
    linesAfter current line =
      if (line.reverse ++ current).isEmpty then [] else [(line.reverse ++ current).reverse] := by
  induction line generalizing current with
  | nil => rfl
  | cons glyph line ih =>
    have other : glyph ≠ '\n' := fun same => whole (same ▸ List.mem_cons_self)
    rw [linesAfter, if_neg other, ih fun member => whole (List.mem_cons_of_mem _ member),
      List.reverse_cons, List.append_assoc, List.singleton_append]

/-- A text without a line feed is one line, if it is not empty. -/
theorem lines_whole {line : List Char} (whole : '\n' ∉ line) :
    lines line = if line.isEmpty then [] else [line] := by
  unfold lines
  rw [linesAfter_whole whole, List.append_nil, List.isEmpty_reverse, List.reverse_reverse]

/-- Lines that do not end with a carriage return are found again as they are. -/
theorem lines_joined {parts : List (List Char)} (whole : ∀ line ∈ parts, '\n' ∉ line)
    (plain : ∀ line ∈ parts, line.getLast? ≠ some '\r') :
    lines (parts.flatMap (· ++ ['\n'])) = parts := by
  rw [lines_ended whole]
  refine (List.map_congr_left fun line member => ?_).trans (List.map_id parts)
  have last := plain line member
  rw [← List.head?_reverse] at last
  unfold endedLine
  split
  · next same => exact absurd (congrArg List.head? same) last
  · exact List.reverse_reverse line

/-- The first lines of a text, as they stand there. -/
def firstLines : Nat → List Char → List Char
  | 0, _ => []
  | _ + 1, [] => []
  | count + 1, glyph :: text =>
    if glyph = '\n' then '\n' :: firstLines count text
    else glyph :: firstLines (count + 1) text

private theorem linesAfter_firstLines (count : Nat) (current text : List Char) :
    linesAfter current (firstLines (count + 1) text) =
      (linesAfter current text).take (count + 1) := by
  induction text generalizing count current with
  | nil =>
    unfold firstLines linesAfter
    split
    · rfl
    · rw [List.take_succ_cons, List.take_nil]
  | cons glyph text ih =>
    by_cases feed : glyph = '\n'
    · have rest : linesAfter [] (firstLines count text) = (linesAfter [] text).take count := by
        cases count with
        | zero =>
          rw [firstLines, List.take_zero]
          rfl
        | succ count => exact ih count []
      rw [firstLines, if_pos feed, linesAfter, linesAfter, if_pos rfl, if_pos feed, rest,
        List.take_succ_cons]
    · rw [firstLines, if_neg feed, linesAfter, linesAfter, if_neg feed, if_neg feed]
      exact ih count (glyph :: current)

theorem lines_firstLines (count : Nat) (text : List Char) :
    lines (firstLines count text) = (lines text).take count := by
  cases count with
  | zero =>
    rw [firstLines, List.take_zero]
    rfl
  | succ count => exact linesAfter_firstLines count [] text

end Text
end Mosaic
