import Mosaic.Unicode.WhiteSpace

/-!
Cutting text into lines and lines into parts.  Texts are lists of characters
here, so that every cut is a plain recursion and what was cut away can be put
back.
-/

namespace Mosaic
namespace Text

/-! ## Lines -/

/-- The line read so far, newest character first, without the carriage return
that belongs to the line feed just met. -/
def endedLine : List Char → List Char
  | '\r' :: rest => rest.reverse
  | current => current.reverse

/-- Lines of the remaining text, when `current` (newest first) has been read of
the line under way. -/
def linesAfter (current : List Char) : List Char → List (List Char)
  | [] => if current.isEmpty then [] else [current.reverse]
  | glyph :: rest =>
    if glyph = '\n' then endedLine current :: linesAfter [] rest
    else linesAfter (glyph :: current) rest

/-- The lines of a text.  A line feed, with a carriage return before it or
without, ends a line; text after the last line feed is a line only if it is
not empty. -/
def lines (text : List Char) : List (List Char) :=
  linesAfter [] text

/-! ## Edges -/

/-- Remove the characters satisfying `drop` from both ends. -/
def trimBy (drop : Char → Bool) (text : List Char) : List Char :=
  ((text.dropWhile drop).reverse.dropWhile drop).reverse

def trim (text : List Char) : List Char :=
  trimBy Unicode.isWhiteSpace text

/-- What follows `lead`, if the text starts with it. -/
def dropLead? : (lead text : List Char) → Option (List Char)
  | [], text => some text
  | _ :: _, [] => none
  | expected :: lead, glyph :: text =>
    if expected = glyph then dropLead? lead text else none

/-- What precedes `tail`, if the text ends with it. -/
def dropTail? (tail text : List Char) : Option (List Char) :=
  (dropLead? tail.reverse text.reverse).map List.reverse

/-- The parts before and after the first occurrence of `mark`. -/
def cutAt? (mark : List Char) : List Char → Option (List Char × List Char)
  | [] => (dropLead? mark []).map fun rest => ([], rest)
  | glyph :: text =>
    match dropLead? mark (glyph :: text) with
    | some rest => some ([], rest)
    | none => (cutAt? mark text).map fun parts => (glyph :: parts.1, parts.2)

/-- The pieces between the occurrences of a two-character mark, read from the
left without overlap.  There is always at least one piece. -/
def splitOnPair (first second : Char) : List Char → List (List Char)
  | [] => [[]]
  | [glyph] => [[glyph]]
  | glyph :: next :: rest =>
    if glyph = first ∧ next = second then [] :: splitOnPair first second rest
    else
      match splitOnPair first second (next :: rest) with
      | piece :: pieces => (glyph :: piece) :: pieces
      | [] => [[glyph]]

/-! ## What the cuts give back -/

theorem dropLead?_eq_some_iff {lead text rest : List Char} :
    dropLead? lead text = some rest ↔ text = lead ++ rest := by
  induction lead generalizing text with
  | nil => simp [dropLead?, eq_comm]
  | cons expected lead ih =>
    cases text with
    | nil => simp [dropLead?]
    | cons glyph text =>
      by_cases same : expected = glyph
      · simp [dropLead?, same, ih]
      · have other : ¬ glyph = expected := fun h => same h.symm
        simp [dropLead?, same, other]

theorem dropLead?_append (lead rest : List Char) :
    dropLead? lead (lead ++ rest) = some rest :=
  dropLead?_eq_some_iff.2 rfl

theorem dropTail?_eq_some_iff {tail text rest : List Char} :
    dropTail? tail text = some rest ↔ text = rest ++ tail := by
  unfold dropTail?
  rw [Option.map_eq_some_iff]
  constructor
  · rintro ⟨reversed, found, rfl⟩
    have whole := dropLead?_eq_some_iff.1 found
    have := congrArg List.reverse whole
    simpa using this
  · rintro rfl
    refine ⟨rest.reverse, ?_, List.reverse_reverse rest⟩
    exact dropLead?_eq_some_iff.2 (by simp)

theorem dropTail?_append (rest tail : List Char) :
    dropTail? tail (rest ++ tail) = some rest :=
  dropTail?_eq_some_iff.2 rfl

theorem linesAfter_append {line : List Char} (whole : '\n' ∉ line) (current rest : List Char) :
    linesAfter current (line ++ '\n' :: rest) =
      endedLine (line.reverse ++ current) :: linesAfter [] rest := by
  induction line generalizing current with
  | nil => simp [linesAfter]
  | cons glyph line ih =>
    have other : glyph ≠ '\n' := fun same => whole (same ▸ List.mem_cons_self)
    have later : '\n' ∉ line := fun member => whole (List.mem_cons_of_mem _ member)
    simp [linesAfter, other, ih later]

/-- Lines that are each ended by a line feed are read back, but for the carriage return at the end
of a line. -/
theorem lines_ended {parts : List (List Char)} (whole : ∀ line ∈ parts, '\n' ∉ line) :
    lines (parts.flatMap (· ++ ['\n'])) = parts.map fun line => endedLine line.reverse := by
  induction parts with
  | nil => rfl
  | cons line parts ih =>
    have here := whole line List.mem_cons_self
    have later := ih fun other member => whole other (List.mem_cons_of_mem _ member)
    unfold lines at later ⊢
    simp only [List.flatMap_cons, List.append_assoc, List.singleton_append, List.map_cons]
    rw [linesAfter_append here, later]
    simp

end Text
end Mosaic
