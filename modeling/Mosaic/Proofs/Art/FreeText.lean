import Mosaic.Proofs.Art.Solid
import Mosaic.Proofs.Text.Cuts
import Mosaic.Proofs.Text.Escapes

/-!
# Drawings in free text

Free text may have white space around each line of a drawing, and more lines of nothing but
white space.  Both go when the text is tidied up.  What is left are the lines of the drawing:
no label is white space, and the blank mark is never taken for padding, even where it is a
space itself.
-/

namespace Mosaic

/-- White space that can stand around a line: neither the blank mark nor a line feed. -/
def IsPadding (blank : Char) (space : List Char) : Prop :=
  ∀ glyph ∈ space, Unicode.isWhiteSpace glyph = true ∧ glyph ≠ blank ∧ glyph ≠ '\n'

instance (blank : Char) (space : List Char) : Decidable (IsPadding blank space) :=
  List.decidableBAll _ space

/-- Lines with padding around them, and perhaps more lines of nothing but padding. -/
inductive Padded (blank : Char) : List (List Char) → List (List Char) → Prop
  | nil : Padded blank [] []
  | extra {lines padded : List (List Char)} {space : List Char} (padding : IsPadding blank space)
      (rest : Padded blank lines padded) : Padded blank lines (space :: padded)
  | line {lines padded : List (List Char)} {line left right : List Char}
      (before : IsPadding blank left) (behind : IsPadding blank right)
      (rest : Padded blank lines padded) :
      Padded blank (line :: lines) ((left ++ line ++ right) :: padded)

/-- Lines with a line feed between neighbours, after a carriage return or not. -/
inductive Joined : List (List Char) → List Char → Prop
  | last (line : List Char) : Joined [line] line
  | feed {line : List Char} {lines : List (List Char)} {text : List Char}
      (rest : Joined lines text) : Joined (line :: lines) (line ++ '\n' :: text)
  | returnFeed {line : List Char} {lines : List (List Char)} {text : List Char}
      (rest : Joined lines text) : Joined (line :: lines) (line ++ '\r' :: '\n' :: text)

/-! ## Tidy lines -/

namespace ArtGrid

variable {blank : Char} {line : List Char}

/-- No label is white space. -/
theorem isWhiteSpace_of_isLabelGlyph {glyph : Char} (label : isLabelGlyph glyph = true) :
    Unicode.isWhiteSpace glyph = false := by
  have checked : Text.whiteSpaces.all (fun glyph => !isLabelGlyph glyph) = true := by
    decide +kernel
  by_contra white
  have other := List.all_eq_true.1 checked glyph
    (Text.mem_whiteSpaces (Bool.not_eq_false _ ▸ white))
  rw [label] at other
  cases other

/-- A line of a drawing keeps all its cells when padding is removed. -/
theorem tidied_padded {left right : List Char} (before : IsPadding blank left)
    (behind : IsPadding blank right)
    (known : ∀ glyph ∈ Text.withoutEscapes line, glyph ≠ blank → isLabelGlyph glyph = true) :
    tidied blank (left ++ line ++ right) = Text.withoutEscapes line := by
  rcases Text.withoutEscapes_padded line (fun glyph member => (before glyph member).1)
    (fun glyph member => ⟨(behind glyph member).1, (behind glyph member).2.2⟩) with
      ⟨front, early, back, late, cleaned⟩
  have dropped : ∀ {glyph}, Unicode.isWhiteSpace glyph = true ∧ glyph ≠ blank ∧ glyph ≠ '\n' →
      (Unicode.isWhiteSpace glyph && decide (glyph ≠ blank)) = true :=
    fun padding => Bool.and_eq_true_iff.2 ⟨padding.1, decide_eq_true padding.2.1⟩
  unfold tidied
  rw [cleaned]
  apply Text.trimBy_padded
  · exact fun glyph member => dropped (before glyph (early member))
  · intro glyph member
    by_cases mark : glyph = blank
    · rw [mark, decide_eq_false (not_not_intro rfl), Bool.and_false]
    · rw [isWhiteSpace_of_isLabelGlyph (known glyph member mark), Bool.false_and]
  · exact fun glyph member => dropped (behind glyph (late member))

/-- Nothing is left of padding. -/
theorem tidied_padding {space : List Char} (padding : IsPadding blank space) :
    tidied blank space = [] := by
  have nothing : IsPadding blank [] := fun _ member => absurd member List.not_mem_nil
  have tidy : tidied blank (space ++ [] ++ []) = Text.withoutEscapes [] :=
    tidied_padded padding nothing fun _ member => absurd member List.not_mem_nil
  rwa [List.append_nil, List.append_nil] at tidy

/-- The carriage return before a line feed makes no difference. -/
theorem tidied_endedLine (blank : Char) (line : List Char) :
    tidied blank (Text.endedLine line.reverse) = tidied blank line := by
  unfold tidied Text.endedLine
  split
  · next rest same =>
    have whole : line = rest.reverse ++ ['\r'] := by
      rw [← List.reverse_reverse line, same, List.reverse_cons]
    rw [whole, Text.withoutEscapes_append_return]
  · rw [List.reverse_reverse]

/-- The tidied lines of a text, without the empty ones. -/
def tidyLines (blank : Char) (lines : List (List Char)) : List (List Char) :=
  (lines.map (tidied blank)).filter fun line => !line.isEmpty

theorem tidyLines_cons (blank : Char) (line : List Char) (lines : List (List Char)) :
    tidyLines blank (line :: lines) =
      if (tidied blank line).isEmpty then tidyLines blank lines
      else tidied blank line :: tidyLines blank lines := by
  unfold tidyLines
  rw [List.map_cons, List.filter_cons]
  cases (tidied blank line).isEmpty <;> rfl

/-- Tidied lines are clean, so free text is read like lines. -/
theorem ofText_eq_ofLines (text : List Char) (blank : Char) :
    ofText text blank = ofLines (tidyLines blank (Text.lines text)) blank := by
  have clean : (tidyLines blank (Text.lines text)).map Text.withoutEscapes =
      tidyLines blank (Text.lines text) := by
    nth_rewrite 2 [← List.map_id (tidyLines blank (Text.lines text))]
    apply List.map_congr_left
    intro line listed
    rcases List.mem_map.1 (List.mem_filter.1 listed).1 with ⟨raw, -, rfl⟩
    exact Text.withoutEscapes_of_subset (Text.trimBy_subset _ _)
  unfold ofLines
  rw [clean]
  rfl

end ArtGrid

/-- What is left of a text has no control characters, wherever its sequences break off, and a text
without any is left as it is.  So a second cleaning changes nothing, neither of a text nor of the
lines that a drawing is read from. -/
theorem withoutEscapes_idempotent (text : List Char) :
    (∀ glyph ∈ Text.withoutEscapes text, ¬ Text.IsControl glyph) ∧
      (Text.withoutEscapes text = text ↔ ∀ glyph ∈ text, ¬ Text.IsControl glyph) ∧
      Text.withoutEscapes (Text.withoutEscapes text) = Text.withoutEscapes text ∧
      ∀ blank, ArtGrid.ofText text blank =
        ArtGrid.ofLines (ArtGrid.tidyLines blank (Text.lines text)) blank := by
  have cleaned : ∀ glyph ∈ Text.withoutEscapes text, ¬ Text.IsControl glyph :=
    fun _ drawn => Text.not_isControl_of_mem_withoutEscapes drawn
  exact ⟨cleaned, Text.withoutEscapes_eq_self_iff, Text.withoutEscapes_eq_self_iff.2 cleaned,
    ArtGrid.ofText_eq_ofLines text⟩

/-- A device-control string ends at the second byte of a character.  The byte that is left over is
drawn as the replacement character, which is no control character. -/
example : Text.withoutEscapes ['\x1b', 'P', 'q', '✪', 'A', '\r'] = ['\uFFFD', 'A'] := by
  decide +kernel

/-! ## Padded lines -/

/-- Padded lines have no line feed if the lines have none. -/
theorem Padded.whole {blank : Char} {lines padded : List (List Char)}
    (pads : Padded blank lines padded) (whole : ∀ line ∈ lines, '\n' ∉ line) :
    ∀ line ∈ padded, '\n' ∉ line := by
  have none : ∀ {space}, IsPadding blank space → '\n' ∉ space :=
    fun padding member => (padding _ member).2.2 rfl
  induction pads with
  | nil => exact whole
  | extra padding rest ih => exact List.forall_mem_cons.2 ⟨none padding, ih whole⟩
  | line before behind rest ih =>
    rw [List.forall_mem_cons] at whole
    refine List.forall_mem_cons.2 ⟨fun member => ?_, ih whole.2⟩
    rcases List.mem_append.1 member with front | back
    · rcases List.mem_append.1 front with left | inside
      · exact none before left
      · exact whole.1 inside
    · exact none behind back

/-- The lines of a drawing are what is left of padded lines. -/
theorem Padded.tidyLines_eq {blank : Char} {lines padded : List (List Char)}
    (pads : Padded blank lines padded)
    (known : ∀ row ∈ lines.map Text.withoutEscapes, ∀ glyph ∈ row,
      glyph ≠ blank → isLabelGlyph glyph = true)
    (some : ∀ row ∈ lines.map Text.withoutEscapes, row ≠ []) :
    ArtGrid.tidyLines blank padded = lines.map Text.withoutEscapes := by
  induction pads with
  | nil => rfl
  | extra padding rest ih =>
    rw [ArtGrid.tidyLines_cons, ArtGrid.tidied_padding padding, ih known some]
    rfl
  | line before behind rest ih =>
    rw [List.map_cons, List.forall_mem_cons] at known some
    rw [ArtGrid.tidyLines_cons, ArtGrid.tidied_padded before behind known.1, if_neg, ih known.2 some.2,
      List.map_cons]
    exact fun empty => some.1 (List.isEmpty_iff.1 empty)

/-- The tidied lines of a text are those that were joined. -/
theorem Joined.tidyLines_eq {lines : List (List Char)} {text : List Char} (joined : Joined lines text)
    (whole : ∀ line ∈ lines, '\n' ∉ line) (blank : Char) :
    ArtGrid.tidyLines blank (Text.lines text) = ArtGrid.tidyLines blank lines := by
  induction joined with
  | last line =>
    rw [Text.lines_whole (whole line List.mem_cons_self)]
    cases line with
    | nil => rfl
    | cons glyph line => rfl
  | @feed line lines text rest ih =>
    rw [List.forall_mem_cons] at whole
    rw [Text.lines_append whole.1, ArtGrid.tidyLines_cons, ArtGrid.tidyLines_cons,
      ArtGrid.tidied_endedLine, ih whole.2]
  | @returnFeed line lines text rest ih =>
    rw [List.forall_mem_cons] at whole
    have same : line ++ '\r' :: '\n' :: text = (line ++ ['\r']) ++ '\n' :: text := by
      rw [List.append_assoc]
      rfl
    have inside : '\n' ∉ line ++ ['\r'] := by
      intro member
      rcases List.mem_append.1 member with early | late
      · exact whole.1 early
      · exact absurd (List.mem_singleton.1 late) (by decide)
    rw [same, Text.lines_append inside, List.reverse_append, List.reverse_singleton,
      List.singleton_append, ArtGrid.tidyLines_cons, ArtGrid.tidyLines_cons, Text.endedLine,
      List.reverse_reverse, ih whole.2]

/-- Lines of a drawing can be padded and joined to a text, and the text is the same drawing. -/
theorem ofText_eq_of_padded {lines padded : List (List Char)} {text : List Char} {blank : Char}
    {grid : ArtGrid} (whole : ∀ line ∈ lines, '\n' ∉ line)
    (read : ArtGrid.ofLines lines blank = .ok grid) (pads : Padded blank lines padded)
    (joined : Joined padded text) : ArtGrid.ofText text blank = .ok grid := by
  have reading := ArtGrid.isReadingOf_of_ofRows read
  have some : ∀ row ∈ lines.map Text.withoutEscapes, row ≠ [] := by
    rintro row listed rfl
    exact Nat.ne_of_lt reading.wide (reading.even [] listed)
  have rows : ArtGrid.tidyLines blank (Text.lines text) = lines.map Text.withoutEscapes := by
    rw [joined.tidyLines_eq (pads.whole whole), pads.tidyLines_eq reading.known some]
  change ArtGrid.ofRows (ArtGrid.tidyLines blank (Text.lines text)) blank = _
  rw [rows]
  exact read

/-- Two lines with spaces for empty cells.  The second one breaks off in a window title. -/
def spacedLines : List (List Char) :=
  ["\x1b[32mA \x1b[0m".toList, " B\x1b]0;plots".toList]

/-- The same lines behind tabs and before wide spaces, with a line of tabs between them. -/
def paddedLines : List (List Char) :=
  [['\t'] ++ "\x1b[32mA \x1b[0m".toList ++ ['\u3000'], ['\t', '\t'],
    ['\t'] ++ " B\x1b]0;plots".toList ++ ['\u3000', '\r']]

def paddedText : List Char :=
  "\t\x1b[32mA \x1b[0m\u3000\r\n\t\t\n\t B\x1b]0;plots\u3000\r".toList

def spaced : ArtGrid where
  cells := [[.label 'A', .blank], [.blank, .label 'B']]
  rows := 2
  cols := 2
  labels := [⟨'A', 0, 0, 0, 0⟩, ⟨'B', 1, 1, 1, 1⟩]

theorem ofText_eq_of_padded_spaced :
    (∀ line ∈ spacedLines, '\n' ∉ line) ∧ ArtGrid.ofLines spacedLines ' ' = .ok spaced ∧
      Padded ' ' spacedLines paddedLines ∧ Joined paddedLines paddedText ∧
        ArtGrid.ofText paddedText ' ' = .ok spaced := by
  have whole : ∀ line ∈ spacedLines, '\n' ∉ line := by decide +kernel
  have read : ArtGrid.ofLines spacedLines ' ' = .ok spaced :=
    ArtGrid.ofRows_eq_ok_iff.2 (by decide +kernel)
  have tab : IsPadding ' ' ['\t'] := by decide
  have tabs : IsPadding ' ' ['\t', '\t'] := by decide
  have wide : IsPadding ' ' ['\u3000'] := by decide
  have last : IsPadding ' ' ['\u3000', '\r'] := by decide
  have pads : Padded ' ' spacedLines paddedLines :=
    .line tab wide (.extra tabs (.line tab last .nil))
  have joined : Joined paddedLines paddedText := by
    have same : paddedText =
        (['\t'] ++ "\x1b[32mA \x1b[0m".toList ++ ['\u3000']) ++ '\r' :: '\n' ::
          (['\t', '\t'] ++ '\n' :: (['\t'] ++ " B\x1b]0;plots".toList ++ ['\u3000', '\r'])) := by
      decide +kernel
    rw [same]
    exact .returnFeed (.feed (.last _))
  exact ⟨whole, read, pads, joined, ofText_eq_of_padded whole read pads joined⟩

end Mosaic
