import Mosaic.Text.TerminalEscapes
import Mosaic.Unicode.WhiteSpace

/-!
# Text that has been cleaned

Whatever state a text is read in, and wherever its sequences break off, what is drawn of
it holds no control character but the line feed.  So every part of a cleaned text is
drawn as it is, and cleaning it again changes nothing.

A text is read piece by piece.  White space starts no sequence, and inside a sequence none
of its bytes ends it or is drawn.  So white space around a text adds nothing but white
space to what is drawn, even where the text breaks off in a sequence.
-/

namespace Mosaic
namespace Text

/-- A byte that is fed to a sequence draws no control character but the line feed. -/
theorem EscapeState.isDroppedControl_of_mem_feed {state : EscapeState} {byte : Nat} {glyph : Char}
    (drawn : glyph ∈ (state.feed byte).2) : isDroppedControl glyph = false := by
  unfold feed at drawn
  split at drawn
  · split at drawn
    · cases drawn
    · rw [List.mem_singleton.1 drawn]
      decide
  · split at drawn
    · rw [List.mem_singleton.1 drawn]
      decide
    · cases drawn

theorem EscapeState.isDroppedControl_of_mem_feedAll {state : EscapeState} {bytes : List UInt8}
    {glyph : Char} (drawn : glyph ∈ (state.feedAll bytes).2) : isDroppedControl glyph = false := by
  induction bytes generalizing state with
  | nil => cases drawn
  | cons byte bytes ih =>
    rcases List.mem_append.1 drawn with here | later
    · exact isDroppedControl_of_mem_feed here
    · exact ih later

/-- Nor does a text that is read from any state on. -/
theorem isDroppedControl_of_mem_drawnFrom {state : EscapeState} {text : List Char} {glyph : Char}
    (drawn : glyph ∈ drawnFrom state text) : isDroppedControl glyph = false := by
  fun_induction drawnFrom state text with
  | case1 => cases drawn
  | case2 text ih => exact ih drawn
  | case3 other text started dropped ih => exact ih drawn
  | case4 other text started kept ih =>
    rcases List.mem_cons.1 drawn with rfl | later
    · exact Bool.eq_false_iff.2 kept
    · exact ih later
  | case5 state other text inside fed ih =>
    rcases List.mem_append.1 drawn with here | later
    · exact EscapeState.isDroppedControl_of_mem_feedAll here
    · exact ih later

/-- A control character of either range, other than the line feed. -/
def IsControl (glyph : Char) : Prop :=
  (glyph.toNat ≤ 0x1F ∨ (0x80 ≤ glyph.toNat ∧ glyph.toNat ≤ 0x9F)) ∧ glyph ≠ '\n'

theorem isDroppedControl_iff {glyph : Char} : isDroppedControl glyph = true ↔ IsControl glyph := by
  have upper : '\n'.toNat < 0x80 := by decide
  have apart : 0x80 ≤ glyph.toNat → glyph ≠ '\n' := by
    rintro high rfl
    exact Nat.not_lt.2 high upper
  simp only [isDroppedControl, IsControl, Bool.or_eq_true, Bool.and_eq_true, decide_eq_true_eq]
  constructor
  · rintro (⟨low, other⟩ | ⟨lower, higher⟩)
    · exact ⟨Or.inl (Nat.le_of_lt_succ low), other⟩
    · exact ⟨Or.inr ⟨lower, higher⟩, apart lower⟩
  · rintro ⟨low | high, other⟩
    · exact Or.inl ⟨Nat.lt_succ_of_le low, other⟩
    · exact Or.inr high

theorem not_isControl_of_mem_withoutEscapes {text : List Char} {glyph : Char}
    (drawn : glyph ∈ withoutEscapes text) : ¬ IsControl glyph := by
  rw [← isDroppedControl_iff, Bool.not_eq_true]
  exact isDroppedControl_of_mem_drawnFrom drawn

/-- Cleaning leaves a text as it is exactly if the text has no control characters. -/
theorem withoutEscapes_eq_self_iff {text : List Char} :
    withoutEscapes text = text ↔ ∀ glyph ∈ text, ¬ IsControl glyph := by
  constructor
  · intro same glyph member
    rw [← same] at member
    exact not_isControl_of_mem_withoutEscapes member
  · intro plain
    apply withoutEscapes_eq_self
    intro glyph member
    rw [← Bool.not_eq_true, isDroppedControl_iff]
    exact plain glyph member

/-- What is made of glyphs of a cleaned text is clean. -/
theorem withoutEscapes_of_subset {text part : List Char} (taken : part ⊆ withoutEscapes text) :
    withoutEscapes part = part :=
  withoutEscapes_eq_self fun _ member => isDroppedControl_of_mem_drawnFrom (taken member)

/-! ## Piece by piece -/

/-- What follows a text is read in the state that the text leaves. -/
theorem exists_drawnFrom_append (state : EscapeState) (text : List Char) :
    ∃ after, ∀ rest, drawnFrom state (text ++ rest) = drawnFrom state text ++ drawnFrom after rest := by
  fun_induction drawnFrom state text with
  | case1 state => exact ⟨state, fun _ => rfl⟩
  | case2 text ih =>
    rcases ih with ⟨after, same⟩
    refine ⟨after, fun rest => ?_⟩
    rw [List.cons_append, drawnFrom, if_pos rfl, same]
  | case3 glyph text started dropped ih =>
    rcases ih with ⟨after, same⟩
    refine ⟨after, fun rest => ?_⟩
    rw [List.cons_append, drawnFrom, if_neg started, if_pos dropped, same]
  | case4 glyph text started kept ih =>
    rcases ih with ⟨after, same⟩
    refine ⟨after, fun rest => ?_⟩
    rw [List.cons_append, drawnFrom, if_neg started, if_neg kept, same, List.cons_append]
  | case5 state glyph text inside fed ih =>
    rcases ih with ⟨after, same⟩
    refine ⟨after, fun rest => ?_⟩
    rw [List.cons_append, drawnFrom.eq_3 _ _ _ inside, same, List.append_assoc]

/-- Outside every sequence, a text that starts none is drawn but for its control characters. -/
theorem drawnFrom_ground_append {text : List Char} (plain : '\x1b' ∉ text) (rest : List Char) :
    drawnFrom .ground (text ++ rest) =
      text.filter (fun glyph => !isDroppedControl glyph) ++ drawnFrom .ground rest := by
  induction text with
  | nil => rfl
  | cons glyph text ih =>
    have other : glyph ≠ '\x1b' := fun same => plain (same ▸ List.mem_cons_self)
    have later := ih fun member => plain (List.mem_cons_of_mem _ member)
    rw [List.cons_append, drawnFrom, if_neg other, later]
    by_cases dropped : isDroppedControl glyph = true
    · rw [if_pos dropped, List.filter_cons_of_neg (by rw [dropped]; decide)]
    · rw [if_neg dropped, List.filter_cons_of_pos (by rw [Bool.eq_false_iff.2 dropped]; rfl),
        List.cons_append]

/-! ## White space -/

def whiteSpaces : List Char :=
  Unicode.whiteSpaceRanges.flatMap fun range =>
    (List.range' range.1 (range.2 + 1 - range.1)).map Char.ofNat

theorem mem_whiteSpaces {glyph : Char} (white : Unicode.isWhiteSpace glyph = true) :
    glyph ∈ whiteSpaces := by
  rcases (Unicode.isIn_iff _ _).1 white with ⟨range, listed, lower, upper⟩
  refine List.mem_flatMap.2 ⟨range, listed, List.mem_map.2 ⟨glyph.toNat, ?_, ?_⟩⟩
  · rw [List.mem_range'_1]
    omega
  · exact Char.ofNat_toNat glyph

/-- Inside a sequence white space draws nothing, and the sequence goes on. -/
theorem EscapeState.feedAll_whiteSpace {state : EscapeState} (inside : state ≠ .ground)
    {glyph : Char} (white : Unicode.isWhiteSpace glyph = true) (other : glyph ≠ '\n') :
    (state.feedAll (String.utf8EncodeChar glyph)).1 ≠ .ground ∧
      (state.feedAll (String.utf8EncodeChar glyph)).2 = [] := by
  have checked : ∀ state : EscapeState, state ≠ .ground → whiteSpaces.all (fun glyph =>
      decide (glyph ≠ '\n' → (state.feedAll (String.utf8EncodeChar glyph)).1 ≠ .ground ∧
        (state.feedAll (String.utf8EncodeChar glyph)).2 = [])) = true := by
    intro state
    cases state <;> decide +kernel
  exact of_decide_eq_true (List.all_eq_true.1 (checked state inside) glyph (mem_whiteSpaces white))
    other

theorem drawnFrom_whiteSpace {state : EscapeState} (inside : state ≠ .ground) {space : List Char}
    (white : ∀ glyph ∈ space, Unicode.isWhiteSpace glyph = true ∧ glyph ≠ '\n') :
    drawnFrom state space = [] := by
  induction space generalizing state with
  | nil => rw [drawnFrom]
  | cons glyph space ih =>
    rw [List.forall_mem_cons] at white
    have fed := EscapeState.feedAll_whiteSpace inside white.1.1 white.1.2
    rw [drawnFrom.eq_3 _ _ _ inside, fed.2, ih fed.1 white.2]
    rfl

/-- White space starts no sequence. -/
theorem escape_not_mem {space : List Char}
    (white : ∀ glyph ∈ space, Unicode.isWhiteSpace glyph = true) : '\x1b' ∉ space := by
  intro member
  have known := white _ member
  revert known
  decide

/-- White space around a text adds at most itself to what is drawn of the text. -/
theorem withoutEscapes_padded {left right : List Char} (text : List Char)
    (before : ∀ glyph ∈ left, Unicode.isWhiteSpace glyph = true)
    (behind : ∀ glyph ∈ right, Unicode.isWhiteSpace glyph = true ∧ glyph ≠ '\n') :
    ∃ front ⊆ left, ∃ back ⊆ right,
      withoutEscapes (left ++ text ++ right) = front ++ withoutEscapes text ++ back := by
  rcases exists_drawnFrom_append .ground text with ⟨after, same⟩
  have split : withoutEscapes (left ++ text ++ right) =
      left.filter (fun glyph => !isDroppedControl glyph) ++ withoutEscapes text ++
        drawnFrom after right := by
    unfold withoutEscapes
    rw [List.append_assoc, drawnFrom_ground_append (escape_not_mem before), same, List.append_assoc]
  refine ⟨_, List.filter_sublist.subset, drawnFrom after right, ?_, split⟩
  by_cases outside : after = .ground
  · have plain := drawnFrom_ground_append (escape_not_mem fun glyph member => (behind glyph member).1) []
    rw [List.append_nil, drawnFrom, List.append_nil] at plain
    rw [outside, plain]
    exact List.filter_sublist.subset
  · rw [drawnFrom_whiteSpace outside behind]
    exact List.nil_subset _

/-- A carriage return at the end of a text is not drawn, in whatever state it is met. -/
theorem withoutEscapes_append_return (text : List Char) :
    withoutEscapes (text ++ ['\r']) = withoutEscapes text := by
  rcases exists_drawnFrom_append .ground text with ⟨after, same⟩
  have undrawn : drawnFrom after ['\r'] = [] := by
    cases after <;> decide +kernel
  unfold withoutEscapes
  rw [same, undrawn, List.append_nil]

end Text
end Mosaic
