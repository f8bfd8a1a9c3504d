import Mosaic.Canvas.Recorder
import Mosaic.Proofs.Program.Replay

/-!
# Where a program stops

A statement makes at most one call, and only after all that can be wrong with it
has been looked at.  So a run that stops at a statement has made the calls of the
lines before it, and no others.  The line to blame is the one just read or, for a
block, the first line of the block; lines inside a block make no calls, so what was
recorded before the block was opened is still all there is.  A block that is never
closed is to blame in the same way, although no line of it is refused.
-/

namespace Mosaic

variable {σ Figure Grid Axis β γ : Type}

/-! ## Records of calls -/

/-- A refused call leaves the record as it was, and its fault blames no statement. -/
def RefusesUnrecorded (record : σ → γ) (call : EStateM Fault σ β) : Prop :=
  ∀ state fault after, call state = .error fault after →
    record after = record state ∧ ∀ line cause, fault ≠ .statement line cause

/-- A canvas with a record of its calls, in which refused calls are missing. -/
structure Canvas.Records (canvas : Canvas Float σ Figure Grid Axis) (record : σ → γ) : Prop where
  figure : ∀ size dpi, RefusesUnrecorded record (canvas.figure size dpi)
  grid : ∀ figure parent request, RefusesUnrecorded record (canvas.grid figure parent request)
  axis : ∀ figure parent, RefusesUnrecorded record (canvas.axis figure parent)

theorem Canvas.records_recorder {refusal : Option Refusal}
    (own : ∀ refused, refusal = some refused →
      ∀ line cause, refused.fault ≠ .statement line cause) :
    (Canvas.recorder Float refusal).Records id := by
  have call (made : CanvasCall Float) : RefusesUnrecorded id (recordCall refusal made) := by
    intro state fault after stopped
    cases refusal with
    | none => cases stopped
    | some refused =>
      have known := own refused rfl
      change (if refused.call = state.length then throw refused.fault else _ :
        EStateM Fault (List (CanvasCall Float)) Nat) state = _ at stopped
      by_cases here : refused.call = state.length
      · rw [if_pos here] at stopped
        cases stopped
        exact ⟨rfl, known⟩
      · rw [if_neg here] at stopped
        cases stopped
  exact ⟨fun _ _ => call _, fun _ _ _ => call _, fun _ _ => call _⟩

namespace Program
namespace Replay

/-- Line `number` is to blame for how the reading of some lines ended. -/
inductive Blames (number : Nat) : EStateM.Result Fault (Replay σ Figure Grid Axis) Unit → Prop
  | fault {cause : StatementFault} {after : Replay σ Figure Grid Axis} :
      Blames number (.error (.statement number cause) after)
  | opened {block : GridBlock} {after : Replay σ Figure Grid Axis}
      (unclosed : after.block = some (number, block)) : Blames number (.ok () after)

/-- The canvas when lines were read, or when the reading stopped. -/
def canvasOf : EStateM.Result Fault (Replay σ Figure Grid Axis) Unit → σ
  | .ok _ after => after.drawing.canvas
  | .error _ after => after.drawing.canvas

variable {canvas : Canvas Float σ Figure Grid Axis} {record : σ → γ} {number : Nat}

/-! ## Statements -/

/-- A fault that is blamed on a line, and blames no statement by itself. -/
theorem eq_of_blamed {line : Nat} {fault : Fault} {cause : StatementFault}
    (own : ∀ line cause, fault ≠ .statement line cause)
    (same : blamed line fault = .statement number cause) : number = line := by
  cases fault with
  | canvas reason =>
    cases same
    rfl
  | statement other reason => exact absurd rfl (own other reason)
  | _ => cases same

/-- A line is to blame for a fault only if the fault says so. -/
theorem Blames.statement {fault : Fault} {after : Replay σ Figure Grid Axis}
    (blames : Blames number (.error fault after)) : ∃ cause, fault = .statement number cause := by
  cases blames with
  | fault => exact ⟨_, rfl⟩

/-- A slot is looked up among the grids made so far, and nothing changes. -/
theorem parent_eq (slot : Slot) (drawing : Drawing σ Grid Axis) :
    Drawing.parent slot drawing =
      match parentOf? drawing.grids slot with
      | .error cause => .error (.canvas cause) drawing
      | .ok parent => .ok parent drawing := by
  unfold Drawing.parent
  change EStateM.bind EStateM.get _ drawing = _
  unfold EStateM.bind EStateM.get
  dsimp only
  cases parentOf? drawing.grids slot <;> rfl

/-- Placing something in a slot and keeping it: the slot is looked up before the
call is made. -/
theorem placing_eq (slot : Slot) (call : Option (Grid × Nat) → EStateM Fault σ β)
    (keep : β → Drawing σ Grid Axis → Drawing σ Grid Axis) (drawing : Drawing σ Grid Axis) :
    (do
        let parent ← Drawing.parent slot
        let made ← Drawing.call (call parent)
        modify (keep made) : EStateM Fault (Drawing σ Grid Axis) Unit) drawing =
      match parentOf? drawing.grids slot with
      | .error cause => .error (.canvas cause) drawing
      | .ok parent =>
        match call parent drawing.canvas with
        | .ok made after => .ok () (keep made { drawing with canvas := after })
        | .error fault after => .error fault { drawing with canvas := after } := by
  change EStateM.bind _ _ _ = _
  unfold EStateM.bind
  rw [parent_eq]
  cases parentOf? drawing.grids slot with
  | error cause => rfl
  | ok parent =>
    dsimp only
    change EStateM.bind (Drawing.call (call parent)) _ drawing = _
    unfold EStateM.bind Drawing.call
    cases call parent drawing.canvas with
    | ok made after => rfl
    | error fault after => rfl

/-- When a line is to blame for how this ended, it is this line, and nothing was
recorded since this drawing. -/
def BlamesOnly (record : σ → γ) (line : Nat) (drawing : Drawing σ Grid Axis)
    (outcome : EStateM.Result Fault (Replay σ Figure Grid Axis) Unit) : Prop :=
  ∀ number, Blames number outcome →
    number = line ∧ record (canvasOf outcome) = record drawing.canvas

theorem blamesOnly_fault (record : σ → γ) (line : Nat) (cause : StatementFault)
    (drawing : Drawing σ Grid Axis) (figure : Option Figure) (block : Option (Nat × GridBlock)) :
    BlamesOnly record line drawing
      (.error (.statement line cause) (⟨drawing, figure, block⟩ : Replay σ Figure Grid Axis)) := by
  intro number blames
  cases blames
  exact ⟨rfl, rfl⟩

theorem blamesOnly_placing {line : Nat} {slot : Slot}
    {call : Option (Grid × Nat) → EStateM Fault σ β}
    {keep : β → Drawing σ Grid Axis → Drawing σ Grid Axis} {drawing : Drawing σ Grid Axis}
    {figure : Option Figure} (refuses : ∀ parent, RefusesUnrecorded record (call parent)) :
    BlamesOnly record line drawing
      (forStatement line (do
          let parent ← Drawing.parent slot
          let made ← Drawing.call (call parent)
          modify (keep made))
        (⟨drawing, figure, none⟩ : Replay σ Figure Grid Axis)) := by
  rw [forStatement_eq, placing_eq]
  cases parentOf? drawing.grids slot with
  | error cause => exact blamesOnly_fault record line _ drawing figure none
  | ok parent =>
    dsimp only
    cases called : call parent drawing.canvas with
    | ok made after =>
      intro number blames
      cases blames with
      | opened unclosed => cases unclosed
    | error fault after =>
      rcases refuses parent drawing.canvas fault after called with ⟨unrecorded, own⟩
      intro number blames
      rcases blames.statement with ⟨cause, same⟩
      exact ⟨eq_of_blamed own same, unrecorded⟩

theorem blamesOnly_makeGrid (records : canvas.Records record) (line : Nat) (block : GridBlock)
    (drawing : Drawing σ Grid Axis) (figure : Option Figure) :
    BlamesOnly record line drawing (makeGrid canvas line block ⟨drawing, figure, none⟩) := by
  unfold makeGrid
  cases block.finish with
  | error cause => exact blamesOnly_fault record line cause drawing figure none
  | ok requested =>
    cases figure with
    | none => exact blamesOnly_fault record line .noFigure drawing none none
    | some figure => exact blamesOnly_placing fun parent => records.grid figure parent requested.1

theorem blamesOnly_makeAxis (records : canvas.Records record) (line : Nat) (label : Char)
    (slot : Slot) (drawing : Drawing σ Grid Axis) (figure : Option Figure) :
    BlamesOnly record line drawing (makeAxis canvas line label slot ⟨drawing, figure, none⟩) := by
  unfold makeAxis
  cases figure with
  | none => exact blamesOnly_fault record line .noFigure drawing none none
  | some figure => exact blamesOnly_placing fun parent => records.axis figure parent

/-- Making a figure leaves no block open, and hands on the faults of the canvas as they are. -/
theorem blamesOnly_makeFigure (records : canvas.Records record) (line : Nat)
    (size : FigureSize Float) (dpi : Float) (drawing : Drawing σ Grid Axis)
    (figure : Option Figure) :
    BlamesOnly record line drawing (makeFigure canvas size dpi ⟨drawing, figure, none⟩) := by
  rw [makeFigure_eq]
  cases called : canvas.figure size dpi drawing.canvas with
  | ok made after =>
    intro number blames
    cases blames with
    | opened unclosed => cases unclosed
  | error fault after =>
    rcases records.figure size dpi drawing.canvas fault after called with ⟨unrecorded, own⟩
    intro number blames
    rcases blames.statement with ⟨cause, same⟩
    exact absurd same (own number cause)

theorem blamesOnly_carryOut (records : canvas.Records record) (line : Nat)
    (statement : Statement) (drawing : Drawing σ Grid Axis) (figure : Option Figure) :
    BlamesOnly record line drawing (carryOut canvas line statement ⟨drawing, figure, none⟩) := by
  cases statement with
  | nothing =>
    intro number blames
    cases blames with
    | opened unclosed => cases unclosed
  | figure size dpi => exact blamesOnly_makeFigure records line size dpi drawing figure
  | openGrid id =>
    intro number blames
    cases blames with
    | opened unclosed =>
      cases unclosed
      exact ⟨rfl, rfl⟩
  | axis label slot => exact blamesOnly_makeAxis records line label slot drawing figure

/-! ## Lines -/

/-- When a line is to blame after one more line was read, it is that line or the
first one of the block that was open, and nothing was recorded. -/
theorem blames_readLine (records : canvas.Records record) {line : Nat} {raw : List Char}
    {before : Replay σ Figure Grid Axis}
    (blames : Blames number (readLine canvas line raw before)) :
    (number = line ∨ ∃ block, before.block = some (number, block)) ∧
      record (canvasOf (readLine canvas line raw before)) = record before.drawing.canvas := by
  rcases before with ⟨drawing, figure, block⟩
  cases block with
  | none =>
    have only : BlamesOnly record line drawing
        (readLine canvas line raw ⟨drawing, figure, none⟩) := by
      change BlamesOnly record line drawing
        ((expect line (readStatement raw) >>= carryOut canvas line) _)
      cases readStatement raw with
      | error cause => exact blamesOnly_fault record line cause drawing figure none
      | ok statement => exact blamesOnly_carryOut records line statement drawing figure
    rcases only number blames with ⟨here, unrecorded⟩
    exact ⟨Or.inl here, unrecorded⟩
  | some opened =>
    rcases opened with ⟨first, block⟩
    rw [readLine_inBlock] at blames ⊢
    by_cases closing : Text.trim raw = [')']
    · rw [if_pos closing] at blames ⊢
      rcases blamesOnly_makeGrid records first block drawing figure number blames with
        ⟨same, unrecorded⟩
      exact ⟨Or.inr ⟨block, congrArg (fun number => some (number, block)) same.symm⟩, unrecorded⟩
    · rw [if_neg closing] at blames ⊢
      cases taken : block.takeLine (Text.trim raw) with
      | ok grown =>
        rw [taken] at blames
        cases blames with
        | opened unclosed =>
          cases unclosed
          exact ⟨Or.inr ⟨block, rfl⟩, rfl⟩
      | error cause =>
        rw [taken] at blames
        cases blames
        exact ⟨Or.inl rfl, rfl⟩

/-- When a line is to blame after several lines were read, either its block was open
before them and nothing was recorded, or it is one of them, and everything was
recorded by the lines before it. -/
theorem blames_readLines (records : canvas.Records record) {line : Nat} {raws : List (List Char)}
    {before : Replay σ Figure Grid Axis}
    (blames : Blames number (readLines canvas line raws before)) :
    ((∃ block, before.block = some (number, block)) ∧
        record (canvasOf (readLines canvas line raws before)) = record before.drawing.canvas) ∨
      ∃ front back reached, raws = front ++ back ∧ back ≠ [] ∧ number = line + front.length ∧
        readLines canvas line front before = .ok () reached ∧
        record (canvasOf (readLines canvas line raws before)) = record reached.drawing.canvas := by
  induction raws generalizing line before with
  | nil =>
    cases blames with
    | opened unclosed => exact Or.inl ⟨⟨_, unclosed⟩, rfl⟩
  | cons raw raws ih =>
    cases here : readLine canvas line raw before with
    | error fault after =>
      have stopped : readLines canvas line (raw :: raws) before =
          readLine canvas line raw before := by
        rw [here]
        exact readLines_cons_of_error here raws
      rw [stopped] at blames ⊢
      rcases blames_readLine records blames with ⟨same | opened, unrecorded⟩
      · exact Or.inr ⟨[], raw :: raws, before, rfl, List.cons_ne_nil _ _, same, rfl, unrecorded⟩
      · exact Or.inl ⟨opened, unrecorded⟩
    | ok nothing between =>
      rw [readLines_cons_of_ok here] at blames ⊢
      rcases ih blames with ⟨⟨block, opened⟩, unrecorded⟩ |
        ⟨front, back, reached, whole, some, same, run, unrecorded⟩
      · have own := blames_readLine records (here ▸ Blames.opened opened)
        rw [here] at own
        rcases own with ⟨first | earlier, kept⟩
        · exact Or.inr ⟨[], raw :: raws, before, rfl, List.cons_ne_nil _ _, first, rfl,
            unrecorded.trans kept⟩
        · exact Or.inl ⟨earlier, unrecorded.trans kept⟩
      · refine Or.inr ⟨raw :: front, back, reached, ?_, some, ?_, ?_, unrecorded⟩
        · rw [whole, List.cons_append]
        · rw [same, List.length_cons, Nat.add_assoc, Nat.add_comm 1]
        · exact (readLines_cons_of_ok here front).trans run

/-! ## Programs -/

/-- The canvas when a program was carried out, or when it stopped. -/
def canvasAfter (canvas : Canvas Float σ Figure Grid Axis) (source : List Char) (state : σ) : σ :=
  match replay source canvas state with
  | .ok _ after => after
  | .error _ after => after

theorem canvasAfter_eq (canvas : Canvas Float σ Figure Grid Axis) (source : List Char)
    (state : σ) :
    canvasAfter canvas source state =
      canvasOf (readLines canvas 1 (Text.lines source) (start state)) := by
  unfold canvasAfter replay
  cases readLines canvas 1 (Text.lines source) (start state) with
  | error fault after => rfl
  | ok nothing after =>
    dsimp only
    cases after.result with
    | ok bundle => rfl
    | error fault => rfl

/-- A program that stops at a statement blames the line that its lines blame. -/
theorem blames_of_replay {source : List Char} {state after : σ} {cause : StatementFault}
    (stopped : replay source canvas state = .error (.statement number cause) after) :
    Blames number (readLines canvas 1 (Text.lines source) (start state)) := by
  cases replay_eq_error_iff.1 stopped with
  | line refused =>
    rw [refused]
    exact .fault
  | openBlock read =>
    rw [read]
    exact .opened rfl

/-- When a program stops at a statement, the statement has a line of the program,
and what was recorded is what the lines before that line record by themselves. -/
theorem replay_stops_before_statement (records : canvas.Records record) {source : List Char}
    {state after : σ} {line : Nat} {cause : StatementFault}
    (stopped : replay source canvas state = .error (.statement line cause) after) :
    1 ≤ line ∧ line ≤ (Text.lines source).length ∧
      Text.lines (Text.firstLines (line - 1) source) = (Text.lines source).take (line - 1) ∧
      ∀ front, Text.lines front = (Text.lines source).take (line - 1) →
        record (canvasAfter canvas front state) = record after := by
  have ended : canvasAfter canvas source state = after := by
    unfold canvasAfter
    rw [stopped]
  rw [canvasAfter_eq] at ended
  rcases blames_readLines records (blames_of_replay stopped) with ⟨⟨block, opened⟩, -⟩ |
    ⟨front, back, reached, whole, some, same, run, unrecorded⟩
  · cases opened
  · have before : (Text.lines source).take (line - 1) = front := by
      rw [whole, same, Nat.add_sub_cancel_left, List.take_left]
    have inside : 0 < back.length := List.length_pos_of_ne_nil some
    refine ⟨by omega, ?_, Text.lines_firstLines _ _, ?_⟩
    · rw [whole, List.length_append]
      omega
    · intro other lines
      rw [canvasAfter_eq, lines, before, run, ← ended, unrecorded]
      rfl

/-! ## A program that stops -/

/-- A program whose third statement starts on its third line and ends on its last. -/
def threeStatements : String :=
  textOfLines
    ["fig = plt.figure(figsize=(4.0, 2.0), dpi=96.0)",
      "axes[\"ax_A\"] = fig.add_subplot(1, 1, 1)",
      "gridspecs[\"gs_BC\"] = mpl.gridspec.GridSpec(",
      "    figure=fig,",
      "    nrows=1,",
      "    ncols=2,",
      "    height_ratios=[1],",
      "    width_ratios=[1, 1],",
      ")"]

private theorem eq_error_of_some {outcome : EStateM.Result Fault σ β} {fault : Fault} {after : σ}
    (same : (match outcome with
      | .ok _ _ => none
      | .error fault after => some (fault, after)) = some (fault, after)) :
    outcome = .error fault after := by
  cases outcome with
  | ok value after => cases same
  | error fault after =>
    cases same
    rfl

theorem replay_stops_before_statement_third :
    (∀ refused, some (Refusal.byCanvas 2) = some refused →
        ∀ line cause, refused.fault ≠ .statement line cause) ∧
      replay threeStatements.toList (Canvas.recorder Float (some (.byCanvas 2))) [] =
        .error (.statement 3 (.canvas (.refused "call 2 refused")))
          [.figure ⟨4, 2⟩ 96, .axis 0 none] ∧
      canvasAfter (Canvas.recorder Float (some (.byCanvas 2)))
        (Text.firstLines 2 threeStatements.toList) [] = [.figure ⟨4, 2⟩ 96, .axis 0 none] := by
  have own : ∀ refused, some (Refusal.byCanvas 2) = some refused →
      ∀ line cause, refused.fault ≠ .statement line cause := by
    intro refused same line cause
    cases same
    exact Fault.noConfusion
  have stopped : replay threeStatements.toList (Canvas.recorder Float (some (.byCanvas 2))) [] =
      .error (.statement 3 (.canvas (.refused "call 2 refused")))
        [.figure ⟨4, 2⟩ 96, .axis 0 none] := eq_error_of_some (by decide +kernel)
  rcases replay_stops_before_statement (Canvas.records_recorder own) stopped with
    ⟨-, -, first, alone⟩
  have known := alone (Text.firstLines 2 threeStatements.toList) first
  rw [id, id] at known
  exact ⟨own, stopped, known⟩

end Replay
end Program
end Mosaic
