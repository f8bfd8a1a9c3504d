import Mosaic.Proofs.Canvas.Answers
import Mosaic.Proofs.Canvas.Traced
import Mosaic.Proofs.Program.Stopping
import Mosaic.Proofs.Table

/-!
# The calls of a program and what they go back to

The statements of a program can be read without a canvas.  A run makes one call for each
statement that makes something, from the first one on.  Its history are the calls that
were answered, each with its statement.

All that a run keeps is a view of this history: the figure to draw on is the latest one,
and a name stands for the grid of the latest statement under that name.  Every line keeps
this so.  Hence whatever is handed to a canvas was issued by it in the same run, however
often figures and names are used again.
-/

namespace Mosaic

variable {σ Figure Grid Axis β γ : Type}

def AnsweredCall.asked : AnsweredCall Float Figure Grid Axis → TracedCall Figure Grid
  | .figure size dpi _ => .figure size dpi
  | .grid drawn parent request _ => .grid drawn parent request
  | .axis drawn parent _ => .axis drawn parent

/-- Does the canvas refuse a call with this fault? -/
inductive Canvas.Refuses (canvas : Canvas Float σ Figure Grid Axis) :
    σ → TracedCall Figure Grid → Fault → σ → Prop
  | figure {before after : σ} {size : FigureSize Float} {dpi : Float} {fault : Fault}
      (called : canvas.figure size dpi before = .error fault after) :
      Refuses canvas before (.figure size dpi) fault after
  | grid {before after : σ} {figure : Figure} {parent : Option (Grid × Nat)}
      {request : GridRequest Float} {fault : Fault}
      (called : canvas.grid figure parent request before = .error fault after) :
      Refuses canvas before (.grid figure parent request) fault after
  | axis {before after : σ} {figure : Figure} {parent : Option (Grid × Nat)} {fault : Fault}
      (called : canvas.axis figure parent before = .error fault after) :
      Refuses canvas before (.axis figure parent) fault after

namespace Program

/-! ## Statements without a canvas -/

/-- A whole statement that makes something. -/
inductive Making where
  | figure (size : FigureSize Float) (dpi : Float)
  | grid (id : String) (slot : Slot) (request : GridRequest Float)
  | axis (label : Char) (slot : Slot)

/-- What one more line comes to when this block is open: the statement that it ends, and
the block that is open after it. -/
def readOn (block : Option GridBlock) (raw : List Char) :
    Except StatementFault (Option Making × Option GridBlock) :=
  match block with
  | some block =>
    if Text.trim raw = [')'] then do
      let (request, slot) ← block.finish
      return (some (.grid block.id slot request), none)
    else do
      let grown ← block.takeLine (Text.trim raw)
      return (none, some grown)
  | none => do
    match ← readStatement raw with
    | .nothing => return (none, none)
    | .figure size dpi => return (some (.figure size dpi), none)
    | .openGrid id => return (none, some (.opened id))
    | .axis label slot => return (some (.axis label slot), none)

/-- The statements that end in these lines, up to the first line that is not understood. -/
def makingsFrom (block : Option GridBlock) : List (List Char) → List Making
  | [] => []
  | raw :: raws =>
    match readOn block raw with
    | .error _ => []
    | .ok (making, next) => making.toList ++ makingsFrom next raws

/-- The statements of a program that make something. -/
def makings (source : List Char) : List Making :=
  makingsFrom none (Text.lines source)

/-! ## Histories -/

/-- The calls that were answered, each with the statement it was made for. -/
abbrev History (Figure Grid Axis : Type) : Type :=
  List (Making × AnsweredCall Float Figure Grid Axis)

namespace History

/-- The last thing of some kind that was made. -/
def latest? (history : History Figure Grid Axis)
    (made? : Making × AnsweredCall Float Figure Grid Axis → Option β) : Option β :=
  history.reverse.findSome? made?

theorem latest?_concat (history : History Figure Grid Axis)
    (made? : Making × AnsweredCall Float Figure Grid Axis → Option β)
    (entry : Making × AnsweredCall Float Figure Grid Axis) :
    latest? (history ++ [entry]) made? = (made? entry).or (history.latest? made?) := by
  unfold latest?
  rw [List.reverse_append, List.reverse_singleton, List.singleton_append, List.findSome?_cons]
  cases made? entry <;> rfl

/-- The figure that was made. -/
def figureMade? : Making × AnsweredCall Float Figure Grid Axis → Option Figure
  | (_, .figure _ _ made) => some made
  | _ => none

def gridMade? (id : String) : Making × AnsweredCall Float Figure Grid Axis → Option Grid
  | (.grid name _ _, .grid _ _ _ made) => if name = id then some made else none
  | _ => none

def axisMade? (label : Char) : Making × AnsweredCall Float Figure Grid Axis → Option Axis
  | (.axis name _, .axis _ _ made) => if name = label then some made else none
  | _ => none

/-- The latest figure. -/
def figure? (history : History Figure Grid Axis) : Option Figure :=
  history.latest? figureMade?

/-- The grid of the latest block under this name. -/
def grid? (history : History Figure Grid Axis) (id : String) : Option Grid :=
  history.latest? (gridMade? id)

/-- The latest axis under this label. -/
def axis? (history : History Figure Grid Axis) (label : Char) : Option Axis :=
  history.latest? (axisMade? label)

theorem figure?_concat (history : History Figure Grid Axis)
    (entry : Making × AnsweredCall Float Figure Grid Axis) :
    figure? (history ++ [entry]) = (figureMade? entry).or history.figure? :=
  history.latest?_concat figureMade? entry

theorem grid?_concat (history : History Figure Grid Axis)
    (entry : Making × AnsweredCall Float Figure Grid Axis) (id : String) :
    grid? (history ++ [entry]) id = (gridMade? id entry).or (history.grid? id) :=
  history.latest?_concat (gridMade? id) entry

theorem axis?_concat (history : History Figure Grid Axis)
    (entry : Making × AnsweredCall Float Figure Grid Axis) (label : Char) :
    axis? (history ++ [entry]) label = (axisMade? label entry).or (history.axis? label) :=
  history.latest?_concat (axisMade? label) entry

/-- A parent is the figure itself, or the latest grid under the name that is referred to. -/
inductive Places (history : History Figure Grid Axis) : Slot → Option (Grid × Nat) → Prop
  | figure : Places history .figure none
  | cell {id : String} {index : Nat} {grid : Grid} (built : history.grid? id = some grid) :
      Places history (.cell id index) (some (grid, index))

/-- The call that a statement stands for, after this history. -/
inductive Suits (history : History Figure Grid Axis) : Making → TracedCall Figure Grid → Prop
  | figure {size : FigureSize Float} {dpi : Float} :
      Suits history (.figure size dpi) (.figure size dpi)
  | grid {id : String} {slot : Slot} {request : GridRequest Float} {figure : Figure}
      {parent : Option (Grid × Nat)} (current : history.figure? = some figure)
      (placed : history.Places slot parent) :
      Suits history (.grid id slot request) (.grid figure parent request)
  | axis {label : Char} {slot : Slot} {figure : Figure} {parent : Option (Grid × Nat)}
      (current : history.figure? = some figure) (placed : history.Places slot parent) :
      Suits history (.axis label slot) (.axis figure parent)

/-- Every call is the one that its statement stands for after the calls before it. -/
def Faithful (history : History Figure Grid Axis) : Prop :=
  ∀ earlier entry later, history = earlier ++ entry :: later →
    Suits earlier entry.1 entry.2.asked

theorem faithful_nil : Faithful ([] : History Figure Grid Axis) := by
  intro earlier entry later same
  cases earlier <;> cases same

theorem Faithful.concat {history : History Figure Grid Axis}
    {entry : Making × AnsweredCall Float Figure Grid Axis} (faithful : history.Faithful)
    (suits : history.Suits entry.1 entry.2.asked) : Faithful (history ++ [entry]) := by
  intro earlier other later same
  rcases List.eq_nil_or_concat later with rfl | ⟨between, last, rfl⟩
  · rcases List.append_inj' same rfl with ⟨rfl, own⟩
    cases own
    exact suits
  · rw [List.concat_eq_append, ← List.cons_append, ← List.append_assoc] at same
    exact faithful earlier other between (List.append_inj' same rfl).1

end History

/-! ## Faults of the text -/

/-- Reading that blames no canvas. -/
def BlamesText (read : Except StatementFault β) : Prop :=
  ∀ reason, read ≠ .error (.canvas reason)

theorem blamesText_ok (value : β) : BlamesText (.ok value) :=
  fun _ same => nomatch same

theorem blamesText_about {fault : String → StatementFault}
    (plain : ∀ text reason, fault text ≠ .canvas reason) (text : List Char) :
    BlamesText (faultAbout fault text : Except StatementFault β) :=
  fun reason same => plain (String.ofList text) reason (Except.error.inj same)

theorem blamesText_foundOr {fault : String → StatementFault}
    (plain : ∀ text reason, fault text ≠ .canvas reason) (text : List Char) (found : Option β) :
    BlamesText (foundOr fault text found) := by
  cases found with
  | some value => exact blamesText_ok value
  | none => exact blamesText_about plain text

theorem BlamesText.bind {read : Except StatementFault β} {next : β → Except StatementFault γ}
    (first : BlamesText read) (later : ∀ value, BlamesText (next value)) :
    BlamesText (read >>= next) := by
  cases read with
  | error cause => exact fun reason same => first reason (congrArg Except.error (Except.error.inj same))
  | ok value => exact later value

theorem BlamesText.ite {condition : Prop} [Decidable condition]
    {one other : Except StatementFault β} (first : BlamesText one) (second : BlamesText other) :
    BlamesText (if condition then one else other) := by
  split
  · exact first
  · exact second

theorem blamesText_readCount (text : List Char) : BlamesText (readCount text) :=
  blamesText_foundOr (fun _ _ => StatementFault.noConfusion) _ _

theorem blamesText_readReal (text : List Char) : BlamesText (readReal text) :=
  blamesText_foundOr (fun _ _ => StatementFault.noConfusion) _ _

theorem blamesText_readCounts (texts : List (List Char)) : BlamesText (readCounts texts) := by
  induction texts with
  | nil => exact blamesText_ok []
  | cons text texts ih =>
    exact (blamesText_readCount text).bind fun count => ih.bind fun counts => blamesText_ok _

theorem blamesText_readRatios (text : List Char) : BlamesText (readRatios text) :=
  (blamesText_foundOr (fun _ _ => StatementFault.noConfusion) _ _).bind
    fun _ => blamesText_readCounts _

theorem blamesText_readCell (text : List Char) : BlamesText (readCell text) :=
  (blamesText_foundOr (fun _ _ => StatementFault.noConfusion) _ _).bind
    fun _ => (blamesText_readCount _).bind fun _ => blamesText_ok _

theorem blamesText_readFigure (call : List Char) : BlamesText (readFigure call) :=
  (blamesText_foundOr (fun _ _ => StatementFault.noConfusion) _ _).bind
    fun _ => (blamesText_readReal _).bind fun _ => (blamesText_readReal _).bind
      fun _ => (blamesText_readReal _).bind fun _ => blamesText_ok _

theorem blamesText_readGridOpening (text : List Char) : BlamesText (readGridOpening text) :=
  (blamesText_foundOr (fun _ _ => StatementFault.noConfusion) _ _).bind fun _ =>
    .ite (blamesText_ok _) (blamesText_about (fun _ _ => StatementFault.noConfusion) _)

theorem blamesText_readTarget (target : List Char) : BlamesText (readTarget target) :=
  .ite (blamesText_ok _) (blamesText_readCell target)

theorem blamesText_readAxis (text : List Char) : BlamesText (readAxis text) :=
  (blamesText_foundOr (fun _ _ => StatementFault.noConfusion) _ _).bind fun _ =>
    (blamesText_foundOr (fun _ _ => StatementFault.noConfusion) _ _).bind fun _ =>
      (blamesText_foundOr (fun _ _ => StatementFault.noConfusion) _ _).bind fun _ =>
        (blamesText_readTarget _).bind fun _ => blamesText_ok _

theorem blamesText_readStatement (raw : List Char) : BlamesText (readStatement raw) := by
  refine .ite (.ite (blamesText_ok _) (blamesText_about (fun _ _ => StatementFault.noConfusion) _))
    (.ite (blamesText_ok _) ?_)
  split
  · exact blamesText_readFigure _
  · split
    · exact blamesText_readGridOpening _
    · split
      · exact blamesText_readAxis _
      · exact blamesText_about (fun _ _ => StatementFault.noConfusion) _

namespace GridBlock

variable (block : GridBlock)

theorem blamesText_set (key value : List Char) : BlamesText (block.set key value) := by
  have count := blamesText_readCount value
  have ratios := blamesText_readRatios value
  have real := blamesText_readReal value
  refine .ite (blamesText_ok _) (.ite ((blamesText_readCell value).bind fun _ => blamesText_ok _) ?_)
  refine .ite (count.bind fun _ => blamesText_ok _) (.ite (count.bind fun _ => blamesText_ok _) ?_)
  refine .ite (ratios.bind fun _ => blamesText_ok _) (.ite (ratios.bind fun _ => blamesText_ok _) ?_)
  refine .ite (real.bind fun _ => blamesText_ok _) (.ite (real.bind fun _ => blamesText_ok _) ?_)
  exact fun _ same => nomatch same

theorem blamesText_takeLine (line : List Char) : BlamesText (block.takeLine line) :=
  (blamesText_foundOr (fun _ _ => StatementFault.noConfusion) _ _).bind
    fun _ => block.blamesText_set _ _

theorem blamesText_require (key : String) (given : Option β) :
    BlamesText (block.require key given) := by
  cases given with
  | some value => exact blamesText_ok value
  | none => exact fun _ same => nomatch same

theorem blamesText_finish : BlamesText block.finish :=
  (block.blamesText_require _ _).bind fun _ => (block.blamesText_require _ _).bind fun _ =>
    (block.blamesText_require _ _).bind fun _ => (block.blamesText_require _ _).bind fun _ =>
      (block.blamesText_require _ _).bind fun _ => blamesText_ok _

end GridBlock

namespace Replay

/-! ## What a run keeps -/

variable {canvas : Canvas Float σ Figure Grid Axis}

/-- All that a run keeps is what its history says. -/
structure Remembers (replay : Replay σ Figure Grid Axis) (history : History Figure Grid Axis) :
    Prop where
  figure : replay.figure = history.figure?
  grids : ∀ id, replay.drawing.grids.get? id = history.grid? id
  axes : ∀ label, replay.drawing.axes.get? label = history.axis? label

theorem remembers_start (state : σ) :
    (start state : Replay σ Figure Grid Axis).Remembers [] :=
  ⟨rfl, fun _ => rfl, fun _ => rfl⟩

/-- A slot that is found stands for a grid of the history. -/
theorem Remembers.places {replay : Replay σ Figure Grid Axis} {history : History Figure Grid Axis}
    (remembers : replay.Remembers history) {slot : Slot} {parent : Option (Grid × Nat)}
    (found : parentOf? replay.drawing.grids slot = .ok parent) : history.Places slot parent := by
  cases slot with
  | figure =>
    cases found
    exact .figure
  | cell id index =>
    unfold parentOf? at found
    dsimp only at found
    cases built : replay.drawing.grids.get? id with
    | none =>
      rw [built] at found
      cases found
    | some grid =>
      rw [built] at found
      cases found
      exact .cell ((remembers.grids id).symm.trans built)

/-- A slot that is not found refers to a grid that was not built. -/
theorem exists_unbuiltGrid_of_parentOf? {grids : Table String Grid} {slot : Slot}
    {cause : CanvasFault} (missing : parentOf? grids slot = .error cause) :
    ∃ id, cause = .unbuiltGrid id := by
  cases slot with
  | figure => cases missing
  | cell id index =>
    unfold parentOf? at missing
    dsimp only at missing
    cases built : grids.get? id with
    | none =>
      rw [built] at missing
      cases missing
      exact ⟨id, rfl⟩
    | some grid =>
      rw [built] at missing
      cases missing

/-- A fault that no canvas has reported. -/
def IsOwnFault (cause : StatementFault) : Prop :=
  ∀ reason, cause = .canvas reason → ∃ id, reason = .unbuiltGrid id

/-- How a run ends after the calls of its history, with these statements still ahead.  The
call that was refused, if one was, suits its statement as well. -/
inductive Ending (canvas : Canvas Float σ Figure Grid Axis) (history : History Figure Grid Axis)
    (reached : σ) : List Making → Option (Making × TracedCall Figure Grid) →
      EStateM.Result Fault (Replay σ Figure Grid Axis) Unit → Prop
  | finished {after : Replay σ Figure Grid Axis} (kept : after.drawing.canvas = reached)
      (remembers : after.Remembers history) : Ending canvas history reached [] none (.ok () after)
  | faulty {ahead : List Making} {line : Nat} {cause : StatementFault}
      {after : Replay σ Figure Grid Axis} (kept : after.drawing.canvas = reached)
      (own : IsOwnFault cause) :
      Ending canvas history reached ahead none (.error (.statement line cause) after)
  | refused {making : Making} {ahead : List Making} {call : TracedCall Figure Grid}
      {reason fault : Fault} {after : Replay σ Figure Grid Axis}
      (suits : history.Suits making call)
      (refuses : canvas.Refuses reached call reason after.drawing.canvas)
      (handedOn : fault = reason ∨ ∃ line, fault = blamed line reason) :
      Ending canvas history reached (making :: ahead) (some (making, call)) (.error fault after)

/-- What becomes of one statement after this history. -/
inductive Performed (canvas : Canvas Float σ Figure Grid Axis) (history : History Figure Grid Axis)
    (state : σ) (making : Making) :
      EStateM.Result Fault (Replay σ Figure Grid Axis) Unit → Prop
  | answered {call : AnsweredCall Float Figure Grid Axis} {after : Replay σ Figure Grid Axis}
      (answers : canvas.Answers state call after.drawing.canvas)
      (suits : history.Suits making call.asked) (closed : after.block = none)
      (remembers : after.Remembers (history ++ [(making, call)])) :
      Performed canvas history state making (.ok () after)
  | stopped {refused : Option (Making × TracedCall Figure Grid)} {fault : Fault}
      {after : Replay σ Figure Grid Axis}
      (ending : ∀ ahead,
        Ending canvas history state (making :: ahead) refused (.error fault after)) :
      Performed canvas history state making (.error fault after)

/-! ## One statement -/

section Statements

variable {history : History Figure Grid Axis} {drawing : Drawing σ Grid Axis}
  {figure : Option Figure} {block : Option (Nat × GridBlock)} {after : σ}

theorem Remembers.addFigure (remembers : Remembers ⟨drawing, figure, block⟩ history) (made : Figure)
    (size : FigureSize Float) (dpi : Float) :
    Remembers ⟨{ drawing with canvas := after }, some made, block⟩
      (history ++ [(.figure size dpi, .figure size dpi made)]) := by
  constructor
  · rw [History.figure?_concat]
    rfl
  · intro id
    rw [History.grid?_concat]
    exact remembers.grids id
  · intro label
    rw [History.axis?_concat]
    exact remembers.axes label

theorem Remembers.addGrid (remembers : Remembers ⟨drawing, figure, block⟩ history) (made : Grid)
    (id : String) (slot : Slot) (request : GridRequest Float) (current : Figure)
    (parent : Option (Grid × Nat)) :
    Remembers ⟨{ drawing with canvas := after, grids := drawing.grids.put id made }, figure, block⟩
      (history ++ [(.grid id slot request, .grid current parent request made)]) := by
  constructor
  · rw [History.figure?_concat]
    exact remembers.figure
  · intro other
    rw [History.grid?_concat, ← remembers.grids other]
    exact Table.get?_put drawing.grids id other made
  · intro label
    rw [History.axis?_concat]
    exact remembers.axes label

theorem Remembers.addAxis (remembers : Remembers ⟨drawing, figure, block⟩ history) (made : Axis)
    (label : Char) (slot : Slot) (current : Figure) (parent : Option (Grid × Nat)) :
    Remembers ⟨{ drawing with canvas := after, axes := drawing.axes.put label made }, figure, block⟩
      (history ++ [(.axis label slot, .axis current parent made)]) := by
  constructor
  · rw [History.figure?_concat]
    exact remembers.figure
  · intro id
    rw [History.grid?_concat]
    exact remembers.grids id
  · intro other
    rw [History.axis?_concat, ← remembers.axes other]
    exact Table.get?_put drawing.axes label other made

theorem performed_makeFigure (remembers : Remembers ⟨drawing, figure, none⟩ history)
    (size : FigureSize Float) (dpi : Float) :
    Performed canvas history drawing.canvas (.figure size dpi)
      (makeFigure canvas size dpi ⟨drawing, figure, none⟩) := by
  rw [makeFigure_eq]
  cases called : canvas.figure size dpi drawing.canvas with
  | ok made after =>
    exact .answered (.figure called) .figure rfl (remembers.addFigure made size dpi)
  | error fault after =>
    exact .stopped fun ahead => .refused .figure (.figure called) (Or.inl rfl)

/-- Whatever is placed on the figure is placed on the latest one, in a place that the
history knows. -/
theorem performed_placing {making : Making} {line : Nat} {slot : Slot}
    {call : Figure → Option (Grid × Nat) → EStateM Fault σ β}
    {keep : β → Drawing σ Grid Axis → Drawing σ Grid Axis}
    (remembers : Remembers ⟨drawing, figure, none⟩ history)
    (asked : Figure → Option (Grid × Nat) → TracedCall Figure Grid)
    (suits : ∀ current parent, history.figure? = some current → history.Places slot parent →
      history.Suits making (asked current parent))
    (refuses : ∀ current parent fault after, call current parent drawing.canvas = .error fault after →
      canvas.Refuses drawing.canvas (asked current parent) fault after)
    (answers : ∀ current parent made after, call current parent drawing.canvas = .ok made after →
      ∃ answer : AnsweredCall Float Figure Grid Axis, answer.asked = asked current parent ∧
        canvas.Answers drawing.canvas answer (keep made { drawing with canvas := after }).canvas ∧
          Remembers ⟨keep made { drawing with canvas := after }, figure, none⟩
            (history ++ [(making, answer)])) :
    Performed canvas history drawing.canvas making
      ((do
          let current ← currentFigure line
          forStatement line do
            let parent ← Drawing.parent slot
            let made ← Drawing.call (call current parent)
            modify (keep made) : EStateM Fault (Replay σ Figure Grid Axis) Unit)
        ⟨drawing, figure, none⟩) := by
  cases figure with
  | none => exact .stopped fun ahead => .faulty rfl fun reason same => nomatch same
  | some current =>
    change Performed canvas history drawing.canvas making
      (forStatement line _ ⟨drawing, some current, none⟩)
    rw [forStatement_eq, placing_eq]
    cases found : parentOf? drawing.grids slot with
    | error cause =>
      refine .stopped fun ahead => .faulty rfl fun reason same => ?_
      cases same
      exact exists_unbuiltGrid_of_parentOf? found
    | ok parent =>
      have suited := suits current parent remembers.figure.symm (remembers.places found)
      dsimp only
      cases called : call current parent drawing.canvas with
      | ok made after =>
        rcases answers current parent made after called with ⟨answer, same, answered, kept⟩
        exact .answered answered (same ▸ suited) rfl kept
      | error fault after =>
        exact .stopped fun ahead =>
          .refused suited (refuses current parent fault after called) (Or.inr ⟨line, rfl⟩)

theorem performed_makeGrid (remembers : Remembers ⟨drawing, figure, none⟩ history) (line : Nat)
    {grid : GridBlock} {request : GridRequest Float} {slot : Slot}
    (finished : grid.finish = .ok (request, slot)) :
    Performed canvas history drawing.canvas (.grid grid.id slot request)
      (makeGrid canvas line grid ⟨drawing, figure, none⟩) := by
  unfold makeGrid
  rw [finished]
  refine performed_placing remembers (fun current parent => .grid current parent request)
    (fun _ _ => .grid) (fun _ _ _ _ => .grid) ?_
  intro current parent made after called
  exact ⟨_, rfl, .grid called, remembers.addGrid made grid.id slot request current parent⟩

theorem performed_makeAxis (remembers : Remembers ⟨drawing, figure, none⟩ history) (line : Nat)
    (label : Char) (slot : Slot) :
    Performed canvas history drawing.canvas (.axis label slot)
      (makeAxis canvas line label slot ⟨drawing, figure, none⟩) := by
  refine performed_placing remembers (fun current parent => .axis current parent)
    (fun _ _ => .axis) (fun _ _ _ _ => .axis) ?_
  intro current parent made after called
  exact ⟨_, rfl, .axis called, remembers.addAxis made label slot current parent⟩

end Statements

/-! ## Lines -/

theorem isOwnFault_of_blamesText {read : Except StatementFault β} {cause : StatementFault}
    (plain : BlamesText read) (refused : read = .error cause) : IsOwnFault cause := by
  intro reason same
  exact absurd (same ▸ refused) (plain reason)

/-- A line that is not understood ends the run, one that ends no statement leaves the history
as it is, and any other line performs its statement. -/
theorem readLine_outcome (canvas : Canvas Float σ Figure Grid Axis)
    {before : Replay σ Figure Grid Axis} {history : History Figure Grid Axis}
    (remembers : before.Remembers history) (number : Nat) (raw : List Char) :
    match readOn (before.block.map Prod.snd) raw with
    | .error _ => ∃ fault after, readLine canvas number raw before = .error fault after ∧
        ∀ ahead, Ending canvas history before.drawing.canvas ahead none (.error fault after)
    | .ok (none, next) => ∃ block, block.map Prod.snd = next ∧
        readLine canvas number raw before = .ok () { before with block }
    | .ok (some making, next) => next = none ∧
        Performed canvas history before.drawing.canvas making
          (readLine canvas number raw before) := by
  rcases before with ⟨drawing, figure, block⟩
  cases block with
  | none =>
    have line : readLine canvas number raw ⟨drawing, figure, none⟩ =
        (expect number (readStatement raw) >>= carryOut canvas number) ⟨drawing, figure, none⟩ := rfl
    rw [line]
    unfold readOn
    dsimp only [Option.map_none]
    cases read : readStatement raw with
    | error cause =>
      have own := isOwnFault_of_blamesText (blamesText_readStatement raw) read
      exact ⟨.statement number cause, ⟨drawing, figure, none⟩, rfl, fun _ => .faulty rfl own⟩
    | ok statement =>
      cases statement with
      | nothing => exact ⟨none, rfl, rfl⟩
      | figure size dpi => exact ⟨rfl, performed_makeFigure remembers size dpi⟩
      | openGrid id => exact ⟨some (number, .opened id), rfl, rfl⟩
      | axis label slot => exact ⟨rfl, performed_makeAxis remembers number label slot⟩
  | some opened =>
    rcases opened with ⟨first, block⟩
    rw [readLine_inBlock]
    unfold readOn
    dsimp only [Option.map_some]
    by_cases closing : Text.trim raw = [')']
    · rw [if_pos closing, if_pos closing]
      have closed : Remembers ⟨drawing, figure, none⟩ history :=
        ⟨remembers.figure, remembers.grids, remembers.axes⟩
      cases finished : block.finish with
      | error cause =>
        have own := isOwnFault_of_blamesText block.blamesText_finish finished
        refine ⟨.statement first cause, ⟨drawing, figure, none⟩, ?_, fun _ => .faulty rfl own⟩
        unfold makeGrid
        rw [finished]
        rfl
      | ok requested => exact ⟨rfl, performed_makeGrid closed first finished⟩
    · rw [if_neg closing, if_neg closing]
      cases taken : block.takeLine (Text.trim raw) with
      | error cause =>
        have own := isOwnFault_of_blamesText (block.blamesText_takeLine _) taken
        exact ⟨.statement number cause, ⟨drawing, figure, some (first, block)⟩, rfl,
          fun _ => .faulty rfl own⟩
      | ok grown => exact ⟨some (first, grown), rfl, rfl⟩

/-- The calls of a run over some lines are added to its history, in the order of the
statements.  The induction is on the lines; the history grows at its end. -/
theorem exists_history {before : Replay σ Figure Grid Axis} {earlier : History Figure Grid Axis}
    (remembers : before.Remembers earlier) (faithful : earlier.Faithful) (number : Nat)
    (raws : List (List Char)) :
    ∃ history ahead refused reached,
      makingsFrom (before.block.map Prod.snd) raws = history.map Prod.fst ++ ahead ∧
        History.Faithful (earlier ++ history) ∧
        canvas.Runs before.drawing.canvas (history.map Prod.snd) reached ∧
        Ending canvas (earlier ++ history) reached ahead refused
          (readLines canvas number raws before) := by
  induction raws generalizing number before earlier with
  | nil =>
    refine ⟨[], [], none, before.drawing.canvas, rfl, ?_, .nil, ?_⟩
    · rwa [List.append_nil]
    · rw [List.append_nil]
      exact .finished rfl remembers
  | cons raw raws ih =>
    have outcome := readLine_outcome canvas remembers number raw
    rw [makingsFrom]
    cases said : readOn (before.block.map Prod.snd) raw with
    | error cause =>
      rw [said] at outcome
      rcases outcome with ⟨fault, after, stopped, ending⟩
      refine ⟨[], [], none, before.drawing.canvas, rfl, ?_, .nil, ?_⟩
      · rwa [List.append_nil]
      · rw [List.append_nil, readLines_cons_of_error stopped]
        exact ending []
    | ok meaning =>
      rcases meaning with ⟨making, next⟩
      rw [said] at outcome
      cases making with
      | none =>
        rcases outcome with ⟨block, rfl, quiet⟩
        rw [readLines_cons_of_ok quiet]
        have kept : Remembers { before with block } earlier :=
          ⟨remembers.figure, remembers.grids, remembers.axes⟩
        exact ih kept faithful (number + 1)
      | some making =>
        rcases outcome with ⟨rfl, performed⟩
        cases done : readLine canvas number raw before with
        | error fault after =>
          rw [done] at performed
          cases performed with
          | @stopped refused _ _ ending =>
            refine ⟨[], making :: makingsFrom none raws, refused, before.drawing.canvas, rfl, ?_,
              .nil, ?_⟩
            · rwa [List.append_nil]
            · rw [List.append_nil, readLines_cons_of_error done]
              exact ending _
        | ok nothing after =>
          rw [done] at performed
          cases performed with
          | @answered call _ answers suits closed kept =>
            rcases ih kept (faithful.concat suits) (number + 1) with
              ⟨history, ahead, refused, reached, same, own, runs, ending⟩
            rw [List.append_assoc] at own ending
            rw [closed] at same
            refine ⟨(making, call) :: history, ahead, refused, reached, ?_, own,
              .cons answers runs, ?_⟩
            · exact congrArg (making :: ·) same
            · rw [readLines_cons_of_ok done]
              exact ending

/-- So a whole run has a history. -/
theorem exists_history_of_start (canvas : Canvas Float σ Figure Grid Axis) (source : List Char)
    (state : σ) :
    ∃ history ahead refused reached, makings source = history.map Prod.fst ++ ahead ∧
      History.Faithful history ∧ canvas.Runs state (history.map Prod.snd) reached ∧
        Ending canvas history reached ahead refused
          (readLines canvas 1 (Text.lines source) (start state)) :=
  exists_history (remembers_start state) History.faithful_nil 1 (Text.lines source)

end Replay
end Program
end Mosaic
