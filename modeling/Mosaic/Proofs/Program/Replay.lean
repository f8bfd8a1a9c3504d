import Mosaic.Proofs.Canvas.Painting
import Mosaic.Proofs.Program.Listing

/-!
# Replaying a program draws its tree

A program is read line by line, but its lines come in groups: one group for each
visit of the walk over the tree, with fixed lines before and after.  The lines of
one visit, read while no block is open, do to the drawing what the painter does
at that visit.  By induction over the visits the whole program then makes the
calls of the drawing, up to the first one that is refused.
-/

namespace Mosaic
namespace Program
namespace Replay

variable {σ Figure Grid Axis : Type} (canvas : Canvas Float σ Figure Grid Axis)

theorem readLines_append (number : Nat) (front back : List (List Char)) :
    readLines canvas number (front ++ back) =
      readLines canvas number front >>= fun _ =>
        readLines canvas (number + front.length) back := by
  induction front generalizing number with
  | nil =>
    change readLines canvas number back = pure () >>= fun _ => readLines canvas (number + 0) back
    rw [pure_bind, Nat.add_zero]
  | cons raw front ih =>
    rw [List.cons_append, readLines, readLines, ih, bind_assoc, List.length_cons,
      Nat.add_right_comm]
    rfl

variable {canvas} in
theorem readLines_cons_of_ok {number : Nat} {raw : List Char}
    {before after : Replay σ Figure Grid Axis}
    (line : readLine canvas number raw before = .ok () after) (rest : List (List Char)) :
    readLines canvas number (raw :: rest) before = readLines canvas (number + 1) rest after := by
  rw [readLines]
  change EStateM.bind _ _ _ = _
  unfold EStateM.bind
  rw [line]

variable {canvas} in
theorem readLines_cons_of_error {number : Nat} {raw : List Char}
    {before after : Replay σ Figure Grid Axis} {fault : Fault}
    (line : readLine canvas number raw before = .error fault after) (rest : List (List Char)) :
    readLines canvas number (raw :: rest) before = .error fault after := by
  rw [readLines]
  change EStateM.bind _ _ _ = _
  unfold EStateM.bind
  rw [line]

variable {canvas} in
private theorem readLines_append_of_ok {number : Nat} {front : List (List Char)}
    {before after : Replay σ Figure Grid Axis}
    (lines : readLines canvas number front before = .ok () after) (back : List (List Char)) :
    readLines canvas number (front ++ back) before =
      readLines canvas (number + front.length) back after := by
  rw [readLines_append]
  change EStateM.bind _ _ _ = _
  unfold EStateM.bind
  rw [lines]

variable {canvas} in
private theorem readLines_append_of_error {number : Nat} {front : List (List Char)}
    {before after : Replay σ Figure Grid Axis} {fault : Fault}
    (lines : readLines canvas number front before = .error fault after)
    (back : List (List Char)) :
    readLines canvas number (front ++ back) before = .error fault after := by
  rw [readLines_append]
  change EStateM.bind _ _ _ = _
  unfold EStateM.bind
  rw [lines]

private theorem readLines_singleton (number : Nat) (raw : List Char)
    (replay : Replay σ Figure Grid Axis) :
    readLines canvas number [raw] replay = readLine canvas number raw replay := by
  change (readLine canvas number raw >>= fun _ => pure ()) replay = _
  rw [bind_pure_unit]

/-! ## Blocks -/

/-- A line inside a block. -/
theorem readLine_inBlock (number first : Nat) (raw : List Char) (block : GridBlock)
    (drawing : Drawing σ Grid Axis) (figure : Option Figure) :
    readLine canvas number raw ⟨drawing, figure, some (first, block)⟩ =
      if Text.trim raw = [')'] then makeGrid canvas first block ⟨drawing, figure, none⟩
      else
        match block.takeLine (Text.trim raw) with
        | .ok grown => .ok () ⟨drawing, figure, some (first, grown)⟩
        | .error cause => .error (.statement number cause) ⟨drawing, figure, some (first, block)⟩ := by
  unfold readLine
  by_cases closing : Text.trim raw = [')']
  · simp only [closing, if_true]
    rfl
  · simp only [closing, if_false]
    change EStateM.bind (expect number (block.takeLine (Text.trim raw))) _ _ = _
    cases block.takeLine (Text.trim raw) <;> rfl

private theorem readLine_argument {slot : Slot} {request : GridRequest Float}
    {argument : String × String} (member : argument ∈ arguments slot request)
    {block grown : GridBlock}
    (taken : block.set argument.1.toList argument.2.toList = .ok grown)
    (number first : Nat) (drawing : Drawing σ Grid Axis) (figure : Option Figure) :
    readLine canvas number (argumentLine argument.1 argument.2).toList
        ⟨drawing, figure, some (first, block)⟩ =
      .ok () ⟨drawing, figure, some (first, grown)⟩ := by
  rcases trim_argument member with ⟨unclosed, take⟩
  rw [readLine_inBlock, if_neg unclosed, take, taken]

private theorem readLines_arguments {slot : Slot} {request : GridRequest Float}
    {given : List (String × String)} (members : ∀ argument ∈ given, argument ∈ arguments slot request)
    {block full : GridBlock} (taken : setAll block given = .ok full)
    (number first : Nat) (drawing : Drawing σ Grid Axis) (figure : Option Figure) :
    readLines canvas number
        (given.map fun argument => (argumentLine argument.1 argument.2).toList)
        ⟨drawing, figure, some (first, block)⟩ =
      .ok () ⟨drawing, figure, some (first, full)⟩ := by
  induction given generalizing number block with
  | nil =>
    cases taken
    rfl
  | cons argument given ih =>
    unfold setAll at taken
    rw [List.foldlM_cons] at taken
    cases here : block.set argument.1.toList argument.2.toList with
    | error fault =>
      rw [here] at taken
      cases taken
    | ok grown =>
      rw [here] at taken
      have line := readLine_argument canvas (members argument List.mem_cons_self) here number first
        drawing figure
      have rest := ih (fun other member => members other (List.mem_cons_of_mem _ member)) taken
        (number + 1)
      rw [List.map_cons, readLines_cons_of_ok line]
      exact rest

private theorem readLine_close {full : GridBlock} {request : GridRequest Float} {slot : Slot}
    (finished : full.finish = .ok (request, slot)) (number first : Nat)
    (drawing : Drawing σ Grid Axis) (figure : Figure) :
    readLine canvas number ")".toList ⟨drawing, some figure, some (first, full)⟩ =
      forStatement first (do
          let parent ← Drawing.parent slot
          let grid ← Drawing.call (canvas.grid figure parent request)
          modify fun drawing => { drawing with grids := drawing.grids.put full.id grid })
        ⟨drawing, some figure, none⟩ := by
  have closing : Text.trim ")".toList = [')'] := by decide
  rw [readLine_inBlock, if_pos closing]
  unfold makeGrid
  rw [finished]
  rfl

private theorem readLine_statement {raw : List Char} {statement : Statement}
    (read : readStatement raw = .ok statement) (number : Nat) (drawing : Drawing σ Grid Axis)
    (figure : Option Figure) :
    readLine canvas number raw ⟨drawing, figure, none⟩ =
      carryOut canvas number statement ⟨drawing, figure, none⟩ := by
  change (expect number (readStatement raw) >>= carryOut canvas number) _ = _
  rw [read]
  rfl

/-- The lines of one split make its grid, and blame a fault on the first line of the block. -/
private theorem readLines_gridLines {cut : Cut Float} {children : List (Node Float)} {slot : Slot}
    (unquoted : '"' ∉ cut.id.toList) (namable : IsNamable slot)
    (readable : Readable (GridRequest.ofCut cut children.length)) (number : Nat)
    (drawing : Drawing σ Grid Axis) (figure : Figure) :
    readLines canvas number
        ((gridLines cut.id slot (GridRequest.ofCut cut children.length)).map String.toList)
        ⟨drawing, some figure, none⟩ =
      forStatement (number + 1) ((canvas.painter figure).onSplit cut children slot)
        ⟨drawing, some figure, none⟩ := by
  have empty : readLine canvas number "".toList ⟨drawing, some figure, none⟩ =
      .ok () ⟨drawing, some figure, none⟩ := rfl
  have opening := readLine_statement canvas (readStatement_gridOpening slot unquoted)
    (number + 1) drawing (some figure)
  have body := readLines_arguments canvas (fun _ member => member)
    (setAll_arguments cut.id namable readable) (number + 1 + 1) (number + 1) drawing (some figure)
  have close := readLine_close canvas
    (finish_arguments cut.id slot (GridRequest.ofCut cut children.length))
  rw [gridLines_eq, List.map_append, List.map_cons, List.map_cons, List.map_map,
    List.cons_append, List.cons_append, readLines_cons_of_ok empty, readLines_cons_of_ok opening]
  refine (readLines_append_of_ok body _).trans ?_
  rw [List.map_cons, List.map_nil, readLines_singleton]
  exact close _ _ drawing figure

/-! ## Visits -/

/-- How many lines of a visit stand before the one that its faults are blamed on. -/
def leadCount (entry : Node Float × Slot) : Nat :=
  match entry.1 with
  | .split _ _ => 1
  | _ => 0

/-- What a statement for the drawing does while no block is open. -/
theorem forStatement_eq (line : Nat) (action : EStateM Fault (Drawing σ Grid Axis) Unit)
    (drawing : Drawing σ Grid Axis) (figure : Option Figure) :
    forStatement line action ⟨drawing, figure, none⟩ =
      match action drawing with
      | .ok () after => .ok () ⟨after, figure, none⟩
      | .error fault after => .error (blamed line fault) ⟨after, figure, none⟩ := by
  unfold forStatement onDrawing EStateM.adaptExcept
  cases action drawing <;> rfl

/-- The lines of a visit do what the painter does there, and the faults are blamed. -/
theorem readLines_visitLines {entry : Node Float × Slot} (writes : CanWrite entry)
    (number : Nat) (drawing : Drawing σ Grid Axis) (figure : Figure) :
    readLines canvas number ((visitLines entry).map String.toList)
        ⟨drawing, some figure, none⟩ =
      match entry.1.visit (canvas.painter figure) entry.2 drawing with
      | .ok () after => .ok () ⟨after, some figure, none⟩
      | .error fault after =>
        .error (blamed (number + leadCount entry) fault) ⟨after, some figure, none⟩ := by
  rcases entry with ⟨node, slot⟩
  rcases writes with ⟨writable, namable⟩
  cases node with
  | leaf contents =>
    have named := writable.named
    have line := readLine_statement canvas
      (readStatement_axisLine writable.unquoted namable) number drawing (some figure)
    unfold visitLines
    rw [List.map_cons, List.map_nil, readLines_singleton, named, line]
    exact forStatement_eq number _ drawing (some figure)
  | split cut children =>
    exact (readLines_gridLines canvas writable.unquoted namable (readable_ofCut writable) number
      drawing figure).trans (forStatement_eq (number + 1) _ drawing (some figure))
  | blank region => rfl

/-- The lines of several visits draw what the painter draws.  When it is stopped, so
are they, at the statement of the same visit. -/
theorem readLines_visits {entries : List (Node Float × Slot)}
    (writes : ∀ entry ∈ entries, CanWrite entry) (number : Nat)
    (drawing : Drawing σ Grid Axis) (figure : Figure) :
    match canvas.paint figure entries drawing with
    | .ok () after =>
      readLines canvas number ((entries.flatMap visitLines).map String.toList)
        ⟨drawing, some figure, none⟩ = .ok () ⟨after, some figure, none⟩
    | .error fault after =>
      ∃ before entry, canvas.StopsAt figure drawing entries before entry fault after ∧
        readLines canvas number ((entries.flatMap visitLines).map String.toList)
            ⟨drawing, some figure, none⟩ =
          .error (blamed (number + (before.flatMap visitLines).length + leadCount entry) fault)
            ⟨after, some figure, none⟩ := by
  induction entries generalizing number drawing with
  | nil => rfl
  | cons entry entries ih =>
    have line := readLines_visitLines canvas (writes entry List.mem_cons_self) number drawing figure
    have later := ih fun other member => writes other (List.mem_cons_of_mem _ member)
    rw [Canvas.paint_cons, List.flatMap_cons, List.map_append]
    cases here : entry.1.visit (canvas.painter figure) entry.2 drawing with
    | error fault after =>
      rw [here] at line
      exact ⟨[], entry, ⟨⟨entries, rfl⟩, drawing, rfl, here⟩, readLines_append_of_error line _⟩
    | ok nothing between =>
      rw [here] at line
      have rest := later (number + (visitLines entry).length) between
      simp only
      rw [readLines_append_of_ok line, List.length_map]
      cases done : canvas.paint figure entries between with
      | ok nothing after =>
        rw [done] at rest
        exact rest
      | error fault after =>
        rw [done] at rest
        rcases rest with ⟨before, stop, ⟨⟨others, same⟩, reached, drawn, refused⟩, stopped⟩
        refine ⟨entry :: before, stop, ⟨⟨others, ?_⟩, reached, ?_, refused⟩, ?_⟩
        · rw [same, List.cons_append]
        · rw [Canvas.paint_cons, here]
          exact drawn
        · rw [stopped, List.flatMap_cons, List.length_append, Nat.add_assoc number]

/-! ## Whole programs -/

private theorem readLine_nothing {raw : List Char} (read : readStatement raw = .ok .nothing)
    (number : Nat) (drawing : Drawing σ Grid Axis) (figure : Option Figure) :
    readLine canvas number raw ⟨drawing, figure, none⟩ = .ok () ⟨drawing, figure, none⟩ :=
  readLine_statement canvas read number drawing figure

/-- Making a figure is one call, and its faults are handed on as they are. -/
theorem makeFigure_eq (size : FigureSize Float) (dpi : Float) (drawing : Drawing σ Grid Axis)
    (figure : Option Figure) (block : Option (Nat × GridBlock)) :
    makeFigure canvas size dpi ⟨drawing, figure, block⟩ =
      match canvas.figure size dpi drawing.canvas with
      | .ok made after => .ok () ⟨{ drawing with canvas := after }, some made, block⟩
      | .error fault after => .error fault ⟨{ drawing with canvas := after }, figure, block⟩ := by
  change EStateM.bind (onDrawing (Drawing.call (canvas.figure size dpi))) _ _ = _
  unfold EStateM.bind onDrawing Drawing.call
  dsimp only
  cases canvas.figure size dpi drawing.canvas <;> rfl

/-- The opening lines make the figure; a fault of that call is not blamed on a line. -/
private theorem readLines_openingLines (size : FigureSize Float) (dpi : Float) (state : σ) :
    readLines canvas 1 ((openingLines size dpi).map String.toList) (start state) =
      match canvas.figure size dpi state with
      | .ok figure after => .ok () ⟨Drawing.start after, some figure, none⟩
      | .error fault after => .error fault ⟨Drawing.start after, none, none⟩ := by
  have imported : readStatement "import matplotlib as mpl".toList = .ok .nothing := rfl
  have plotting : readStatement "import matplotlib.pyplot as plt".toList = .ok .nothing := rfl
  have empty : readStatement "".toList = .ok .nothing := rfl
  have grids : readStatement gridStoreLine.toList = .ok .nothing := rfl
  have axes : readStatement axisStoreLine.toList = .ok .nothing := rfl
  have made : readLine canvas 3 (figureLine size dpi).toList ⟨Drawing.start state, none, none⟩ =
      match canvas.figure size dpi state with
      | .ok figure after => .ok () ⟨Drawing.start after, some figure, none⟩
      | .error fault after => .error fault ⟨Drawing.start after, none, none⟩ :=
    (readLine_statement canvas (readStatement_figureLine size dpi) 3 _ none).trans
      (makeFigure_eq canvas size dpi (Drawing.start state) none none)
  unfold openingLines start
  simp only [List.map_cons, List.map_nil]
  rw [readLines_cons_of_ok (readLine_nothing canvas imported _ _ _),
    readLines_cons_of_ok (readLine_nothing canvas plotting _ _ _)]
  cases called : canvas.figure size dpi state with
  | error fault after =>
    rw [called, ← readLines_singleton] at made
    exact readLines_append_of_error made _
  | ok figure after =>
    rw [called] at made
    rw [readLines_cons_of_ok made, readLines_cons_of_ok (readLine_nothing canvas empty _ _ _),
      readLines_cons_of_ok (readLine_nothing canvas grids _ _ _),
      readLines_cons_of_ok (readLine_nothing canvas axes _ _ _)]
    rfl

private theorem readLines_closingLines (annotate : Bool) (number : Nat)
    (drawing : Drawing σ Grid Axis) (figure : Figure) :
    readLines canvas number ((closingLines annotate).map String.toList)
        ⟨drawing, some figure, none⟩ = .ok () ⟨drawing, some figure, none⟩ := by
  have empty : readStatement "".toList = .ok .nothing := rfl
  have loop : readStatement loopLine.toList = .ok .nothing := rfl
  have body : readStatement ("    " ++ annotationText).toList = .ok .nothing := rfl
  cases annotate with
  | false => rfl
  | true =>
    unfold closingLines
    rw [if_pos rfl]
    simp only [List.map_cons, List.map_nil]
    rw [readLines_cons_of_ok (readLine_nothing canvas empty _ _ _),
      readLines_cons_of_ok (readLine_nothing canvas loop _ _ _),
      readLines_cons_of_ok (readLine_nothing canvas body _ _ _)]
    rfl

/-- The number of the line that the faults of a visit are blamed on, when these visits
come before it. -/
def statementNumber (before : List (Node Float × Slot)) (entry : Node Float × Slot) : Nat :=
  7 + (before.flatMap visitLines).length + leadCount entry

/-- The first line of the statement that is written at a visit. -/
def statementLine (entry : Node Float × Slot) : Option String :=
  match entry.1 with
  | .leaf contents => some (axisLine contents.id entry.2)
  | .split cut _ => some (gridOpening cut.id entry.2)
  | .blank _ => none

private theorem visitLines_leadCount (entry : Node Float × Slot) :
    (visitLines entry)[leadCount entry]? = statementLine entry := by
  rcases entry with ⟨node, slot⟩
  cases node with
  | leaf contents => rfl
  | split cut children =>
    have lines := gridLines_eq cut.id slot (GridRequest.ofCut cut children.length)
    exact (congrArg (fun lines : List String => lines[1]?) lines).trans rfl
  | blank region => rfl

/-- The line that a stopped drawing is blamed on is the first one of its statement. -/
theorem line_of_stopsAt {tree : PartitionTree Float} {figure : Figure}
    {drawing after : Drawing σ Grid Axis} {before : List (Node Float × Slot)}
    {entry : Node Float × Slot} {fault : Fault}
    (stops : canvas.StopsAt figure drawing (tree.root.visits .figure) before entry fault after)
    (settings : Settings) :
    ∃ line, statementLine entry = some line ∧
      (listing tree settings)[statementNumber before entry - 1]? = some line := by
  have statement : ∃ line, statementLine entry = some line := by
    rcases stops.refused with ⟨reached, -, refused⟩
    rcases entry with ⟨node, slot⟩
    cases node with
    | leaf contents => exact ⟨_, rfl⟩
    | split cut children => exact ⟨_, rfl⟩
    | blank region => cases refused
  rcases statement with ⟨line, same⟩
  refine ⟨line, same, ?_⟩
  rcases stops.place with ⟨later, visits⟩
  have own : (visitLines entry)[leadCount entry]? = some line :=
    (visitLines_leadCount entry).trans same
  have inside : leadCount entry < (visitLines entry).length :=
    (List.getElem?_eq_some_iff.1 own).1
  have opening : (openingLines (settings.figureSize tree.rows tree.cols) settings.dpi).length = 6 :=
    rfl
  unfold listing statementNumber
  rw [visits, List.flatMap_append, List.flatMap_cons, List.append_assoc, List.append_assoc,
    List.append_assoc, List.getElem?_append_right (by omega), opening,
    List.getElem?_append_right (by omega), List.getElem?_append_left (by omega), ← own]
  congr 1
  omega

/-- A program is stopped by one of its lines, by a block that is still open after its last
line, or by the lack of a figure. -/
inductive StopsBy (source : List Char) (state : σ) : Fault → σ → Prop
  | line {fault : Fault} {reached : Replay σ Figure Grid Axis}
      (refused : readLines canvas 1 (Text.lines source) (start state) = .error fault reached) :
      StopsBy source state fault reached.drawing.canvas
  | openBlock {drawing : Drawing σ Grid Axis} {figure : Option Figure} {first : Nat}
      {block : GridBlock} (read : readLines canvas 1 (Text.lines source) (start state) =
        .ok () ⟨drawing, figure, some (first, block)⟩) :
      StopsBy source state (.statement first (.neverClosed block.id)) drawing.canvas
  | noFigure {drawing : Drawing σ Grid Axis}
      (read : readLines canvas 1 (Text.lines source) (start state) = .ok () ⟨drawing, none, none⟩) :
      StopsBy source state (.canvas .neverCreated) drawing.canvas

variable {canvas} in
theorem replay_eq_error_iff {source : List Char} {state after : σ} {fault : Fault} :
    replay source canvas state = .error fault after ↔ StopsBy canvas source state fault after := by
  unfold replay
  constructor
  · intro stopped
    cases run : readLines canvas 1 (Text.lines source) (start state) with
    | error own reached =>
      rw [run] at stopped
      cases stopped
      exact .line run
    | ok nothing reached =>
      rw [run] at stopped
      rcases reached with ⟨drawing, figure, block⟩
      cases block with
      | some opened =>
        cases stopped
        exact .openBlock run
      | none =>
        cases figure with
        | some figure => cases stopped
        | none =>
          cases stopped
          exact .noFigure run
  · rintro (refused | read | read)
    · rw [refused]
    · rw [read]
      rfl
    · rw [read]
      rfl

variable {canvas} in
/-- A program that is not stopped has read all its lines, and has a figure. -/
theorem replay_eq_ok_iff {source : List Char} {state after : σ}
    {bundle : Bundle Figure Grid Axis} :
    replay source canvas state = .ok bundle after ↔
      readLines canvas 1 (Text.lines source) (start state) =
        .ok () ⟨⟨after, bundle.axes, bundle.grids⟩, some bundle.figure, none⟩ := by
  unfold replay
  constructor
  · intro finished
    cases run : readLines canvas 1 (Text.lines source) (start state) with
    | error fault reached =>
      rw [run] at finished
      cases finished
    | ok nothing reached =>
      rw [run] at finished
      rcases reached with ⟨drawing, figure, block⟩
      cases block with
      | some opened => cases finished
      | none =>
        cases figure with
        | none => cases finished
        | some figure =>
          cases finished
          rfl
  · intro read
    rw [read]
    rfl

/-- A program that is carried out makes the drawing, or stops where the drawing is
stopped. -/
theorem replay_listing {tree : PartitionTree Float} (writable : tree.Writable)
    (settings : Settings) (state : σ) :
    match tree.draw settings canvas state with
    | .ok bundle after =>
      replay (textOfLines (listing tree settings)).toList canvas state = .ok bundle after
    | .error fault after =>
      (canvas.figure (settings.figureSize tree.rows tree.cols) settings.dpi state =
          .error fault after ∧
        replay (textOfLines (listing tree settings)).toList canvas state = .error fault after) ∨
      ∃ figure started before entry stopped,
        canvas.figure (settings.figureSize tree.rows tree.cols) settings.dpi state =
            .ok figure started ∧
          canvas.StopsAt figure (Drawing.start started) (tree.root.visits .figure) before entry
            fault stopped ∧
          stopped.canvas = after ∧
          replay (textOfLines (listing tree settings)).toList canvas state =
            .error (blamed (statementNumber before entry) fault) after := by
  have opening := readLines_openingLines canvas (settings.figureSize tree.rows tree.cols)
    settings.dpi state
  have lines : Text.lines (textOfLines (listing tree settings)).toList =
      (openingLines (settings.figureSize tree.rows tree.cols) settings.dpi).map String.toList ++
        (((tree.root.visits .figure).flatMap visitLines).map String.toList ++
          (closingLines settings.annotate).map String.toList) := by
    rw [lines_listing writable]
    unfold listing
    rw [List.map_append, List.map_append, List.append_assoc]
  rw [Canvas.draw_eq]
  cases called : canvas.figure (settings.figureSize tree.rows tree.cols) settings.dpi state with
  | error fault after =>
    rw [called] at opening
    have stopped := readLines_append_of_error opening
      (((tree.root.visits .figure).flatMap visitLines).map String.toList ++
        (closingLines settings.annotate).map String.toList)
    rw [← lines] at stopped
    exact Or.inl ⟨rfl, replay_eq_error_iff.2 (.line stopped)⟩
  | ok figure started =>
    rw [called] at opening
    have body := readLines_visits canvas (canWrite_of_mem_visits writable) 7
      (Drawing.start started) figure
    dsimp only
    cases painted : canvas.paint figure (tree.root.visits .figure) (Drawing.start started) with
    | ok nothing drawing =>
      rw [painted] at body
      have ended := readLines_closingLines canvas settings.annotate
        (7 + (((tree.root.visits .figure).flatMap visitLines).map String.toList).length)
        drawing figure
      have whole := (readLines_append_of_ok opening _).trans
        ((readLines_append_of_ok body _).trans ended)
      rw [← lines] at whole
      exact replay_eq_ok_iff.2 whole
    | error fault stopped =>
      rw [painted] at body
      rcases body with ⟨before, entry, stops, faulty⟩
      have whole := (readLines_append_of_ok opening _).trans
        (readLines_append_of_error faulty ((closingLines settings.annotate).map String.toList))
      rw [← lines] at whole
      exact Or.inr ⟨figure, started, before, entry, stopped, rfl, stops, rfl,
        replay_eq_error_iff.2 (.line whole)⟩

end Replay
end Program
end Mosaic
