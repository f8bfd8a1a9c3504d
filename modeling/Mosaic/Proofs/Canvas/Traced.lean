import Mosaic.Proofs.Canvas.Painting

/-!
# Keeping the calls on a canvas

A traced canvas hands every call on to another canvas and keeps it in a list,
whether or not it is refused.  Tracing changes nothing: drawing a tree on the
traced canvas does what it does on the canvas itself, and all that is added to
the list are the calls that it makes.
-/

namespace Mosaic

variable {σ Figure Grid Axis β γ : Type}

/-- A call on a canvas, with all that is handed over. -/
inductive TracedCall (Figure Grid : Type) where
  | figure (size : FigureSize Float) (dpi : Float)
  | grid (figure : Figure) (parent : Option (Grid × Nat)) (request : GridRequest Float)
  | axis (figure : Figure) (parent : Option (Grid × Nat))
  deriving DecidableEq

/-- Make a call, and note it whether or not it is refused. -/
def noted (made : TracedCall Figure Grid) (action : EStateM Fault σ β) :
    EStateM Fault (σ × List (TracedCall Figure Grid)) β :=
  fun state =>
    match action state.1 with
    | .ok value after => .ok value (after, state.2 ++ [made])
    | .error fault after => .error fault (after, state.2 ++ [made])

/-- The same canvas, with a list of all calls on it. -/
def Canvas.traced (canvas : Canvas Float σ Figure Grid Axis) :
    Canvas Float (σ × List (TracedCall Figure Grid)) Figure Grid Axis where
  figure size dpi := noted (.figure size dpi) (canvas.figure size dpi)
  grid figure parent request :=
    noted (.grid figure parent request) (canvas.grid figure parent request)
  axis figure parent := noted (.axis figure parent) (canvas.axis figure parent)

/-! ## Runs beside runs -/

/-- The same outcome over a changed state. -/
def onState {S T : Type} (change : S → T) :
    EStateM.Result Fault S β → EStateM.Result Fault T β
  | .ok value after => .ok value (change after)
  | .error fault after => .error fault (change after)

/-- A run that keeps calls does what a plain one does, and adds some calls. -/
def Traces {S T : Type} (attach : S → List (TracedCall Figure Grid) → T)
    (plain : EStateM Fault S β) (traced : EStateM Fault T β) : Prop :=
  ∀ state calls, ∃ more,
    traced (attach state calls) = onState (attach · (calls ++ more)) (plain state)

namespace Traces

variable {S T : Type} {attach : S → List (TracedCall Figure Grid) → T}

theorem ofPure (value : β) : Traces attach (Pure.pure value) (Pure.pure value) := by
  intro state calls
  refine ⟨[], ?_⟩
  rw [List.append_nil]
  rfl

theorem ofThrow (fault : Fault) :
    Traces attach (throw fault : EStateM Fault S β) (throw fault : EStateM Fault T β) := by
  intro state calls
  refine ⟨[], ?_⟩
  rw [List.append_nil]
  rfl

theorem bind {plain : EStateM Fault S β} {traced : EStateM Fault T β}
    {next : β → EStateM Fault S γ} {tracedNext : β → EStateM Fault T γ}
    (first : Traces attach plain traced)
    (later : ∀ value, Traces attach (next value) (tracedNext value)) :
    Traces attach (plain >>= next) (traced >>= tracedNext) := by
  intro state calls
  rcases first state calls with ⟨more, same⟩
  change ∃ added, EStateM.bind _ _ _ = onState _ (EStateM.bind _ _ _)
  unfold EStateM.bind
  rw [same]
  cases plain state with
  | error fault after => exact ⟨more, rfl⟩
  | ok value after =>
    rcases later value after (calls ++ more) with ⟨others, rest⟩
    refine ⟨more ++ others, ?_⟩
    rw [← List.append_assoc]
    exact rest

/-- What is read off the state may depend on everything but the calls. -/
theorem get_bind {next : S → EStateM Fault S β} {tracedNext : T → EStateM Fault T β}
    (later : ∀ state calls, Traces attach (next state) (tracedNext (attach state calls))) :
    Traces attach (get >>= next) (get >>= tracedNext) :=
  fun state calls => later state calls state calls

theorem modify {change : S → S} {tracedChange : T → T}
    (same : ∀ state calls, tracedChange (attach state calls) = attach (change state) calls) :
    Traces attach (modify change) (modify tracedChange) := by
  intro state calls
  refine ⟨[], ?_⟩
  rw [List.append_nil]
  change EStateM.Result.ok _ (tracedChange (attach state calls)) = _
  rw [same]
  rfl

theorem forM {plain : γ → EStateM Fault S Unit} {traced : γ → EStateM Fault T Unit}
    (each : ∀ entry, Traces attach (plain entry) (traced entry)) (entries : List γ) :
    Traces attach (forM entries plain) (forM entries traced) := by
  induction entries with
  | nil => exact Traces.ofPure ()
  | cons entry entries ih =>
    rw [List.forM_cons, List.forM_cons]
    exact (each entry).bind fun _ => ih

theorem noted (made : TracedCall Figure Grid) (action : EStateM Fault σ β) :
    Traces Prod.mk action (noted made action) := by
  intro state calls
  refine ⟨[made], ?_⟩
  unfold Mosaic.noted
  dsimp only
  cases action state <;> rfl

end Traces

/-! ## Drawings -/

/-- A drawing under way with the calls made so far. -/
def Drawing.attach (drawing : Drawing σ Grid Axis) (calls : List (TracedCall Figure Grid)) :
    Drawing (σ × List (TracedCall Figure Grid)) Grid Axis :=
  ⟨(drawing.canvas, calls), drawing.axes, drawing.grids⟩

namespace Traces

theorem call {plain : EStateM Fault σ β}
    {traced : EStateM Fault (σ × List (TracedCall Figure Grid)) β}
    (traces : Traces Prod.mk plain traced) :
    Traces Drawing.attach (Drawing.call plain : EStateM Fault (Drawing σ Grid Axis) β)
      (Drawing.call traced) := by
  intro drawing calls
  rcases traces drawing.canvas calls with ⟨more, same⟩
  refine ⟨more, ?_⟩
  unfold Drawing.call
  dsimp only [Drawing.attach]
  rw [same]
  cases plain drawing.canvas <;> rfl

theorem parent (slot : Slot) :
    Traces (@Drawing.attach σ Figure Grid Axis) (Drawing.parent slot) (Drawing.parent slot) := by
  apply get_bind
  intro drawing calls
  dsimp only [Drawing.attach]
  cases parentOf? drawing.grids slot with
  | ok parent => exact ofPure parent
  | error cause => exact ofThrow (.canvas cause)

theorem visit (canvas : Canvas Float σ Figure Grid Axis) (figure : Figure)
    (entry : Node Float × Slot) :
    Traces Drawing.attach (entry.1.visit (canvas.painter figure) entry.2)
      (entry.1.visit (canvas.traced.painter figure) entry.2) := by
  rcases entry with ⟨node, slot⟩
  cases node with
  | leaf contents =>
    refine (parent slot).bind fun parent => (call (noted _ _)).bind fun axis => ?_
    exact modify fun _ _ => rfl
  | split cut children =>
    refine (parent slot).bind fun parent => (call (noted _ _)).bind fun grid => ?_
    exact modify fun _ _ => rfl
  | blank region => exact Traces.ofPure ()

theorem paint (canvas : Canvas Float σ Figure Grid Axis) (figure : Figure)
    (entries : List (Node Float × Slot)) :
    Traces Drawing.attach (canvas.paint figure entries) (canvas.traced.paint figure entries) :=
  forM (visit canvas figure) entries

/-- Keeping the calls does not change what drawing a tree does. -/
theorem draw (canvas : Canvas Float σ Figure Grid Axis) (tree : PartitionTree Float)
    (settings : Settings) :
    Traces Prod.mk (tree.draw settings canvas) (tree.draw settings canvas.traced) := by
  intro state calls
  have made : Traces Prod.mk
      (canvas.figure (settings.figureSize tree.rows tree.cols) settings.dpi)
      (canvas.traced.figure (settings.figureSize tree.rows tree.cols) settings.dpi) :=
    noted _ _
  rcases made state calls with ⟨first, called⟩
  rw [Canvas.draw_eq, Canvas.draw_eq, called]
  cases canvas.figure (settings.figureSize tree.rows tree.cols) settings.dpi state with
  | error fault after => exact ⟨first, rfl⟩
  | ok figure started =>
    rcases paint canvas figure (tree.root.visits .figure) (Drawing.start started)
      (calls ++ first) with ⟨more, painted⟩
    refine ⟨first ++ more, ?_⟩
    have beside : canvas.traced.paint figure (tree.root.visits .figure)
        (Drawing.start (started, calls ++ first)) = _ := painted
    dsimp only [onState]
    rw [beside, ← List.append_assoc]
    cases canvas.paint figure (tree.root.visits .figure) (Drawing.start _) <;> rfl

end Traces

end Mosaic
