import Mosaic.Proofs.Canvas.Layout
import Mosaic.Proofs.Program.History
import Mosaic.Proofs.Program.Traced

/-!
# Handles of a program

Whatever the text of a program, each of its calls is the one that its statement stands for
after the calls before it: it is made on the latest figure, and in the latest grid under
the name that the statement refers to.  A refused call is no exception.  So a canvas is
handed nothing but what it has issued in the same run.  A scene keeps all grids that it
has issued, and thus knows every grid that it is asked about.
-/

namespace Mosaic

variable {σ Figure Grid Axis β γ : Type}

/-! ## Calls on a traced canvas -/

theorem noted_eq_ok_iff {made : TracedCall Figure Grid} {action : EStateM Fault σ β}
    {before after : σ × List (TracedCall Figure Grid)} {value : β} :
    noted made action before = .ok value after ↔
      action before.1 = .ok value after.1 ∧ after.2 = before.2 ++ [made] := by
  rcases after with ⟨reached, calls⟩
  unfold noted
  cases action before.1 <;> simp [and_assoc, eq_comm]

theorem noted_eq_error_iff {made : TracedCall Figure Grid} {action : EStateM Fault σ β}
    {before after : σ × List (TracedCall Figure Grid)} {fault : Fault} :
    noted made action before = .error fault after ↔
      action before.1 = .error fault after.1 ∧ after.2 = before.2 ++ [made] := by
  rcases after with ⟨reached, calls⟩
  unfold noted
  cases action before.1 <;> simp [and_assoc, eq_comm]

namespace Canvas

variable {canvas : Canvas Float σ Figure Grid Axis}
  {before after : σ × List (TracedCall Figure Grid)}

/-- A traced canvas answers as the canvas does, and notes the call. -/
theorem Answers.of_traced {call : AnsweredCall Float Figure Grid Axis}
    (answers : canvas.traced.Answers before call after) :
    canvas.Answers before.1 call after.1 ∧ after.2 = before.2 ++ [call.asked] := by
  cases answers with
  | figure called => exact (noted_eq_ok_iff.1 called).imp_left .figure
  | grid called => exact (noted_eq_ok_iff.1 called).imp_left .grid
  | axis called => exact (noted_eq_ok_iff.1 called).imp_left .axis

theorem Refuses.of_traced {call : TracedCall Figure Grid} {fault : Fault}
    (refuses : canvas.traced.Refuses before call fault after) :
    canvas.Refuses before.1 call fault after.1 ∧ after.2 = before.2 ++ [call] := by
  cases refuses with
  | figure called => exact (noted_eq_error_iff.1 called).imp_left .figure
  | grid called => exact (noted_eq_error_iff.1 called).imp_left .grid
  | axis called => exact (noted_eq_error_iff.1 called).imp_left .axis

/-- So a run on a traced canvas is a run on the canvas, and notes all its calls. -/
theorem Runs.of_traced {calls : List (AnsweredCall Float Figure Grid Axis)}
    (runs : canvas.traced.Runs before calls after) :
    canvas.Runs before.1 calls after.1 ∧ after.2 = before.2 ++ calls.map AnsweredCall.asked := by
  induction runs with
  | nil => exact ⟨.nil, (List.append_nil _).symm⟩
  | cons first later ih =>
    rcases first.of_traced with ⟨answers, noted⟩
    rw [noted, List.append_assoc] at ih
    exact ⟨.cons answers ih.1, ih.2⟩

/-- A run ends in the state of its last answer, or in the one that a refused call leaves. -/
inductive EndsIn (canvas : Canvas Float σ Figure Grid Axis) (reached : σ) :
    Option (TracedCall Figure Grid) → σ → Prop
  | answered : EndsIn canvas reached none reached
  | refused {call : TracedCall Figure Grid} {fault : Fault} {after : σ}
      (refuses : canvas.Refuses reached call fault after) : EndsIn canvas reached (some call) after

end Canvas

/-! ## Calls on a scene -/

def TracedCall.parent? : TracedCall Figure Grid → Option Grid
  | .figure .. => none
  | .grid _ parent _ => parent.map Prod.fst
  | .axis _ parent => parent.map Prod.fst

namespace Scene

variable {scene after : Scene Float}

/-- Only a grid that the scene does not have is reported as unknown. -/
theorem missing_of_placementBox {parent : Option (GridHandle × Nat)} {handle : Nat}
    (unknown : scene.placementBox parent = .error (.unknownGrid handle)) :
    ∃ grid, parent.map Prod.fst = some grid ∧ scene.grids[grid.index]? = none := by
  cases parent with
  | none => cases unknown
  | some placed =>
    rcases placed with ⟨grid, index⟩
    refine ⟨grid, rfl, ?_⟩
    unfold placementBox at unknown
    dsimp only at unknown
    cases found : scene.grids[grid.index]? with
    | none => rfl
    | some kept =>
      rw [found] at unknown
      unfold SceneGrid.cellBox at unknown
      dsimp only at unknown
      split at unknown
      · cases unknown
      · split at unknown <;> cases unknown

theorem exists_cause_of_refuses {call : TracedCall (SceneFigure Float) GridHandle} {fault : Fault}
    (refuses : (Canvas.scene Float).Refuses scene call fault after) :
    ∃ cause, fault = .canvas cause ∧ ∀ handle, cause = .unknownGrid handle →
      ∃ grid, call.parent? = some grid ∧ scene.grids[grid.index]? = none := by
  cases refuses with
  | figure called => cases called
  | grid called =>
    rcases (addGrid_error_iff.1 called).2 with ⟨-, rfl⟩ | ⟨-, cause, placed, rfl⟩
    · exact ⟨_, rfl, fun handle same => nomatch same⟩
    · exact ⟨cause, rfl, fun handle same => missing_of_placementBox (same ▸ placed)⟩
  | axis called =>
    rcases (addAxis_error_iff.1 called).2 with ⟨cause, placed, rfl⟩
    exact ⟨cause, rfl, fun handle same => missing_of_placementBox (same ▸ placed)⟩

/-- A grid that was issued during a run is kept at its end. -/
theorem exists_kept_of_runs {calls : List (AnsweredCall Float (SceneFigure Float) GridHandle AxisHandle)}
    (runs : (Canvas.scene Float).Runs scene calls after) {figure : SceneFigure Float}
    {parent : Option (GridHandle × Nat)} {request : GridRequest Float} {made : GridHandle}
    (member : .grid figure parent request made ∈ calls) :
    ∃ kept, after.grids[made.index]? = some kept := by
  rcases List.append_of_mem member with ⟨earlier, later, rfl⟩
  rcases runs.of_append with ⟨before, -, rest⟩
  cases rest with
  | cons first others =>
    cases first with
    | grid called =>
      rcases addGrid_ok_iff.1 called with ⟨-, box, -, rfl, rfl⟩
      exact ⟨_, (extends_of_runs others).grid List.getElem?_concat_length⟩

end Scene

namespace Program

namespace History

/-- The grid of a name was made by one of the calls. -/
theorem exists_call_of_grid? (history : History Figure Grid Axis) {id : String} {grid : Grid}
    (built : history.grid? id = some grid) :
    ∃ figure parent request, .grid figure parent request grid ∈ history.map Prod.snd := by
  rcases List.exists_of_findSome?_eq_some built with ⟨⟨making, call⟩, member, made⟩
  have listed := List.mem_map_of_mem (f := Prod.snd) (List.mem_reverse.1 member)
  cases making with
  | figure size dpi => cases call <;> cases made
  | axis label slot => cases call <;> cases made
  | grid name slot request =>
    cases call with
    | figure size dpi figure => cases made
    | axis figure parent axis => cases made
    | grid figure parent request own =>
      dsimp only [gridMade?] at made
      split at made
      · cases made
        exact ⟨figure, parent, request, listed⟩
      · cases made

/-- A call is placed in a grid that has a name. -/
theorem Suits.exists_built {history : History Figure Grid Axis} {making : Making}
    {call : TracedCall Figure Grid} (suits : history.Suits making call) {grid : Grid}
    (placed : call.parent? = some grid) : ∃ id, history.grid? id = some grid := by
  have named : ∀ {slot parent}, history.Places slot parent → parent.map Prod.fst = some grid →
      ∃ id, history.grid? id = some grid := by
    intro slot parent places same
    cases places with
    | figure => cases same
    | cell built =>
      cases same
      exact ⟨_, built⟩
  cases suits with
  | figure => cases placed
  | grid current places => exact named places placed
  | axis current places => exact named places placed

end History

namespace Replay

variable {canvas : Canvas Float σ Figure Grid Axis} {source : List Char} {state after : σ}

/-! ## Whole programs -/

/-- A history, and perhaps a refused call after it, that tells how a program is carried out. -/
structure Tells (canvas : Canvas Float σ Figure Grid Axis) (source : List Char) (state : σ)
    (history : History Figure Grid Axis) (refused : Option (Making × TracedCall Figure Grid)) :
    Prop where
  /-- These are all calls on the canvas, in their order. -/
  calls : replay source canvas.traced (state, []) =
    onState (fun after => (after, history.map (fun entry => entry.2.asked) ++
      (refused.map Prod.snd).toList)) (replay source canvas state)
  /-- The canvas gives these answers, one after the other. -/
  answers : ∃ reached, canvas.Runs state (history.map Prod.snd) reached ∧
    canvas.EndsIn reached (refused.map Prod.snd) (canvasAfter canvas source state)
  /-- Each call is made for one statement, from the first one on. -/
  statements : history.map Prod.fst ++ (refused.map Prod.fst).toList <+: makings source
  faithful : history.Faithful
  refusedSuits : ∀ making call, refused = some (making, call) → history.Suits making call
  bundle : ∀ bundle after, replay source canvas state = .ok bundle after →
    refused = none ∧ history.map Prod.fst = makings source ∧
      history.figure? = some bundle.figure ∧
      (∀ label, bundle.axes.get? label = history.axis? label) ∧
      ∀ id, bundle.grids.get? id = history.grid? id

/-- The calls that were noted up to the end of a run. -/
private theorem ending_of_traced {history : History Figure Grid Axis}
    {reached : σ × List (TracedCall Figure Grid)} {ahead : List Making}
    {refused : Option (Making × TracedCall Figure Grid)}
    {outcome : EStateM.Result Fault
      (Replay (σ × List (TracedCall Figure Grid)) Figure Grid Axis) Unit}
    (ending : Ending canvas.traced history reached ahead refused outcome) :
    (canvasOf outcome).2 = reached.2 ++ (refused.map Prod.snd).toList ∧
      canvas.EndsIn reached.1 (refused.map Prod.snd) (canvasOf outcome).1 ∧
      (refused.map Prod.fst).toList <+: ahead ∧
      ∀ making call, refused = some (making, call) → history.Suits making call := by
  cases ending with
  | finished kept remembers =>
    subst kept
    exact ⟨(List.append_nil _).symm, .answered, List.nil_prefix, fun _ _ none => nomatch none⟩
  | faulty kept own =>
    subst kept
    exact ⟨(List.append_nil _).symm, .answered, List.nil_prefix, fun _ _ none => nomatch none⟩
  | refused suits refuses handedOn =>
    rcases refuses.of_traced with ⟨own, noted⟩
    refine ⟨noted, .refused own, ⟨_, rfl⟩, ?_⟩
    rintro _ _ ⟨⟩
    exact suits

/-- Every run of a program has a history. -/
theorem exists_tells (canvas : Canvas Float σ Figure Grid Axis) (source : List Char) (state : σ) :
    ∃ history refused, Tells canvas source state history refused := by
  rcases exists_history_of_start canvas.traced source (state, []) with
    ⟨history, ahead, refused, reached, same, faithful, runs, ending⟩
  rcases ending_of_traced ending with ⟨noted, ended, within, suits⟩
  rcases runs.of_traced with ⟨ran, made⟩
  rcases traces_replay canvas source state [] with ⟨more, beside⟩
  rw [← canvasAfter_eq] at noted ended
  have traced : canvasAfter canvas.traced source (state, []) =
      (canvasAfter canvas source state, more) := by
    unfold canvasAfter
    rw [beside]
    cases replay source canvas state <;> rfl
  rw [traced] at noted ended
  have calls : more = history.map (fun entry => entry.2.asked) ++ (refused.map Prod.snd).toList := by
    rw [show more = _ from noted, made, List.map_map]
    rfl
  refine ⟨history, refused, ?_, ⟨reached.1, ran, ended⟩, ?_, faithful, suits, ?_⟩
  · rw [beside, ← calls]
    rfl
  · exact same ▸ (List.prefix_append_right_inj _).2 within
  · intro bundle after finished
    rw [finished] at beside
    rw [replay_eq_ok_iff.1 beside] at ending
    cases ending with
    | finished kept remembers =>
      have all := same.trans (List.append_nil _)
      exact ⟨rfl, all.symm, remembers.figure.symm, remembers.axes, remembers.grids⟩

/-! ## Scenes -/

/-- Does a fault report a grid that was not issued? -/
inductive ReportsUnknownGrid : Fault → Prop
  | canvas (handle : Nat) : ReportsUnknownGrid (.canvas (.unknownGrid handle))
  | statement (line handle : Nat) : ReportsUnknownGrid (.statement line (.canvas (.unknownGrid handle)))

/-- A scene on which a history was made has kept the grid of every name. -/
theorem exists_kept_of_grid? {before reached : Scene Float}
    {history : History (SceneFigure Float) GridHandle AxisHandle}
    (runs : (Canvas.scene Float).Runs before (history.map Prod.snd) reached) {id : String}
    {grid : GridHandle} (built : history.grid? id = some grid) :
    ∃ kept, reached.grids[grid.index]? = some kept := by
  rcases history.exists_call_of_grid? built with ⟨figure, parent, request, member⟩
  exact Scene.exists_kept_of_runs runs member

/-- So no fault of a run on a scene reports an unknown grid. -/
theorem not_reportsUnknownGrid_of_ending {before reached : Scene Float}
    {history : History (SceneFigure Float) GridHandle AxisHandle} {ahead : List Making}
    {refused : Option (Making × TracedCall (SceneFigure Float) GridHandle)} {fault : Fault}
    {after : Replay (Scene Float) (SceneFigure Float) GridHandle AxisHandle}
    (runs : (Canvas.scene Float).Runs before (history.map Prod.snd) reached)
    (ending : Ending (Canvas.scene Float) history reached ahead refused (.error fault after)) :
    ¬ ReportsUnknownGrid fault := by
  cases ending with
  | faulty kept own =>
    rintro ⟨⟩
    rcases own _ rfl with ⟨id, same⟩
    cases same
  | refused suits refuses handedOn =>
    rcases Scene.exists_cause_of_refuses refuses with ⟨cause, rfl, blames⟩
    have known : ∀ handle, cause ≠ .unknownGrid handle := by
      intro handle same
      rcases blames handle same with ⟨grid, handed, missing⟩
      rcases suits.exists_built handed with ⟨id, built⟩
      rcases exists_kept_of_grid? runs built with ⟨kept, found⟩
      cases missing.symm.trans found
    rcases handedOn with rfl | ⟨line, rfl⟩
    · rintro ⟨⟩
      exact known _ rfl
    · rintro ⟨⟩
      exact known _ rfl

theorem not_reportsUnknownGrid_of_replay {scene after : Scene Float} {fault : Fault}
    (stopped : replay source (Canvas.scene Float) scene = .error fault after) :
    ¬ ReportsUnknownGrid fault := by
  rcases exists_history_of_start (Canvas.scene Float) source scene with
    ⟨history, ahead, refused, reached, -, -, runs, ending⟩
  cases replay_eq_error_iff.1 stopped with
  | line refused =>
    rw [refused] at ending
    exact not_reportsUnknownGrid_of_ending runs ending
  | openBlock read => rintro ⟨⟩
  | noFigure read => rintro ⟨⟩

/-- On every canvas a program has a history that tells all its calls, each with the latest
figure and the latest grid of the name that it refers to.  A scene never misses a grid. -/
theorem replay_hands_back_what_it_got (source : List Char) :
    (∀ (σ Figure Grid Axis : Type) (canvas : Canvas Float σ Figure Grid Axis) (state : σ),
      ∃ history refused, Tells canvas source state history refused) ∧
      ∀ (scene : Scene Float) (fault : Fault) (after : Scene Float),
        replay source (Canvas.scene Float) scene = .error fault after → ¬ ReportsUnknownGrid fault :=
  ⟨fun _ _ _ _ canvas state => exists_tells canvas source state,
    fun _ _ _ => not_reportsUnknownGrid_of_replay⟩

/-- A program in which a second figure and a second grid take the places of the first ones,
and whose last line asks for this cell. -/
def secondFigure (cell : Char) : List Char :=
  let grid (ratios : String) : List String :=
    ["gridspecs[\"gs_AB\"] = mpl.gridspec.GridSpec(",
      "    figure=fig,",
      "    nrows=1,",
      "    ncols=2,",
      "    height_ratios=[1],",
      ratios,
      ")"]
  let before : List String :=
    ["fig = plt.figure(figsize=(4.0, 2.0), dpi=96.0)"] ++ grid "    width_ratios=[1, 1]," ++
      ["fig = plt.figure(figsize=(8.0, 2.0), dpi=96.0)"] ++ grid "    width_ratios=[3, 1],"
  before.flatMap (fun line => line.toList ++ ['\n']) ++
    "axes[\"ax_A\"] = fig.add_subplot(gridspecs[\"gs_AB\"][".toList ++ cell :: "])".toList

private theorem exists_of_ok (outcome : EStateM.Result Fault σ β) (seen : β → σ → γ)
    {known : γ}
    (same : (match outcome with
      | .ok value after => some (seen value after)
      | .error _ _ => none) = some known) :
    ∃ value after, outcome = .ok value after ∧ seen value after = known := by
  cases outcome with
  | ok value after => exact ⟨value, after, rfl, Option.some.inj same⟩
  | error fault after => cases same

private theorem exists_of_error (outcome : EStateM.Result Fault σ β) {known : Fault}
    (same : (match outcome with
      | .ok _ _ => none
      | .error fault _ => some fault) = some known) : ∃ after, outcome = .error known after := by
  cases outcome with
  | ok value after => cases same
  | error fault after =>
    cases same
    exact ⟨after, rfl⟩

theorem replay_hands_back_what_it_got_secondFigure :
    (∃ history, Tells (Canvas.recorder Float none) (secondFigure '0') [] history none ∧
      history.figure? = some 2 ∧ history.grid? "gs_AB" = some 3 ∧
        history.map (fun entry => entry.2.asked) =
          [.figure ⟨4, 2⟩ 96, .grid 0 none ⟨1, 2, [1], [1, 1], none, none⟩,
            .figure ⟨8, 2⟩ 96, .grid 2 none ⟨1, 2, [1], [3, 1], none, none⟩,
            .axis 2 (some (3, 0))]) ∧
      ∃ after, replay (secondFigure '2') (Canvas.scene Float) (.empty .default) =
          .error (.statement 17 (.canvas (.outsideGrid 2 1 2))) after ∧
        ¬ ReportsUnknownGrid (.statement 17 (.canvas (.outsideGrid 2 1 2))) := by
  constructor
  · have traced : ∃ made after, replay (secondFigure '0') (Canvas.recorder Float none).traced
        ([], []) = .ok made after ∧ (made.figure, made.grids.get? "gs_AB", after.2) =
          (2, some 3, [.figure ⟨4, 2⟩ 96, .grid 0 none ⟨1, 2, [1], [1, 1], none, none⟩,
            .figure ⟨8, 2⟩ 96, .grid 2 none ⟨1, 2, [1], [3, 1], none, none⟩,
            .axis 2 (some (3, 0))]) :=
      exists_of_ok _ _ (by decide +kernel)
    rcases traced with ⟨made, ⟨after, calls⟩, finished, known⟩
    simp only [Prod.mk.injEq] at known
    rcases known with ⟨figure, grid, noted⟩
    rcases (replay_hands_back_what_it_got (secondFigure '0')).1 _ _ _ _
      (Canvas.recorder Float none) [] with ⟨history, refused, tells⟩
    have told := finished.symm.trans tells.calls
    cases plain : replay (secondFigure '0') (Canvas.recorder Float none) [] with
    | error fault reached =>
      rw [plain] at told
      cases told
    | ok bundle reached =>
      rcases tells.bundle _ _ plain with ⟨rfl, -, latest, -, named⟩
      rw [plain] at told
      cases told
      refine ⟨history, tells, latest.trans (congrArg some figure), (named _).symm.trans grid, ?_⟩
      exact (List.append_nil _).symm.trans noted
  · have refused : ∃ after, replay (secondFigure '2') (Canvas.scene Float) (.empty .default) =
        .error (.statement 17 (.canvas (.outsideGrid 2 1 2))) after :=
      exists_of_error _ (by decide +kernel)
    rcases refused with ⟨after, stopped⟩
    exact ⟨after, stopped, (replay_hands_back_what_it_got _).2 _ _ _ stopped⟩

end Replay
end Program
end Mosaic
