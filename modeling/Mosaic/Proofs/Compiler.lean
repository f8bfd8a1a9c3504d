import Mosaic.Compiler
import Mosaic.Proofs.Program.Listing

/-!
# Reports and results

A call reports to its logger between all its other steps, and any sink may take
an event, change its state and fail.  None of this reaches the result.  What a
call does to a journal is said by the list of its notices: the sink is given the
events of the list that are important enough, in their order, and nothing else.
Results and notices are stated from the settings and the drawing alone, so that
they cannot depend on the logger.
-/

namespace Mosaic

variable {σ : Type}

/-! ## Several events -/

/-- A logger offers its sink the events that are important enough. -/
theorem Logger.offer_eq (logger : Logger σ) (event : LogEvent) (state : σ) :
    logger.offer event state =
      if logger.admits event.level then logger.sink.after state event else state := by
  unfold Logger.offer LogSink.after Logger.log
  dsimp only
  cases logger.admits event.level with
  | false => rfl
  | true => rfl

namespace Compiler

variable {compiler : Compiler σ}

/-- The events of some notices, each with its reading of the clock, when
`earlier` events were reported before. -/
def stamped (compiler : Compiler σ) (earlier : Nat) (notices : List Notice) : List LogEvent :=
  notices.mapIdx fun index notice => notice (compiler.clock (index + earlier))

/-- The journal after some notices: the sink was given exactly the events of the
logger's level and above. -/
def journalAfter (compiler : Compiler σ) (notices : List Notice) (journal : Journal σ) :
    Journal σ :=
  match compiler.logger with
  | none => journal
  | some logger =>
    let offered := (compiler.stamped journal.reported notices).filter fun event =>
      logger.admits event.level
    { sink := offered.foldl logger.sink.after journal.sink
      reported := journal.reported + notices.length }

theorem stamped_append (earlier : Nat) (front back : List Notice) :
    compiler.stamped earlier (front ++ back) =
      compiler.stamped earlier front ++ compiler.stamped (earlier + front.length) back := by
  unfold stamped
  rw [List.mapIdx_append]
  simp only [Nat.add_comm earlier, Nat.add_assoc]

theorem journalAfter_nil (journal : Journal σ) : compiler.journalAfter [] journal = journal := by
  unfold journalAfter
  split
  · rfl
  · rfl

theorem journalAfter_append (front back : List Notice) (journal : Journal σ) :
    compiler.journalAfter (front ++ back) journal =
      compiler.journalAfter back (compiler.journalAfter front journal) := by
  unfold journalAfter
  cases compiler.logger with
  | none => rfl
  | some logger =>
    simp only [stamped_append, List.filter_append, List.foldl_append, List.length_append,
      Nat.add_assoc]

/-! ## What an action reports -/

/-- Whatever was reported before, the action has this result and reports these
notices. -/
def Reports {β : Type} (compiler : Compiler σ) (action : StateM (Journal σ) β) (result : β)
    (notices : List Notice) : Prop :=
  ∀ journal, action.run journal = (result, compiler.journalAfter notices journal)

theorem reports_pure {β : Type} (result : β) :
    compiler.Reports (pure result) result [] := by
  intro journal
  rw [journalAfter_nil]
  rfl

theorem reports_report (notice : Notice) :
    compiler.Reports (compiler.report notice) () [notice] := by
  intro journal
  unfold report journalAfter
  cases compiler.logger with
  | none => rfl
  | some logger =>
    have stamp : compiler.stamped journal.reported [notice] =
        [notice (compiler.clock journal.reported)] :=
      congrArg (fun count => [notice (compiler.clock count)]) (Nat.zero_add _)
    change ((), Journal.mk _ _) = ((), Journal.mk _ _)
    rw [stamp, Logger.offer_eq, List.filter_singleton]
    cases logger.admits (notice (compiler.clock journal.reported)).level with
    | false => rfl
    | true => rfl

/-- One action after another reports the notices of both. -/
theorem Reports.bind {β γ : Type} {action : StateM (Journal σ) β}
    {next : β → StateM (Journal σ) γ} {value : β} {result : γ} {front back : List Notice}
    (first : compiler.Reports action value front)
    (second : compiler.Reports (next value) result back) :
    compiler.Reports (action >>= next) result (front ++ back) := by
  intro journal
  rw [StateT.run_bind, first journal, journalAfter_append]
  exact second _

/-- A report, then an action. -/
theorem Reports.reported {β : Type} {notice : Notice} {action : StateM (Journal σ) β} {result : β}
    {notices : List Notice} (rest : compiler.Reports action result notices) :
    compiler.Reports (compiler.report notice >>= fun _ => action) result (notice :: notices) :=
  (reports_report notice).bind rest

theorem reports_forM {β : Type} (notice : β → Notice) (entries : List β) :
    compiler.Reports (entries.forM fun entry => compiler.report (notice entry)) ()
      (entries.map notice) := by
  induction entries with
  | nil => exact reports_pure ()
  | cons entry entries rest => exact rest.reported

end Compiler

/-! ## Calls without a logger -/

namespace Settings

def gridOf (settings : Settings) (art : String) : Except Fault ArtGrid :=
  match settings.validate with
  | .error cause => .error (.settings cause)
  | .ok () => ArtGrid.ofText art.toList settings.blank

/-- The tree of a drawing. -/
def treeOf (settings : Settings) (art : String) : Except Fault (PartitionTree Float) :=
  match settings.gridOf art with
  | .error fault => .error fault
  | .ok grid => grid.partition settings

/-- The program of a drawing. -/
def programOf (settings : Settings) (art : String) : Except Fault String :=
  match settings.treeOf art with
  | .error fault => .error fault
  | .ok tree => tree.program settings

/-- A drawing drawn on a canvas in the given state. -/
def drawingOf {τ Figure Grid Axis : Type} (settings : Settings) (art : String)
    (canvas : Canvas Float τ Figure Grid Axis) (state : τ) :
    EStateM.Result Fault τ (Bundle Figure Grid Axis) :=
  match settings.treeOf art with
  | .error fault => .error fault state
  | .ok tree => tree.draw settings canvas state

/-! ## Notices of whole calls -/

/-- What is reported while a drawing is read and cut up. -/
def treeNotices (settings : Settings) (art : String) : List Notice :=
  match settings.gridOf art with
  | .error fault => [.notCompiled fault]
  | .ok grid =>
    .parsed grid ::
      match grid.partition settings with
      | .error fault => [.notCompiled fault]
      | .ok tree =>
        [.counted (grid.partitionCounted settings Tally.zero).2, .compiled tree]

def overrideNotices (settings : Settings) (tree : PartitionTree Float) : List Notice :=
  let size := settings.figureSize tree.rows tree.cols
  (if settings.widthFactor.isSome then [.overridden size .width] else []) ++
    (if settings.heightFactor.isSome then [.overridden size .height] else [])

/-- What is reported while the program of a drawing is made. -/
def programNotices (settings : Settings) (art : String) : List Notice :=
  settings.treeNotices art ++
    match settings.treeOf art with
    | .error _ => []
    | .ok tree =>
      settings.overrideNotices tree ++
        match tree.program settings with
        | .error _ => []
        | .ok source => [.written source]

/-- What is reported while a drawing is drawn on a canvas. -/
def drawingNotices {τ Figure Grid Axis : Type} (settings : Settings) (art : String)
    (canvas : Canvas Float τ Figure Grid Axis) (state : τ) : List Notice :=
  settings.treeNotices art ++
    match settings.treeOf art with
    | .error _ => []
    | .ok tree =>
      settings.overrideNotices tree ++
        match tree.draw settings canvas state with
        | .ok bundle _ => [.drawn bundle]
        | .error fault _ => [.notDrawn fault]

end Settings

namespace Compiler

variable {compiler : Compiler σ}

/-! ## The calls one by one -/

theorem reports_reportOverridden (tree : PartitionTree Float) :
    compiler.Reports (compiler.reportOverridden tree) ()
      (compiler.settings.overrideNotices tree) := by
  have listed : compiler.settings.overrideNotices tree = compiler.settings.overridden.map
      (Notice.overridden (compiler.settings.figureSize tree.rows tree.cols)) := by
    unfold Settings.overrideNotices Settings.overridden
    rw [List.map_append]
    cases compiler.settings.widthFactor with
    | none => cases compiler.settings.heightFactor with
      | none => rfl
      | some factor => rfl
    | some factor => cases compiler.settings.heightFactor with
      | none => rfl
      | some factor => rfl
  rw [listed]
  exact reports_forM _ _

/-- Cutting up a drawing reports that it was read, what was counted, and the
outcome. -/
theorem reports_compile (art : String) :
    compiler.Reports (compiler.compile art) (compiler.settings.treeOf art)
      (compiler.settings.treeNotices art) := by
  unfold compile readAndCut Settings.treeOf Settings.treeNotices Settings.gridOf
  cases compiler.settings.validate with
  | error cause => exact (reports_pure _).bind (reports_pure _).reported
  | ok =>
    cases ArtGrid.ofText art.toList compiler.settings.blank with
    | error fault => exact (reports_pure _).bind (reports_pure _).reported
    | ok grid =>
      dsimp only [ArtGrid.partition]
      rcases grid.partitionCounted compiler.settings Tally.zero with ⟨outcome, tally⟩
      cases outcome with
      | error fault => exact (reports_pure _).reported.bind (reports_pure _).reported
      | ok tree => exact (reports_pure _).reported.reported.bind (reports_pure _).reported

theorem reports_program (art : String) :
    compiler.Reports (compiler.program art) (compiler.settings.programOf art)
      (compiler.settings.programNotices art) := by
  refine Reports.bind (reports_compile art) ?_
  unfold Settings.programOf
  cases compiler.settings.treeOf art with
  | error fault => exact reports_pure _
  | ok tree =>
    refine Reports.bind (reports_reportOverridden tree) ?_
    dsimp only
    cases tree.program compiler.settings with
    | error fault => exact reports_pure _
    | ok source => exact (reports_pure _).reported

theorem reports_draw {τ Figure Grid Axis : Type} (art : String)
    (canvas : Canvas Float τ Figure Grid Axis) (state : τ) :
    compiler.Reports (compiler.draw art canvas state)
      (compiler.settings.drawingOf art canvas state)
      (compiler.settings.drawingNotices art canvas state) := by
  refine Reports.bind (reports_compile art) ?_
  unfold Settings.drawingOf
  cases compiler.settings.treeOf art with
  | error fault => exact reports_pure _
  | ok tree =>
    refine Reports.bind (reports_reportOverridden tree) ?_
    dsimp only
    cases tree.draw compiler.settings canvas state with
    | ok bundle after => exact (reports_pure _).reported
    | error fault after => exact (reports_pure _).reported

/-! ## All calls -/

end Compiler
end Mosaic
