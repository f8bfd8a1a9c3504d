import Mosaic.Art.Reading
import Mosaic.Canvas.Drawing
import Mosaic.Log.Logger
import Mosaic.Partition.Cutting
import Mosaic.Program.Writer
import Mosaic.Tree.Canonical

/-!
From drawing to figure in one call.  The drawing is read and cut up completely
before anything is written or drawn, so a drawing with a fault never reaches a
canvas.  Each call reports on its way to a logger, if there is one, and goes on
whether or not the logger could take the report.
-/

namespace Mosaic

/-- A reading of the clock, which events carry. -/
structure ClockReading where
  /-- The time in milliseconds. -/
  time : Nat
  /-- The microseconds since the call began. -/
  elapsed : Nat
  deriving DecidableEq, Repr

/-- The part of the program that reports on reading and cutting. -/
def compileTarget : String := "ascii_layout::compile"

/-- The part of the program that reports on writing and drawing. -/
def emitTarget : String := "ascii_layout::emit"

/-! ## Notices -/

/-- An event for which the clock is still to be read. -/
def Notice : Type := ClockReading → LogEvent

namespace Notice

def parsed (grid : ArtGrid) : Notice := fun clock =>
  .withFields clock.time .debug compileTarget "grid.parsed"
    [("rows", .ofNat grid.rows), ("cols", .ofNat grid.cols),
      ("labels", .ofNat grid.labels.length)]

/-- What was counted while the drawing was cut up. -/
def counted (tally : Tally) : Notice := fun clock =>
  tally.event clock.time clock.elapsed compileTarget

def compiled (tree : PartitionTree Float) : Notice := fun clock =>
  .withFields clock.time .info compileTarget "tree.compiled"
    [("leaves", .ofNat tree.leaves.length), ("splits", .ofNat tree.splits.length),
      ("max_depth", .ofNat tree.maxDepth), ("fingerprint", .string tree.fingerprint),
      ("elapsed_us", .ofNat clock.elapsed)]

/-- The drawing could not be read or cut up. -/
def notCompiled (fault : Fault) : Notice := fun clock =>
  .withFields clock.time .error compileTarget "compile.failed"
    [("error", .string fault.message)]

/-- A given size of the figure has been replaced. -/
def overridden (size : FigureSize Float) (side : FigureSide) : Notice := fun clock =>
  .withFields clock.time .warn compileTarget "figure.size_overridden"
    [("field", .string side.name), ("inches", .ofFloat (side.extent size))]

def written (source : String) : Notice := fun clock =>
  .withFields clock.time .info emitTarget "source.generated"
    [("bytes", .ofNat source.utf8ByteSize), ("digest", .string (Blake3.hexDigest source))]

def drawn {Figure Grid Axis : Type} (bundle : Bundle Figure Grid Axis) : Notice := fun clock =>
  .withFields clock.time .info emitTarget "layout.materialized"
    [("axes", .ofNat bundle.axes.length), ("grids", .ofNat bundle.grids.length)]

def notDrawn (fault : Fault) : Notice := fun clock =>
  .withFields clock.time .error emitTarget "materialize.failed"
    [("error", .string fault.message)]

end Notice

/-! ## Reports -/

/-- What reports change. -/
structure Journal (σ : Type) where
  /-- The state of the sink. -/
  sink : σ
  /-- How many events were reported, taken by the sink or not. -/
  reported : Nat
  deriving DecidableEq, Repr

/-- Settings for all drawings, and a logger if there is one. -/
structure Compiler (σ : Type) where
  settings : Settings
  logger : Option (Logger σ)
  /-- The reading of the clock for the first event, for the second, and so on. -/
  clock : Nat → ClockReading

namespace Compiler

variable {σ : Type}

/-- Report to the logger.  Without a logger nothing happens, and a sink that
fails is passed over. -/
def report (compiler : Compiler σ) (notice : Notice) : StateM (Journal σ) Unit :=
  match compiler.logger with
  | none => return ()
  | some logger =>
    modify fun journal =>
      { sink := logger.offer (notice (compiler.clock journal.reported)) journal.sink
        reported := journal.reported + 1 }

/-! ## Reading and cutting -/

/-- The tree of a drawing; the outcome is not reported yet. -/
def readAndCut (compiler : Compiler σ) (art : String) :
    StateM (Journal σ) (Except Fault (PartitionTree Float)) :=
  match compiler.settings.validate with
  | .error cause => return .error (.settings cause)
  | .ok () =>
    match ArtGrid.ofText art.toList compiler.settings.blank with
    | .error fault => return .error fault
    | .ok grid => do
      compiler.report (.parsed grid)
      match grid.partitionCounted compiler.settings Tally.zero with
      | (.error fault, _) => return .error fault
      | (.ok tree, tally) =>
        compiler.report (.counted tally)
        return .ok tree

def compile (compiler : Compiler σ) (art : String) :
    StateM (Journal σ) (Except Fault (PartitionTree Float)) := do
  let result ← compiler.readAndCut art
  match result with
  | .ok tree => compiler.report (.compiled tree)
  | .error fault => compiler.report (.notCompiled fault)
  return result

/-! ## Writing and drawing -/

/-- Report every side whose given size is replaced. -/
def reportOverridden (compiler : Compiler σ) (tree : PartitionTree Float) :
    StateM (Journal σ) Unit :=
  let size := compiler.settings.figureSize tree.rows tree.cols
  compiler.settings.overridden.forM fun side => compiler.report (.overridden size side)

def program (compiler : Compiler σ) (art : String) :
    StateM (Journal σ) (Except Fault String) := do
  match ← compiler.compile art with
  | .error fault => return .error fault
  | .ok tree =>
    compiler.reportOverridden tree
    match tree.program compiler.settings with
    | .error fault => return .error fault
    | .ok source =>
      compiler.report (.written source)
      return .ok source

def draw {τ Figure Grid Axis : Type} (compiler : Compiler σ) (art : String)
    (canvas : Canvas Float τ Figure Grid Axis) (state : τ) :
    StateM (Journal σ) (EStateM.Result Fault τ (Bundle Figure Grid Axis)) := do
  match ← compiler.compile art with
  | .error fault => return .error fault state
  | .ok tree =>
    compiler.reportOverridden tree
    let result := tree.draw compiler.settings canvas state
    match result with
    | .ok bundle _ => compiler.report (.drawn bundle)
    | .error fault _ => compiler.report (.notDrawn fault)
    return result

end Compiler
end Mosaic
