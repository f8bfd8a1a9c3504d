import Mosaic.Log.Event

/-!
Where events go.  A sink takes events and may fail; a logger passes on to its
sink the events that are important enough.
-/

namespace Mosaic

/-- Why an event could not be logged. -/
structure LogFault where
  reason : String
  deriving DecidableEq, Repr

def LogFault.message (fault : LogFault) : String :=
  "I/O error: " ++ fault.reason

/-- What takes events, with a state of its own. -/
structure LogSink (σ : Type) where
  accept : LogEvent → EStateM LogFault σ Unit

/-- The state of a sink after an event, whether it could take the event or not. -/
def LogSink.after {σ : Type} (sink : LogSink σ) (state : σ) (event : LogEvent) : σ :=
  match sink.accept event state with
  | .ok () after => after
  | .error _ after => after

/-- A sink behind a least level. -/
structure Logger (σ : Type) where
  sink : LogSink σ
  least : LogLevel

namespace Logger

variable {σ : Type}

def admits (logger : Logger σ) (level : LogLevel) : Bool :=
  logger.least.rank ≤ level.rank

/-- Log an event.  Events below the least level are dropped, and that is no
failure. -/
def log (logger : Logger σ) (event : LogEvent) : EStateM LogFault σ Unit :=
  if logger.admits event.level then logger.sink.accept event else return ()

/-- Log an event and pass over a failure. -/
def offer (logger : Logger σ) (event : LogEvent) (state : σ) : σ :=
  LogSink.after ⟨logger.log⟩ state event

end Logger

/-! ## Sinks -/

/-- What lines are written to; a write may fail, and then gives the reason. -/
structure LineWriter (σ : Type) where
  write : String → EStateM String σ Unit

def LineWriter.sink {σ : Type} (writer : LineWriter σ) : LogSink σ where
  accept event := EStateM.adaptExcept LogFault.mk (writer.write event.line)

/-- Text in memory, of at most `capacity` bytes if one is given.  A write that
would go beyond it is refused as a whole. -/
def boundedBuffer (capacity : Option Nat) : LineWriter String where
  write text := do
    let held ← get
    let grown := held ++ text
    if capacity.any (· < grown.utf8ByteSize) then throw "buffer is full"
    else set grown

def memorySink : LogSink (List LogEvent) where
  accept event := modify fun events => events ++ [event]

end Mosaic
