import Mosaic.Json.Reader
import Mosaic.Json.Writer
import Mosaic.Tally

/-!
Events that report what the program does.  An event is written as one line of
JSON; its fields are in the order of their names.
-/

namespace Mosaic

/-- How important an event is, the least important first. -/
inductive LogLevel where
  | trace
  | debug
  | info
  | warn
  | error
  deriving DecidableEq, Repr

namespace LogLevel

def rank : LogLevel → Nat
  | trace => 0
  | debug => 1
  | info => 2
  | warn => 3
  | error => 4

def name : LogLevel → String
  | trace => "trace"
  | debug => "debug"
  | info => "info"
  | warn => "warn"
  | error => "error"

def ofName? (name : String) : Option LogLevel :=
  [trace, debug, info, warn, error].find? fun level => level.name = name

end LogLevel

structure LogEvent where
  /-- The time of the event in milliseconds. -/
  time : Nat
  level : LogLevel
  /-- The part of the program that reports. -/
  target : String
  message : String
  fields : Table String Json
  deriving Repr

namespace LogEvent

/-- An event with fields in any order; of several fields of one name the last
one stays. -/
def withFields (time : Nat) (level : LogLevel) (target message : String)
    (fields : List (String × Json)) : LogEvent :=
  { time, level, target, message, fields := Table.ofEntries fields }

/-- An event as JSON; without fields it has no such member. -/
def toJson (event : LogEvent) : Json :=
  .object <|
    [("ts_ms", .ofNat event.time),
      ("level", .string event.level.name),
      ("target", .string event.target),
      ("message", .string event.message)] ++
    (if event.fields.isEmpty then [] else [("fields", .object event.fields)])

/-- The line for an event, with its line feed. -/
def line (event : LogEvent) : String :=
  event.toJson.compact ++ "\n"

end LogEvent

/-- The fields that report a tally, and how long it took. -/
def Tally.fields (tally : Tally) (elapsed : Nat) : List (String × Json) :=
  [("elapsed_us", .ofNat elapsed),
    ("labels", .ofNat tally.labels),
    ("splits", .ofNat tally.splits),
    ("leaves", .ofNat tally.leaves),
    ("blanks", .ofNat tally.blanks),
    ("cuts_examined", .ofNat tally.cutsExamined),
    ("max_depth", .ofNat tally.maxDepth)]

def Tally.event (tally : Tally) (time elapsed : Nat) (target : String) : LogEvent :=
  LogEvent.withFields time .info target "compile_metrics" (tally.fields elapsed)

end Mosaic
