import Clickstream.Log.Record

/-!
# Query logs

A query log writes the records of one request. Each record carries the context of the request, over
which the context of the notice goes. A block of work may be timed: the record tells the
milliseconds that the block took, and a block that fails leaves no record.
-/

namespace Clickstream

/-- What is to be logged. -/
structure Notice where
  level : Int
  template : String
  arguments : List Value
  context : Fields
  cause : Option Cause
  deriving Repr

structure QueryLog where
  logger : String
  /-- The level from which on notices become records. -/
  threshold : Int
  /-- The context of the request. -/
  context : Fields
  deriving Repr

/-- A block of work that is timed: the clock at its start and at its end in seconds, what it reports
about itself, and the text of the condition that ends it, if one does. -/
structure TimedBlock where
  start : Binary64
  stop : Binary64
  report : Fields
  failed : Option String
  deriving Repr

namespace QueryLog

/-- The name of the logger of a part of the service. -/
def loggerName (part : String) : String :=
  serviceName ++ "." ++ part

/-- The record of a notice, if its level passes. -/
def record? (log : QueryLog) (created : Binary64) (notice : Notice) : Outcome (Option Record) :=
  if Level.passes log.threshold notice.level then
    let context := log.context.update notice.context
    match Record.checkContext context with
    | .error e => .error e
    | .ok () =>
      .ok (some ⟨log.logger, notice.level, notice.template, notice.arguments, notice.cause, context,
        created⟩)
  else .ok none

/-- The line of a notice, if its level passes. -/
def line? (log : QueryLog) (created : Binary64) (notice : Notice) : Outcome (Option String) := do
  match ← log.record? created notice with
  | some record => return some (← record.line)
  | none => return none

end QueryLog

namespace TimedBlock

/-- The duration in milliseconds, with two decimal places. -/
def milliseconds (block : TimedBlock) : Binary64 :=
  ((block.stop.sub block.start).mul (.ofRatio false 1000 1)).roundPlaces 2

/-- The notice of a block: which query has finished, what the block reports, and its duration. A
block that is ended by a condition passes it on. -/
def notice (block : TimedBlock) (level : Int) (context : Fields) : Outcome Notice :=
  match block.failed with
  | some text => raise (.block text)
  | none =>
    let query := (Bindings.get? context "query").getD (.text "query")
    let report := Bindings.update [] block.report
    .ok ⟨level, "%s finished", [query], report.set "duration_ms" (.real block.milliseconds), none⟩

end TimedBlock

/-- The line of a timed block, if its level passes. -/
def QueryLog.timedLine? (log : QueryLog) (created : Binary64) (level : Int) (block : TimedBlock) :
    Outcome (Option String) := do
  log.line? created (← block.notice level log.context)

end Clickstream
