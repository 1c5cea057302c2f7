import WorkflowEngine.Data.Basic
import WorkflowEngine.Definition.Record
import WorkflowEngine.Time.Clock

/-!
# Traces of runs

A run leaves a record: what it was given, every visit to a node with its input and its output, and how
it ended.  A record is made of data at rest, so nothing that happens later can change it.
-/

namespace WorkflowEngine

/-- How far a run or a visit has come. -/
inductive RunStatus where
  | pending
  | running
  | completed
  | failed
deriving Repr, DecidableEq, Inhabited

/-- The word for a status. -/
def RunStatus.name : RunStatus → String
  | .pending => "pending"
  | .running => "running"
  | .completed => "completed"
  | .failed => "failed"

/-- How much a line of the log matters. -/
inductive LogLevel where
  | debug
  | info
  | warn
  | error
deriving Repr, DecidableEq, Inhabited

namespace LogLevel

/-- All levels of the log. -/
def all : List LogLevel := [.debug, .info, .warn, .error]

/-- The word for a level of the log. -/
def name : LogLevel → String
  | .debug => "debug"
  | .info => "info"
  | .warn => "warn"
  | .error => "error"

end LogLevel

/-- A line of the log of a run. -/
structure LogLine where
  time : Instant
  level : LogLevel
  message : String
  data : Data
deriving Repr, Inhabited

/-- What kind of failure ended a run or a visit. -/
inductive RunErrorCode where
  | node
  | run
  | validation
deriving Repr, DecidableEq, Inhabited

/-- The word for a kind of failure. -/
def RunErrorCode.name : RunErrorCode → String
  | .node => "NODE_EXECUTION_ERROR"
  | .run => "WORKFLOW_EXECUTION_ERROR"
  | .validation => "WORKFLOW_VALIDATION_ERROR"

/-- Why a run or a visit failed. -/
structure RunError where
  code : RunErrorCode
  message : String
  time : Instant
  nodeId : Option String
deriving Repr, DecidableEq, Inhabited

/-- One visit to a node. -/
structure Visit where
  nodeId : String
  status : RunStatus
  start : Instant
  finish : Option Instant
  duration : Option Float
  input : Data
  output : Data
  error : Option RunError
  log : List LogLine
deriving Repr, Inhabited

/-- The record of a run. -/
structure Run where
  id : String
  workflowId : String
  workflowVersion : Int
  status : RunStatus
  start : Instant
  finish : Option Instant
  duration : Option Float
  visits : List Visit
  vars : Data
  triggeredBy : String
  error : Option RunError
deriving Repr, Inhabited

namespace Run

/-- A run that has not begun. -/
def pending (id workflowId : String) (workflowVersion : Int) (triggeredBy : String) (start : Instant) : Run where
  id := id
  workflowId := workflowId
  workflowVersion := workflowVersion
  status := .pending
  start := start
  finish := none
  duration := none
  visits := []
  vars := .dict []
  triggeredBy := triggeredBy
  error := none

/-- The run ends at an instant. -/
def finishAt (r : Run) (now : Instant) : Run :=
  { r with finish := some now, duration := some (r.start.millisecondsUntil now) }

end Run

end WorkflowEngine

/-!
## Writing traces

A record of a run is written with all its fields.  The path by which a failure came up is not kept; a
mark stands in its place.  How the zone of an instant is written is up to the reader of the record.
-/

namespace WorkflowEngine

/-- An instant as data, where there may be none. -/
def Instant.dataIn (zone : String) : Option Instant → Data
  | some i => .str (i.textIn zone)
  | none => .null

/-- A span as data, where there may be none. -/
def spanData : Option Float → Data
  | some x => .float x
  | none => .null

/-- The fields of a line of the log, with what stands for the zone of its time. -/
def LogLine.fieldsIn (zone : String) (l : LogLine) : Record :=
  [("timestamp", .str (l.time.textIn zone)), ("level", .str l.level.name), ("message", .str l.message),
   ("data", l.data)]

/-- What stands for the path by which a failure came up. -/
def stackMark : String := "<stack>"

/-- The fields of a failure. -/
def RunError.fieldsIn (zone : String) (e : RunError) : Record :=
  [("code", .str e.code.name), ("message", .str e.message), ("timestamp", .str (e.time.textIn zone)),
   ("recoverable", .bool false), ("node_id", .ofStr? e.nodeId), ("stack", .str stackMark)]

/-- A failure as data, where there may be none. -/
def RunError.dataIn (zone : String) : Option RunError → Data
  | some e => (e.fieldsIn zone).toData
  | none => .null

/-- Lines of the log as data. -/
def LogLine.listIn (zone : String) (lines : List LogLine) : Data :=
  .list (lines.map fun l => (l.fieldsIn zone).toData)

/-- The fields of a visit. -/
def Visit.fieldsIn (zone : String) (v : Visit) : Record :=
  [("node_id", .str v.nodeId), ("status", .str v.status.name), ("start_time", .str (v.start.textIn zone)),
   ("end_time", Instant.dataIn zone v.finish), ("duration", spanData v.duration), ("input", v.input),
   ("output", v.output), ("error", RunError.dataIn zone v.error), ("logs", LogLine.listIn zone v.log)]

/-- The fields of a run. -/
def Run.fieldsIn (zone : String) (r : Run) : Record :=
  [("id", .str r.id), ("workflow_id", .str r.workflowId), ("workflow_version", .int r.workflowVersion),
   ("status", .str r.status.name), ("start_time", .str (r.start.textIn zone)),
   ("end_time", Instant.dataIn zone r.finish), ("duration", spanData r.duration),
   ("node_executions", .list (r.visits.map fun v => (v.fieldsIn zone).toData)), ("variables", r.vars),
   ("triggered_by", .str r.triggeredBy), ("error", RunError.dataIn zone r.error)]

/-- The fields of a line of the log, with the distance of its time to universal time. -/
def LogLine.fields (l : LogLine) : Record :=
  l.fieldsIn Instant.universalZone

/-- The fields of a run, with the distance of its times to universal time. -/
def Run.fields (r : Run) : Record :=
  r.fieldsIn Instant.universalZone

end WorkflowEngine
