import WorkflowEngine.Engine.Basic
import WorkflowEngine.Journal.Setup
import WorkflowEngine.Service.Reply
import WorkflowEngine.Service.Request
import WorkflowEngine.Trace.Basic
import WorkflowEngine.Validation.Report

/-!
# The service

The service answers requests, one after the other.  It holds the engine once it is started; until then
it can only give its title.  A failure that comes up while a request is answered ends in a reply too.
-/

namespace WorkflowEngine

/-- The service of a configuration. -/
structure Service where
  config : Config
  clock : Clock
  /-- The engine, once the service is started. -/
  engine : Option Engine

namespace Service

/-- The service before it is started. -/
def prepare (c : Config) (clock : Clock) : Service := ⟨c, clock, none⟩

/-- What a configuration asks of the journal. -/
def journalRequest (c : Config) : JournalRequest :=
  ⟨c.logLevel.name, c.logFile, some c.logFormat, c.logStructured, c.logSize, c.logBackups⟩

/-- Starts the service with an engine that has the built-in actions, once the journal is set up. -/
def start (s : Service) : Except Fault Service :=
  (Journal.setup (journalRequest s.config)).map fun _ =>
    { s with engine := some (.ofConfig Registry.empty.registerBuiltin.2 ⟨[], []⟩ s.clock false s.config) }

/-- What the engine does for a request. -/
abbrev Step := Engine → Except Fault Reply × Engine

/-- Answers by the engine, or says what is missing. -/
def withEngine (s : Service) (missing : String) (work : Step) : Except Fault Reply × Service :=
  match s.engine with
  | none => (Reply.refusal 500 (.str (missing ++ " not initialized")), s)
  | some e =>
    let (reply, e) := work e
    (reply, { s with clock := e.clock, engine := some e })

/-- Answers by the engine. -/
def withRuns (s : Service) (work : Step) : Except Fault Reply × Service :=
  s.withEngine "Execution engine" work

/-- Reads a document and goes on with what it holds. -/
def readDocument {α : Type} (read : Data → Reading α) (d : Data) (work : α → Step) : Step :=
  match read d with
  | .ok a => work a
  | .refused issues => fun e => (Reply.unreadable (issues.map (Finding.ofIssue d)), e)
  | .failed f => fun e => (.error f, e)

/-- Answers a request with a document by the engine; the document comes first, then the engine, then the reading. -/
def withDocument {α : Type} (s : Service) (read : Data → Reading α) (body : RequestBody) (work : α → Step) :
    Except Fault Reply × Service :=
  match body with
  | .malformed position => (Reply.unreadable [Finding.malformedAt position], s)
  | .excessive => (Reply.refusal 400 (.str "There was an error parsing the body"), s)
  | .empty => s.withRuns fun e => (Reply.unreadable [Finding.noDocument], e)
  | .document d => s.withRuns (readDocument read d work)

/-- A record with its log, as it is told. -/
def recordData (r : Run) (log : List LogLine) : Data :=
  Data.ofFields
    [("execution", (r.fieldsIn Instant.universalLetter).toData),
     ("logs", LogLine.listIn Instant.universalLetter log)]

/-- A log with the id of its run, as it is told. -/
def logData (r : Run) (log : List LogLine) : Data :=
  Data.ofFields [("executionId", .str r.id), ("logs", LogLine.listIn Instant.universalLetter log)]

/-- Checks a definition. -/
def validation (w : Workflow) : Step := fun e =>
  ((e.validate w).bind fun report => Reply.published (Data.ofFields [("validation", report.fields.toData)]), e)

/-- Runs a workflow and answers with its record and its log. -/
def execution (r : RunRequest) : Step := fun e =>
  match e.execute r.workflow (Data.ofFields r.input) r.triggeredBy with
  | (.error f, e) => (.error f, e)
  | (.ok record, e) =>
    let (log, e) := e.log record.id
    (Reply.published (recordData record log), e)

/-- Answers with what is kept under an id, made of its record and its log. -/
def kept (id : String) (told : Run → List LogLine → Data) : Step := fun e =>
  match e.get? id with
  | (.error f, e) => (.error f, e)
  | (.ok none, e) => (Reply.absent id, e)
  | (.ok (some record), e) =>
    let (log, e) := e.log id
    (Reply.published (told record log), e)

/-- The actions in the order of their names. -/
def actionsData (r : Registry) : Data :=
  .list ((r.list.mergeSort fun a b => a.1 ≤ b.1).map fun entry =>
    Data.ofFields [("actionType", .str entry.1), ("description", entry.2)])

/-- The actions that workflows may use. -/
def actions : Step := fun e =>
  (Reply.published (Data.ofFields [("actions", actionsData e.registry)]), e)

/-- How the engine is doing. -/
def health : Step := fun e =>
  (Reply.published (Data.ofFields
    [("status", .str "healthy"), ("activeExecutions", .int e.store.active.length),
     ("retainedExecutions", .int e.store.size), ("timestamp", .str e.clock.now.text)]), e)

/-- The title of the application. -/
def title (c : Config) : Except Fault Reply :=
  Reply.plain 200 (Data.ofFields
    [("message", .str (c.appName ++ " is running")), ("version", .str c.appVersion)])

/-- Works on a request for a route. -/
def serve (s : Service) (body : Option String) : Route → Except Fault Reply × Service
  | .title => (title s.config, s)
  | .validation => s.withDocument Workflow.read (.ofText? body) validation
  | .execution => s.withDocument RunRequest.read (.ofText? body) execution
  | .record id => s.withRuns (kept id recordData)
  | .log id => s.withRuns (kept id logData)
  | .actions => s.withEngine "Action registry" actions
  | .health => s.withRuns health

/-- Works on a request. -/
def handle (s : Service) (r : Request) : Except Fault Reply × Service :=
  match Routing.of r.method r.path with
  | .found route => s.serve r.body route
  | .barred => (Reply.refusal 405 (.str "Method Not Allowed"), s)
  | .elsewhere => (.ok Reply.elsewhere, s)
  | .unknown => (Reply.refusal 404 (.str "Not Found"), s)

/-- Answers a request; a fault is made a reply. -/
def answer (s : Service) (r : Request) : Reply × Service :=
  match s.handle r with
  | (.ok reply, s) => (reply, s)
  | (.error f, s) => (Reply.broken s.clock.now f.cls.name, s)

end Service

end WorkflowEngine
