import WorkflowEngine.Engine.Visit
import WorkflowEngine.Validation.Checker

/-!
# Runs

A run takes a copy of its input, checks the definition, and walks it from its triggers.  Whatever
happens on the way, it ends with a record and a log.
-/

namespace WorkflowEngine

/-- What a run is given. -/
structure Order where
  workflow : Workflow
  input : Data
  /-- The definition is taken as valid. -/
  isTrusted : Bool
  registry : Registry
  /-- The most visits to nodes. -/
  limit : Int
  /-- The limit for requests in milliseconds where a node has none. -/
  requestLimit : Int

namespace Scene

/-- The scene before a run, with the record of nothing yet. -/
def start (clock : Clock) (transport : Http.Transport) : Scene :=
  let (vars, h) := Heap.empty.alloc (.dict [])
  ⟨h, clock, transport, vars, [], []⟩

/-- Writes a line without data. -/
def note (s : Scene) (level : LogLevel) (message : String) : Scene :=
  s.write (s.line level message .null)

/-- Puts data on the heap. -/
def load (s : Scene) (d : Data) : Value × Scene :=
  let (v, h) := s.heap.load d
  (v, { s with heap := h })

/-- A value with containers of its own. -/
def copy (s : Scene) (v : Value) : Except Fault (Value × Scene) :=
  (s.heap.copy v).map fun (v, h) => (v, { s with heap := h })

end Scene

/-- What is wrong with the names of variables. -/
def nameFindings (entries : List (Data × Data)) : List Finding :=
  entries.flatMap fun e =>
    match ((Reading.text e.1).inside "[key]").inside (Reading.keyStep e.1) with
    | .refused issues => issues.map fun i => ⟨i, e.1⟩
    | _ => []

/-- The entries of an input as variables. -/
def variableEntries (h : Heap) (entries : List (Value × Value)) : Reading (List (String × Value)) :=
  (Reading.entriesFrom (fun _ => .ok ()) .start (entries.map fun e => (h.view e.1, .null))).map fun names =>
    Reading.mergeKeys ((names.map Prod.fst).zip (entries.map Prod.snd))

namespace Scene

/-- The entries of an input become the variables. -/
def seed (s : Scene) (payload : Value) : Except String Scene :=
  match payload with
  | .dict _ =>
    match s.copy payload with
    | .error f => .error f.message
    | .ok (own, s) =>
      let entries := match own with
        | .dict a => s.heap.entries a
        | _ => []
      match variableEntries s.heap entries with
      | .ok named =>
        let cell : Cell := .dict (named.map fun e => (.str e.1, e.2))
        .ok { s with heap := s.heap.write s.vars cell }
      | .refused _ =>
        .error (Finding.notice "dict[str,any]"
          (nameFindings (entries.map fun e => (s.heap.view e.1, .null))))
      | .failed f => .error f.message
  | _ => .ok s

/-- Takes over the input, and makes variables of its entries. -/
def prepare (s : Scene) (input : Data) : Except RunFailure Value × Scene :=
  let refuse (message : String) : Except RunFailure Value × Scene :=
    (.error (.say ("Invalid workflow input: " ++ message)), s)
  let given := match input with
    | .null => Data.dict []
    | d => d
  let (v, loaded) := s.load given
  match loaded.copy v with
  | .error f => refuse f.message
  | .ok (payload, copied) =>
    match copied.seed payload with
    | .ok seeded => (.ok payload, seeded)
    | .error message => refuse message

/-- Writes the warnings about a definition into the log. -/
def warn (s : Scene) (warnings : List DefinitionWarning) : Scene :=
  warnings.foldl (fun s w =>
    s.write (s.line .warn ("Validation warning: " ++ w.message)
      (Data.ofFields [("nodeId", .ofStr? w.nodeId), ("type", .str w.kind.name)]))) s

/-- Puts the parameters of all actions on the heap. -/
def loadParameters (done : List (String × Value)) (s : Scene) : List Node → List (String × Value) × Scene
  | [] => (done.reverse, s)
  | n :: rest =>
    match n.task with
    | .action c =>
      let (v, s) := s.load (.ofFields c.parameters)
      loadParameters ((n.id, v) :: done) s rest
    | _ => loadParameters done s rest

end Scene

namespace Order

/-- The report on the definition. -/
def report (o : Order) : Except Fault Report :=
  if o.isTrusted then .ok (.of [] []) else o.workflow.validate

/-- How a definition that is not valid makes a run fail. -/
def invalid (r : Report) : RunFailure :=
  ⟨.validation, .str ("Workflow validation failed: " ++ ", ".intercalate (r.errors.map DefinitionError.message)),
    none⟩

/-- What the walk of a run does, where nodes do the given tasks. -/
def guide (o : Order) (task : Node → Value → Act Product) : Guide Scene RunFailure Value where
  workflow := o.workflow
  visit := Scene.visit o.workflow task
  spread := Scene.spread

/-- Walks the workflow from its triggers, each with a copy of the input, where nodes do the given tasks. -/
def walkWith (o : Order) (task : Node → Value → Act Product) (payload : Value) (s : Scene) :
    Ending RunFailure × Scene :=
  match Scene.copies payload [] s.heap (o.workflow.triggers.map Node.id) with
  | (.error f, h) => (.stopped (.ofFault f), { s with heap := h })
  | (.ok pending, h) => (o.guide task).walk o.limit.toNat pending { s with heap := h }

/-- What the nodes of a run do. -/
def task (o : Order) (parameters : List (String × Value)) : Node → Value → Act Product :=
  Act.perform ⟨o.workflow, o.registry, o.requestLimit, parameters⟩

/-- Walks the workflow from its triggers. -/
def walk (o : Order) (payload : Value) (s : Scene) : Ending RunFailure × Scene :=
  let (parameters, s) := Scene.loadParameters [] s o.workflow.nodes
  o.walkWith (o.task parameters) payload s

/-- What the end of the walk means for the run. -/
def outcome (o : Order) : Ending RunFailure → Except RunFailure Unit
  | .exhausted => .ok ()
  | .missing id => .error (.say ("Node " ++ id ++ " not found in workflow"))
  | .exceeded => .error (.say ("Node execution limit of " ++ Decimal.intText o.limit ++ " exceeded"))
  | .stopped e => .error e

/-- The scene where the walk begins, with a definition that was reported on. -/
def opening (o : Order) (r : Report) (s : Scene) : Scene :=
  let count := toString o.workflow.triggers.length
  (s.warn r.warnings).note .info ("Starting workflow execution with " ++ count ++ " trigger(s)")

/-- Checks the definition and walks it. -/
def proceed (o : Order) (payload : Value) (s : Scene) : Except RunFailure Unit × Scene :=
  let s := s.note .info "Validating workflow structure"
  match o.report with
  | .error f => (.error (.ofFault f), s)
  | .ok report =>
    if !report.valid then (.error (invalid report), s.warn report.warnings)
    else if o.workflow.triggers.isEmpty then
      (.error (.say "Workflow must have at least one trigger node"), s.warn report.warnings)
    else
      let (ending, s) := o.walk payload (o.opening report s)
      (o.outcome ending, s)

/-- Carries out a run. -/
def carryOut (o : Order) (s : Scene) : Except RunFailure Unit × Scene :=
  match s.prepare o.input with
  | (.error e, s) => (.error e, s)
  | (.ok payload, s) => o.proceed payload s

/-- The record of a run as it stands at the end. -/
def settle (pending : Run) (outcome : Except RunFailure Unit) (s : Scene) : Run × Scene :=
  let ended := { pending.finishAt s.now with visits := s.visits.reverse, vars := s.variablesData }
  match outcome with
  | .ok () =>
    ({ ended with status := .completed },
      s.note .info ("Workflow completed in " ++ wholeMilliseconds (ended.duration.getD 0.0) ++ "ms"))
  | .error e =>
    let message := match keptMessage e.message with
      | .ok kept => kept
      | .error said => said
    ({ ended with status := .failed, error := some ⟨e.code, message, s.now, e.nodeId⟩ },
      s.note .error ("Workflow failed: " ++ e.message.text))

end Order

end WorkflowEngine
