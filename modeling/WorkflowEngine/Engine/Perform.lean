import WorkflowEngine.Action.Registry
import WorkflowEngine.Engine.Scene
import WorkflowEngine.Expression.Evaluation
import WorkflowEngine.Http.Client
import WorkflowEngine.Reading.Container

/-!
# Performing tasks

What a node does with its input: it passes the input on, dispatches an action, chooses a branch,
computes a value, waits, or sends a request.
-/

namespace WorkflowEngine

/-- What tasks of a run have at hand. -/
structure Setting where
  workflow : Workflow
  registry : Registry
  /-- The limit for requests in milliseconds where a node has none. -/
  requestLimit : Int
  /-- The parameters of the actions under the ids of their nodes, shared by all visits. -/
  parameters : List (String × Value)

/-- An output, and the nodes it goes to unless it goes along all edges. -/
abbrev Product := Value × Option (List String)

namespace Act

open WorkflowEngine

/-- Milliseconds as seconds. -/
def secondsOf (milliseconds : Int) : Act Number :=
  lift (Number.divideInts milliseconds 1000)

/-- Dispatches an action and reports on it. -/
def dispatch (setting : Setting) (n : Node) (c : ActionConfig) (input : Value) : Act Value := do
  info ("Executing action: " ++ c.actionType)
  let wait ← match c.timeout with
    | some limit => do pure (some (← secondsOf limit))
    | none => pure none
  let s ← scene
  let parameters := (setting.parameters.lookup n.id).getD .null
  let (outcome, desk) := setting.registry.dispatch c.actionType input parameters wait ⟨s.heap, []⟩
  change fun s => { s with heap := desk.heap }
  match outcome with
  | .error (.fault f) => fail f
  | .error (.refused e) => throw e.message
  | .ok value =>
    let report ← onHeap (Eval.newDict
      [(.str "success", .bool true), (.str "actionType", .str c.actionType), (.str "timestamp", .str s.now.text),
       (.str "input", input), (.str "output", value)])
    lift report

/-- The word for a branch. -/
def branchName (holds : Bool) : String :=
  if holds then "true" else "false"

/-- Evaluates conditions and chooses the first edge for their result. -/
def choose (setting : Setting) (n : Node) (c : ConditionConfig) (input : Value) : Act Product := do
  info ("Evaluating condition: " ++ c.junction.name)
  let s ← scene
  let (holds, results) ← lift (Condition.evaluateOn s.heap c.junction.name input (.dict s.vars) c.conditions)
  note .info ("Condition result: " ++ (Data.bool holds).text)
    (Data.ofFields [("results", .list (results.map Data.bool))])
  match (setting.workflow.outgoing n.id).find? fun e => e.isBranch holds with
  | some e => return (input, some [e.target])
  | none =>
    info ("No '" ++ branchName holds ++ "' branch connected; ending this path")
    return (input, some [])

/-- Computes a value, and keeps it in a variable if one is named. -/
def compute (c : TransformConfig) (input : Value) : Act Value := do
  info ("Executing transform: " ++ c.kind.name)
  let s ← scene
  match ← onHeap (Expression.evaluate Expression.standardFunctions c.expression input (.dict s.vars)) with
  | .error f => say ("Transform expression error: " ++ f.message)
  | .ok value =>
    match c.outputVariable with
    | some name => if name != "" then change fun s => s.assign name value
    | none => pure ()
    return value

/-- Waits. -/
def wait (c : DelayConfig) : Act Unit := do
  info ("Delaying for " ++ (Data.float c.duration).text ++ " " ++ c.unit.name)
  let seconds := c.duration * Decimal.floatOfInt c.unit.milliseconds / 1000.0
  change fun s => { s with clock := s.clock.sleep seconds }

/-- Entries where later ones take the place of earlier ones under the same name. -/
def merged (first second : List (String × String)) : List (String × String) :=
  Reading.mergeKeys (first ++ second)

/-- Sends a request. -/
def request (setting : Setting) (c : ApiConfig) : Act Value := do
  info ("Making " ++ c.method.name ++ " request to " ++ c.url)
  let proof ← lift (Authentication.headersOf c.authentication)
  let limit ← secondsOf (c.timeout.getD setting.requestLimit)
  let s ← scene
  let sent := Http.prepare c.method.name c.url (merged (c.headers.getD []) proof) c.body limit
  let (outcome, transport) := Http.send s.transport sent
  change fun s => { s with transport := transport }
  match outcome with
  | .error (.refused e) => say e.message
  | .error (.fault f) => fail f
  | .ok response =>
    let loaded ← onHeap (Eval.load response.toData)
    lift loaded

/-- Performs the task of a node on an input. -/
def perform (setting : Setting) (n : Node) (input : Value) : Act Product :=
  match n.task with
  | .trigger => pure (input, none)
  | .action c => do return (← dispatch setting n c input, none)
  | .condition c => choose setting n c input
  | .transform c => do return (← compute c input, none)
  | .delay c => do
    wait c
    return (input, none)
  | .api c => do return (← request setting c, none)
  | .ending => do
    info "Reached end node"
    return (input, some [])

end Act

end WorkflowEngine
