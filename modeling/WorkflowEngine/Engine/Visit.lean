import WorkflowEngine.Engine.Perform
import WorkflowEngine.Engine.Walk
import WorkflowEngine.Reading.Container

/-!
# Visits

A visit performs the task of a node and leaves a record of it.  The record keeps the input as it was
before and the output as it was after, so it is not touched by what others do to the values.
-/

namespace WorkflowEngine

/-- Why a run fails, and at which node, if it is one that fails it. -/
structure RunFailure where
  code : RunErrorCode
  message : Data
  nodeId : Option String
deriving Repr, Inhabited

namespace RunFailure

/-- A run fails in words. -/
def say (message : String) : RunFailure :=
  ⟨.run, .str message, none⟩

/-- A run fails by a fault. -/
def ofFault (f : Fault) : RunFailure :=
  say f.summary

end RunFailure

/-- The message of a failure as it is kept, or what is said where it cannot be kept. -/
def keptMessage (message : Data) : Except String String :=
  match (Reading.text message).inside "message" with
  | .ok text => .ok text
  | .refused issues =>
    .error (Finding.notice "ExecutionError" (issues.map fun i => ⟨i, message⟩))
  | .failed f => .error f.summary

namespace Visit

/-- A visit that begins. -/
def begin (n : Node) (input : Data) (now : Instant) : Visit where
  nodeId := n.id
  status := .running
  start := now
  finish := none
  duration := none
  input := input
  output := .null
  error := none
  log := []

/-- The visit ends at an instant, with a status and the lines that were written, the latest first. -/
def finishAt (v : Visit) (now : Instant) (status : RunStatus) (lines : List LogLine) : Visit :=
  { v with status := status, finish := some now, duration := some (v.start.millisecondsUntil now),
           log := lines.reverse }

/-- How long the visit took, in words. -/
def durationText (v : Visit) : String :=
  wholeMilliseconds (v.duration.getD 0.0)

end Visit

namespace Act

/-- Does what a node is there for and keeps the output as it is then. -/
def complete (task : Node → Value → Act Product) (n : Node) (input : Value) : Act (Product × Data) := do
  info ("Executing node: " ++ n.displayName ++ " (" ++ n.kind.name ++ ")")
  let product ← task n input
  let output ← lift ((← scene).heap.snapshot product.1)
  return (product, output)

end Act

namespace Scene

/-- Keeps the record of a visit that is over. -/
def keep (s : Scene) (v : Visit) : Scene :=
  { s with visits := v :: s.visits }

/-- The visit is over with an output. -/
def completeVisit (n : Node) (begun : Visit) (output : Data) (stage : Stage) : Scene :=
  let ended := begun.finishAt stage.scene.now .completed []
  let l := stage.scene.line .info ("Node completed: " ++ n.displayName ++ " (" ++ ended.durationText ++ "ms)") .null
  (stage.scene.write l).keep { ended with output := output, log := (l :: stage.lines).reverse }

/-- The visit is over with a failure, which ends the run unless runs go on. -/
def failVisit (workflow : Workflow) (n : Node) (begun : Visit) (message : NodeFailure) (stage : Stage) :
    Passage RunFailure Value × Scene :=
  let now := stage.scene.now
  let ended := begun.finishAt now .failed stage.lines
  match keptMessage message with
  | .error said => (.stopped (.say said), stage.scene.keep ended)
  | .ok kept =>
    let l := stage.scene.line .error ("Node failed: " ++ n.displayName ++ " - " ++ message.text) .null
    let record :=
      { ended with error := some ⟨.node, kept, now, some n.id⟩, log := (l :: stage.lines).reverse }
    let s := (stage.scene.write l).keep record
    match workflow.errorHandling with
    | .stop => (.stopped ⟨.run, message, some n.id⟩, s)
    | .continue => (.ended, s)

/-- Visits a node with an input, where nodes do the given tasks. -/
def visit (workflow : Workflow) (task : Node → Value → Act Product) (n : Node) (input : Value) (s : Scene) :
    Passage RunFailure Value × Scene :=
  match s.heap.snapshot input with
  | .error f => (.stopped (.ofFault f), s)
  | .ok given =>
    let begun := Visit.begin n given s.now
    match (Act.complete task n input).run ⟨s, []⟩ with
    | (.ok ((value, chosen), output), stage) => (.onward value chosen, completeVisit n begun output stage)
    | (.error message, stage) => failVisit workflow n begun message stage

/-- A copy of a value for each of some nodes. -/
def copies (v : Value) (done : List (String × Value)) (h : Heap) :
    List String → Except Fault (List (String × Value)) × Heap
  | [] => (.ok done.reverse, h)
  | id :: rest =>
    match h.copy v with
    | .error f => (.error f, h)
    | .ok (fresh, h) => copies v ((id, fresh) :: done) h rest

/-- Gives the output to one node as it is, and to several ones as copies. -/
def spread (v : Value) (ids : List String) (s : Scene) : Except RunFailure (List (String × Value)) × Scene :=
  match ids with
  | [id] => (.ok [(id, v)], s)
  | ids =>
    match copies v [] s.heap ids with
    | (.ok inputs, h) => (.ok inputs, { s with heap := h })
    | (.error f, h) => (.error (.ofFault f), { s with heap := h })

end Scene

end WorkflowEngine
