import WorkflowEngine.Action.Handler
import WorkflowEngine.Http.Client
import WorkflowEngine.Time.Clock
import WorkflowEngine.Trace.Basic

/-!
# The scene of a run

While a run is under way its values stand on a heap, among them the dictionary of its variables.  The
visits to nodes and the lines of the log pile up, the latest first.
-/

namespace WorkflowEngine

/-- A run under way. -/
structure Scene where
  heap : Heap
  clock : Clock
  transport : Http.Transport
  /-- Where the variables stand. -/
  vars : Address
  visits : List Visit
  log : List LogLine
deriving Repr, Inhabited

namespace Scene

/-- The present instant. -/
def now (s : Scene) : Instant :=
  s.clock.now

/-- A line that is written now. -/
def line (s : Scene) (level : LogLevel) (message : String) (data : Data) : LogLine :=
  ⟨s.now, level, message, data⟩

/-- Writes a line into the log. -/
def write (s : Scene) (l : LogLine) : Scene :=
  { s with log := l :: s.log }

/-- Gives a variable its value. -/
def assign (s : Scene) (name : String) (v : Value) : Scene :=
  let entries := s.heap.setEntry (s.heap.entries s.vars) (.str name) v
  { s with heap := s.heap.write s.vars (.dict entries) }

/-- The variables as data. -/
def variablesData (s : Scene) : Data :=
  s.heap.view (.dict s.vars)

end Scene

/-- What is said when a node fails; an action may refuse with something that is no text. -/
abbrev NodeFailure := Data

/-- The scene, and the lines written during the present visit, the latest first. -/
structure Stage where
  scene : Scene
  lines : List LogLine
deriving Repr, Inhabited

/-- Work at a node; what is done until it fails stays done. -/
abbrev Act (α : Type) : Type := ExceptT NodeFailure (StateM Stage) α

namespace Act

/-- The node fails in words. -/
def say {α : Type} (message : String) : Act α :=
  throw (.str message)

/-- The node fails by a fault. -/
def fail {α : Type} (f : Fault) : Act α :=
  say f.summary

/-- Takes over an outcome that does not depend on the scene. -/
def lift {α : Type} : Except Fault α → Act α
  | .ok a => pure a
  | .error f => fail f

/-- The scene as it stands. -/
def scene : Act Scene := do
  return (← get).scene

/-- Changes the scene. -/
def change (f : Scene → Scene) : Act Unit :=
  modify fun s => { s with scene := f s.scene }

/-- Writes a line into the log of the run and into that of the visit. -/
def note (level : LogLevel) (message : String) (data : Data) : Act Unit :=
  modify fun s =>
    let l := s.scene.line level message data
    ⟨s.scene.write l, l :: s.lines⟩

/-- Writes a line without data. -/
def info (message : String) : Act Unit :=
  note .info message .null

/-- Works on the heap alone. -/
def onHeap {α : Type} (e : Eval α) : Act (Except Fault α) := do
  let s ← scene
  let (outcome, h) := Eval.run e s.heap
  change fun s => { s with heap := h }
  return outcome

/-- Runs work on a stage. -/
def run {α : Type} (a : Act α) (s : Stage) : Except NodeFailure α × Stage :=
  ExceptT.run a s

/-- Work goes on where the first part of it has come to something. -/
theorem run_bind {α β : Type} (a : Act α) (f : α → Act β) (s : Stage) :
    run (a >>= f) s =
      match a.run s with
      | (.ok v, t) => (f v).run t
      | (.error e, t) => (.error e, t) := by
  unfold run
  rw [ExceptT.run_bind]
  simp only [bind, StateT.bind]
  rcases ExceptT.run a s with ⟨outcome, t⟩
  cases outcome <;> rfl

end Act

end WorkflowEngine
