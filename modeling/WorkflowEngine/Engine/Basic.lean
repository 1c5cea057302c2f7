import WorkflowEngine.Config.Basic
import WorkflowEngine.Engine.Run
import WorkflowEngine.Store.Basic

/-!
# The engine

The engine carries out runs, one after the other, and keeps their records in its store until their
time is over.
-/

namespace WorkflowEngine

/-- The store of an engine, which counts retention in seconds. -/
abbrev RunStore := Store Number Float Run LogLine

namespace RunStore

/-- When a record that is final now is to be removed. -/
def deadline (s : RunStore) (clock : Clock) : Except Fault Float :=
  s.retention.toFloat.map fun seconds => clock.reading + seconds

/-- The record under an id is final from now on. -/
def finalizeNow (s : RunStore) (clock : Clock) (id : String) : Except Fault RunStore :=
  if (s.find? id).isSome then (deadline s clock).map (s.finalize id) else .ok s

end RunStore

/-- A copy of the record of a run. -/
def Run.copy (r : Run) : Except Fault Run :=
  r.vars.copy.map fun vars => { r with vars := vars }

/-- An engine. -/
structure Engine where
  registry : Registry
  transport : Http.Transport
  store : RunStore
  clock : Clock
  /-- The most visits to nodes in a run. -/
  limit : Int
  /-- The limit for requests in milliseconds where a node has none. -/
  requestLimit : Int
  /-- Every definition is taken as valid. -/
  isPermissive : Bool
  /-- How many ids were given to runs. -/
  issued : Nat

namespace Engine

/-- The most visits where nothing else is said. -/
def usualLimit : Int := 10000

/-- The limit for requests where nothing else is said. -/
def usualRequestLimit : Int := 30000

/-- How long records are kept where nothing else is said. -/
def usualRetention : Number := .float 300.0

/-- An engine with a store, which is replaced by a fresh one if it is empty. -/
def make (registry : Registry) (transport : Http.Transport) (clock : Clock) (retention : Number) (limit requestLimit : Int)
    (isPermissive : Bool) (store : Option RunStore) : Engine where
  registry := registry
  transport := transport
  store := (store.filter fun s => s.size != 0).getD (.empty retention)
  clock := clock
  limit := limit
  requestLimit := requestLimit
  isPermissive := isPermissive
  issued := 0

/-- An engine as a configuration describes it. -/
def ofConfig (registry : Registry) (transport : Http.Transport) (clock : Clock) (isPermissive : Bool) (c : Config) :
    Engine :=
  make registry transport clock (.float c.retentionSeconds) c.visitLimit c.requestLimit isPermissive none

/-- The id of the next run. -/
def nextId (e : Engine) : String :=
  "exec-" ++ toString (e.issued + 1)

/-- Checks a definition. -/
def validate (e : Engine) (w : Workflow) : Except Fault Report :=
  if e.isPermissive then .ok (.of [] []) else w.validate

/-- What a run of a workflow is given. -/
def order (e : Engine) (w : Workflow) (input : Data) : Order :=
  ⟨w, input, e.isPermissive, e.registry, e.limit, e.requestLimit⟩

/-- Carries out a run whose record is stored under its id. -/
def carryOut (e : Engine) (w : Workflow) (input : Data) (pending : Run) : Except Fault Run × Engine :=
  let (outcome, s) := (e.order w input).carryOut (Scene.start e.clock e.transport)
  let (record, s) := Order.settle pending outcome s
  let store := s.log.reverse.foldl (fun (kept : RunStore) l => kept.append record.id l) (e.store.replace record.id record)
  let e := { e with store := store, clock := s.clock, transport := s.transport }
  match RunStore.finalizeNow store e.clock record.id with
  | .error f => (.error f, e)
  | .ok final => (record.copy, { e with store := final })

/-- Runs a workflow and answers with its record. -/
def execute (e : Engine) (w : Workflow) (input : Data) (triggeredBy : String) : Except Fault Run × Engine :=
  let pending := Run.pending e.nextId w.id w.version triggeredBy e.clock.now
  let e := { e with issued := e.issued + 1 }
  match e.store.create e.clock.reading pending.id pending with
  | (.error refusal, store) => (.error (.valued refusal.message), { e with store := store })
  | (.ok (), store) => carryOut { e with store := store } w input pending

/-- A copy of the record under an id. -/
def get? (e : Engine) (id : String) : Except Fault (Option Run) × Engine :=
  match e.store.get? e.clock.reading id with
  | (none, store) => (.ok none, { e with store := store })
  | (some record, store) => (record.copy.map some, { e with store := store })

/-- The log under an id. -/
def log (e : Engine) (id : String) : List LogLine × Engine :=
  let (lines, store) := e.store.log e.clock.reading id
  (lines, { e with store := store })

end Engine

end WorkflowEngine
