import WorkflowEngine.Action.Sample
import WorkflowEngine.Engine.Basic
import WorkflowEngine.Proofs.Run.Course
import WorkflowEngine.Proofs.Store.Lookup
import WorkflowEngine.Proofs.Walk.Invariant

/-!
# Settled records

A run that was carried out leaves a record under its id that says how it ended, and none of its visits is
left unfinished.  The record is final from then on.  It is answered with unless a variable holds something
that cannot be copied.
-/

namespace WorkflowEngine

/-- The record says how the run ended: it completed without an error or failed with one, at some instant, and
all of its visits are over. -/
structure Run.IsSettled (r : Run) : Prop where
  timed : ∃ last, r.finish = some last ∧ r.duration = some (r.start.millisecondsUntil last)
  ended : r.status = .completed ∧ r.error = none ∨ r.status = .failed ∧ ∃ e, r.error = some e
  visits : ∀ v ∈ r.visits, v.IsOver

namespace Order

variable {o : Order}

/-- The turns of a walk leave all visits over. -/
theorem over_invariant (words : o.registry.RefusesInWords) (parameters : List (String × Value)) :
    (o.guide (o.task parameters)).recording.Invariant (fun _ s => ∀ v ∈ s.1.visits, v.IsOver)
      (fun s => ∀ v ∈ s.1.visits, v.IsOver) := by
  refine Guide.invariant_of_keeps (fun n input s _ before => ?_) (fun output ids s before => ?_)
  · exact (Scene.visited_of_visit rfl).ended (Act.steady_perform _ n input) (Act.inWords_perform words n input) before
  · intro v listed
    exact before v ((Scene.spread_visits output ids s.1) ▸ listed)

/-- All visits of a run are over. -/
theorem carryOut_over (words : o.registry.RefusesInWords) {s : Scene} (before : ∀ v ∈ s.visits, v.IsOver) :
    ∀ v ∈ (o.carryOut s).2.visits, v.IsOver := by
  cases begun : o.outset? s with
  | none =>
      rw [visits_of_no_outset begun]
      exact before
  | some b =>
      rw [← visits_of_outset begun] at before
      have final := walkWith_invariant b.payload b.scene (over_invariant words b.parameters)
        (fun _ _ _ => before) fun _ _ _ => before
      rw [carryOut_of_outset begun]
      exact final

/-- The record of a run is settled if all of its visits are over. -/
theorem settle_isSettled (id workflowId : String) (version : Int) (by_ : String) (start : Instant)
    (outcome : Except RunFailure Unit) {s : Scene} (ended : ∀ v ∈ s.visits, v.IsOver) :
    (settle (Run.pending id workflowId version by_ start) outcome s).1.IsSettled := by
  have listed : ∀ v ∈ s.visits.reverse, v.IsOver := fun v member => ended v (List.mem_reverse.mp member)
  cases outcome with
  | ok done => exact ⟨⟨_, rfl, rfl⟩, .inl ⟨rfl, rfl⟩, listed⟩
  | error e => exact ⟨⟨_, rfl, rfl⟩, .inr ⟨rfl, _, rfl⟩, listed⟩

theorem settle_id (pending : Run) (outcome : Except RunFailure Unit) (s : Scene) :
    (settle pending outcome s).1.id = pending.id := by
  cases outcome <;> rfl

end Order

/-- A record that is stored is final from the end of its run on, for as long as records are kept. -/
theorem RunStore.finalizeNow_of_find? {s : RunStore} {clock : Clock} {id : String} {entry : Entry Float Run LogLine}
    (found : s.find? id = some entry) {seconds : Float} (lasting : s.retention.toFloat = .ok seconds) :
    s.finalizeNow clock id = .ok (s.finalize id (clock.reading + seconds)) := by
  unfold finalizeNow deadline
  rw [found, lasting]
  rfl

namespace Engine

variable {e : Engine}

/-- A run whose pending record is stored leaves a settled one in its place, which is final. -/
theorem carryOut_settles (w : Workflow) (input : Data) {id workflowId triggeredBy : String} {version : Int} {start : Instant}
    {entry : Entry Float Run LogLine} (stored : e.store.find? id = some entry) {seconds : Float}
    (lasting : e.store.retention.toFloat = .ok seconds) (words : e.registry.RefusesInWords) {pending : Run}
    (made : pending = Run.pending id workflowId version triggeredBy start) :
    ∃ record : Run, record.id = id ∧ record.IsSettled ∧ (e.carryOut w input pending).1 = record.copy ∧
      (((e.carryOut w input pending).2.store.find? id).map Entry.record) = some record ∧
      id ∉ (e.carryOut w input pending).2.store.active := by
  have ended : ∀ v ∈ ((e.order w input).carryOut (Scene.start e.clock e.transport)).2.visits, v.IsOver :=
    Order.carryOut_over (o := e.order w input) words fun v listed => absurd listed List.not_mem_nil
  unfold carryOut
  rcases ran : (e.order w input).carryOut (Scene.start e.clock e.transport) with ⟨outcome, s⟩
  rw [ran] at ended
  subst made
  have settled := Order.settle_isSettled id workflowId version triggeredBy start outcome ended
  have named := Order.settle_id (Run.pending id workflowId version triggeredBy start) outcome s
  dsimp only
  rcases settling : Order.settle (Run.pending id workflowId version triggeredBy start) outcome s with ⟨record, t⟩
  rw [settling] at settled named
  replace named : record.id = id := named
  dsimp only
  rw [named]
  have replaced : (e.store.replace id record).find? id = some { entry with record := record } := by
    rw [Store.replace, Store.find?_change (by exact fun _ => rfl), stored]
    rfl
  have kept := Store.find?_append t.log.reverse replaced
  have retained := Store.retention_append (e.store.replace id record) id t.log.reverse
  rw [RunStore.finalizeNow_of_find? kept (retained.symm ▸ lasting)]
  refine ⟨record, named, settled, rfl, ?_, Store.not_mem_active_finalize _⟩
  rw [Store.finalize, Store.find?_change (by exact fun _ => rfl), kept]
  rfl

/-- Running a workflow under an id that is not taken ends with a settled record that is stored under the id and
is no longer active.  The answer is the record unless a variable holds something that cannot be copied. -/
theorem execute_settles (e : Engine) (w : Workflow) (input : Data) (triggeredBy : String)
    (fresh : (e.store.purge e.clock.reading).2.find? e.nextId = none) {seconds : Float}
    (lasting : e.store.retention.toFloat = .ok seconds) (words : e.registry.RefusesInWords) :
    ∃ record : Run, record.id = e.nextId ∧ record.IsSettled ∧
      (((e.execute w input triggeredBy).2.store.find? e.nextId).map Entry.record) = some record ∧
      e.nextId ∉ (e.execute w input triggeredBy).2.store.active ∧
      (e.execute w input triggeredBy).1 =
        match record.vars.copyFault? with
        | none => .ok record
        | some f => .error f := by
  obtain ⟨store, created, stored, retained⟩ :=
    Store.create_of_fresh (Run.pending e.nextId w.id w.version triggeredBy e.clock.now) fresh
  have begun : e.execute w input triggeredBy =
      carryOut { e with issued := e.issued + 1, store := store } w input
        (Run.pending e.nextId w.id w.version triggeredBy e.clock.now) := by
    unfold execute
    dsimp only
    rw [show (Run.pending e.nextId w.id w.version triggeredBy e.clock.now).id = e.nextId from rfl, created]
  obtain ⟨record, named, settled, answered, found, idle⟩ :=
    carryOut_settles (e := { e with issued := e.issued + 1, store := store }) w input stored
      (retained ▸ lasting) words rfl
  rw [begun]
  refine ⟨record, named, settled, found, idle, ?_⟩
  rw [answered, Run.copy, Data.copy]
  cases record.vars.copyFault? <;> rfl

/-- An engine without records, with some handlers. -/
def fresh (r : Registry) : Engine :=
  make r ⟨[], []⟩ .start usualRetention usualLimit usualRequestLimit false none

/-- A trigger and one node after it, in a workflow that goes on at failures. -/
def pair (task : Task) : Workflow where
  id := "pair"
  version := 1
  name := "pair"
  nodes := [⟨"first", "", .trigger, none⟩, ⟨"second", "", task, none⟩]
  edges := [⟨"1", "first", "second", none, none⟩]
  errorHandling := .continue

/-- A handler that changes its input in place has its run settled as well. -/
theorem execute_mutating_settles :
    let e := fresh ⟨[("mutate", ⟨Sample.mutating, ""⟩)]⟩
    let w := pair (.action ⟨"mutate", [], none⟩)
    (e.store.purge e.clock.reading).2.find? e.nextId = none ∧ e.store.retention.toFloat = .ok 300.0 ∧
      e.registry.RefusesInWords ∧
      ∃ record : Run, record.id = e.nextId ∧ record.IsSettled ∧
        (((e.execute w .null "").2.store.find? e.nextId).map Entry.record) = some record ∧
        e.nextId ∉ (e.execute w .null "").2.store.active ∧
        (e.execute w .null "").1 =
          match record.vars.copyFault? with
          | none => .ok record
          | some f => .error f := by
  intro e w
  have words : e.registry.RefusesInWords := by
    intro entry listed input named d message d' refused
    rw [List.mem_singleton.mp listed] at refused
    change (Work.onHeap (Sample.setItem input "mutated" (.bool true)) >>= fun _ => pure input).run d = _ at refused
    rw [Work.run_bind, Work.run_onHeap] at refused
    generalize Eval.run (Sample.setItem input "mutated" (.bool true)) d.heap = ran at refused
    rcases ran with ⟨_ | done, h⟩
    · cases refused
    · cases refused
  exact ⟨rfl, rfl, words, e.execute_settles w .null "" rfl rfl words⟩

/-- A variable that cannot be copied keeps the run from answering, and a refusal that is no text leaves a failed
visit without an error. -/
theorem execute_does_not_answer_or_settle :
    (match ((fresh .empty).execute (pair (.transform ⟨.map, "int.real", some "x"⟩)) .null "").1 with
      | .error f => f.message
      | .ok _ => "") = "cannot pickle 'getset_descriptor' object" ∧
    (match ((fresh (Sample.registryOf ["dispatch_error"])).execute
        (pair (.action ⟨"dispatch_error", [("message", .int 5)], none⟩)) .null "").1 with
      | .error _ => []
      | .ok record => record.visits.map fun v => (v.status, v.error.isSome)) =
        [(.completed, false), (.failed, false)] := by
  decide +kernel

end Engine

end WorkflowEngine
