import WorkflowEngine.Proofs.Run.Settled

/-!
# The record of a run

A run is concluded with a record: how it ended, its visits in order, and its variables.  If the walk of the run
sets out, the way the walk ends decides the record, and otherwise the input and the report on the definition do.
This is the record that an engine keeps under the id of the run.
-/

namespace WorkflowEngine

namespace Scene

variable {w : Workflow} {task : Node → Value → Act Product} {n : Node} {input : Value} {s : Scene}

/-- A visit leaves the visits before it as they are. -/
theorem suffix_visit (w : Workflow) (steady : (task n input).Steady) :
    s.visits <:+ (visit w task n input s).2.visits := by
  rcases visited : visit w task n input s with ⟨p, t⟩
  cases visited_of_visit visited with
  | unreadable faulty => exact List.suffix_refl _
  | completed read done =>
      rw [← complete_visits steady done]
      exact List.suffix_cons _ _
  | failed read done =>
      rename_i given message stage
      obtain ⟨v, left, -⟩ := failVisit_visits w n (Visit.begin n given s.now) message stage
      rw [left, complete_visits steady done]
      exact List.suffix_cons _ _

end Scene

namespace Order

variable {o : Order} {pending : Run} {s t : Scene}

/-- A walk only adds to the visits. -/
theorem prefix_walk (o : Order) {task : Node → Value → Act Product} (steady : ∀ n input, (task n input).Steady)
    (limit : Nat) (pending : List (String × Value)) (s : Scene) :
    s.visits.reverse <+: ((o.guide task).walk limit pending s).2.visits.reverse := by
  refine List.reverse_prefix.mpr ?_
  refine (Guide.invariant_of_keeps (I := fun t : Scene => s.visits <:+ t.visits) ?_ ?_).walk (List.suffix_refl _)
  · exact fun n input t _ before => before.trans (Scene.suffix_visit o.workflow (steady n input))
  · exact fun output ids t before => before.trans (Scene.spread_visits output ids t ▸ List.suffix_refl _)

/-- How a run ends that began as a pending record: its record, and the scene with the whole of its log. -/
def conclude (o : Order) (pending : Run) (s : Scene) : Run × Scene :=
  settle pending (o.carryOut s).1 (o.carryOut s).2

@[simp]
theorem settle_visits (pending : Run) (outcome : Except RunFailure Unit) (s : Scene) :
    (settle pending outcome s).1.visits = s.visits.reverse := by
  cases outcome <;> rfl

/-- The record lists the visits in the order in which they were taken. -/
theorem conclude_visits (o : Order) (pending : Run) (s : Scene) :
    (o.conclude pending s).1.visits = (o.carryOut s).2.visits.reverse :=
  settle_visits pending _ _

theorem conclude_of_carryOut {outcome : Except RunFailure Unit} (ended : o.carryOut s = (outcome, t)) (pending : Run) :
    o.conclude pending s = settle pending outcome t := by
  rw [conclude, ended]

/-- Runs that are carried out alike are concluded alike. -/
theorem conclude_congr {o' : Order} (same : o'.carryOut s = o.carryOut s) (pending : Run) :
    o'.conclude pending s = o.conclude pending s := by
  rw [conclude, conclude, same]

/-- A run whose walk sets out ends as the walk does. -/
theorem carryOut_eq_of_outset {b : Outset} (begun : o.outset? s = some b) :
    o.carryOut s = (o.outcome (o.walkWith (o.task b.parameters) b.payload b.scene).1,
      (o.walkWith (o.task b.parameters) b.payload b.scene).2) := by
  obtain ⟨t, log, prepared, opened, loaded⟩ := outset?_eq_some begun
  unfold carryOut
  rw [prepared]
  change o.proceed b.payload t = _
  rw [proceed_of_some opened]
  unfold walk
  rw [loaded]

/-- An input that cannot be taken over is refused in words. -/
theorem prepare_refuses {input : Data} {e : RunFailure} (refused : s.prepare input = (.error e, t)) :
    ∃ words, e = .say ("Invalid workflow input: " ++ words) := by
  unfold Scene.prepare at refused
  dsimp only at refused
  split at refused
  · cases refused
    exact ⟨_, rfl⟩
  · split at refused
    · cases refused
    · cases refused
      exact ⟨_, rfl⟩

/-- How a run whose walk does not set out ends depends on nothing else than its input, the report on its definition,
and whether there are triggers. -/
theorem carryOut_of_closed {o' : Order} (input : o'.input = o.input) (report : o'.report = o.report)
    (triggers : o'.workflow.triggers = o.workflow.triggers) (closed : o.outset? s = none) :
    o'.carryOut s = o.carryOut s := by
  rw [carryOut, carryOut, input]
  rw [outset?] at closed
  rcases prepared : s.prepare o.input with ⟨outcome, t⟩
  rw [prepared] at closed
  cases outcome with
  | error e => rfl
  | ok payload =>
      have closed : o.opening? t = none := Option.map_eq_none_iff.mp closed
      unfold opening? at closed
      change o'.proceed payload t = o.proceed payload t
      unfold proceed
      rw [report, triggers]
      cases checked : o.report with
      | error f => rfl
      | ok report =>
          rw [checked] at closed
          dsimp only at closed ⊢
          cases valid : report.valid with
          | false => rfl
          | true =>
              cases lacking : o.workflow.triggers.isEmpty with
              | false => simp [valid, lacking] at closed
              | true => rfl

end Order

/-- Making a record final changes its deadline only. -/
theorem RunStore.find?_finalizeNow {s final : RunStore} {clock : Clock} {id : String} {entry : Entry Float Run LogLine}
    (found : s.find? id = some entry) (finalized : s.finalizeNow clock id = .ok final) :
    ∃ deadline, final.find? id = some { entry with deadline := deadline } := by
  unfold finalizeNow at finalized
  rw [found] at finalized
  cases limit : deadline s clock with
  | error f =>
      rw [limit] at finalized
      cases finalized
  | ok last =>
      rw [limit] at finalized
      cases finalized
      refine ⟨some last, ?_⟩
      rw [Store.finalize, Store.find?_change (by exact fun _ => rfl), found]
      rfl

namespace Engine

variable {e : Engine}

/-- Where the pending record of a run is stored, the one that the run is concluded with takes its place, and the log
of the run goes into the one that is kept with it. -/
theorem carryOut_stores (w : Workflow) (input : Data) (pending : Run) {entry : Entry Float Run LogLine}
    (stored : e.store.find? pending.id = some entry) :
    let ended := (e.order w input).conclude pending (Scene.start e.clock e.transport)
    ∃ deadline, (e.carryOut w input pending).2.store.find? pending.id =
      some { entry with record := ended.1, log := ended.2.log ++ entry.log, deadline := deadline } := by
  unfold carryOut Order.conclude
  rcases (e.order w input).carryOut (Scene.start e.clock e.transport) with ⟨outcome, s⟩
  have named := Order.settle_id pending outcome s
  dsimp only
  rcases settling : Order.settle pending outcome s with ⟨record, t⟩
  rw [settling] at named
  dsimp only at named ⊢
  rw [named]
  have replaced : (e.store.replace pending.id record).find? pending.id = some { entry with record := record } := by
    rw [Store.replace, Store.find?_change (by exact fun _ => rfl), stored]
    rfl
  have kept := Store.find?_append t.log.reverse replaced
  rw [List.reverse_reverse] at kept
  split
  · exact ⟨_, kept⟩
  · rename_i final finalized
    exact RunStore.find?_finalizeNow kept finalized

/-- Under an id that is not taken, an engine keeps the record that the run is concluded with and the whole of its
log. -/
theorem execute_stores (w : Workflow) (input : Data) (triggeredBy : String)
    (fresh : (e.store.purge e.clock.reading).2.find? e.nextId = none) :
    let ended := (e.order w input).conclude (Run.pending e.nextId w.id w.version triggeredBy e.clock.now)
      (Scene.start e.clock e.transport)
    ∃ deadline, (e.execute w input triggeredBy).2.store.find? e.nextId =
      some ⟨e.nextId, ended.1, ended.2.log, deadline⟩ := by
  obtain ⟨store, created, stored, retained⟩ :=
    Store.create_of_fresh (Run.pending e.nextId w.id w.version triggeredBy e.clock.now) fresh
  unfold execute
  dsimp only
  rw [show (Run.pending e.nextId w.id w.version triggeredBy e.clock.now).id = e.nextId from rfl, created]
  obtain ⟨deadline, found⟩ := carryOut_stores (e := { e with issued := e.issued + 1, store := store }) w input
    (Run.pending e.nextId w.id w.version triggeredBy e.clock.now) stored
  rw [List.append_nil] at found
  exact ⟨deadline, found⟩

end Engine

end WorkflowEngine
