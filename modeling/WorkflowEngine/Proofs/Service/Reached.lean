import Mathlib
import WorkflowEngine.Proofs.Region.Handler
import WorkflowEngine.Proofs.Run.Isolation
import WorkflowEngine.Service.Basic

/-!
# What holds of a service at all times

A service is started once and answers requests from then on, while time goes by.  Its engine holds the retention of the
configuration and the built-in actions throughout, and the ids in its store are those that it has given to runs.  So
the id of the next run is never taken (`Engine.InService.fresh`), and `Service.Reached.inService` says so of every state
that a service comes to.
-/

namespace WorkflowEngine

/-! ## Handlers that do not refuse -/

namespace Work

variable {α β : Type}

/-- Work that ends in a fault, if it fails, or in waiting, but does not refuse in words of its own. -/
def Obeys (w : Work α) : Prop :=
  ∀ d message d', w.run d ≠ (.error (.refusal message), d')

theorem obeys_pure (v : α) : Obeys (pure v) := by
  rintro d message d' ⟨⟩

theorem obeys_fail (f : Fault) : Obeys (fail f : Work α) := by
  rintro d message d' ⟨⟩

theorem obeys_note (level : Level) (source message : String) : Obeys (note level source message) := by
  rintro d message d' ⟨⟩

theorem obeys_onHeap (e : Eval α) : Obeys (onHeap e) := by
  intro d message d' refused
  rw [run_onHeap] at refused
  split at refused <;> cases refused

theorem Obeys.bind {w : Work α} {k : α → Work β} (first : w.Obeys) (second : ∀ v, (k v).Obeys) : (w >>= k).Obeys := by
  intro d message d' refused
  rw [run_bind] at refused
  split at refused
  · exact second _ _ _ _ refused
  · rename_i i middle ran
    simp only [Prod.mk.injEq, Except.error.injEq] at refused
    exact first d message middle (refused.1 ▸ ran)

end Work

namespace Builtin

open Work

theorem obeys_lowerLevel (v : Value) : (lowerLevel v).Obeys := by
  unfold lowerLevel
  split
  · exact obeys_pure _
  · exact obeys_pure _
  · exact obeys_fail _

theorem obeys_logMessage (input : Value) (named : Named) : (logMessage input named).Obeys := by
  unfold logMessage
  refine (obeys_lowerLevel _).bind fun word => ?_
  extract_lets shown known? finish
  have finished (known : String × Level) : (finish known).Obeys :=
    (obeys_onHeap _).bind fun text => (obeys_note _ _ _).bind fun _ => obeys_onHeap _
  clear_value known?
  cases known? with
  | some known => exact (obeys_pure _).bind finished
  | none => exact (obeys_onHeap _).bind fun text => (obeys_note _ _ _).bind fun _ => (obeys_pure _).bind finished

theorem obeys_setFields (input : Value) (named : Named) : (setFields input named).Obeys := by
  unfold setFields
  refine (obeys_onHeap _).bind fun base => (obeys_onHeap _).bind fun entries => ?_
  exact (obeys_onHeap _).bind fun keys => (obeys_note _ _ _).bind fun _ => obeys_onHeap _

theorem obeys_mathOperation (input : Value) (named : Named) : (mathOperation input named).Obeys := by
  unfold mathOperation
  refine (obeys_onHeap _).bind fun current => ?_
  split
  · exact (obeys_onHeap _).bind fun name => (obeys_onHeap _).bind fun shown => obeys_fail _
  · split
    · exact (obeys_onHeap _).bind fun text => obeys_fail _
    · refine (obeys_onHeap _).bind fun zero => ?_
      split
      · exact (obeys_note _ _ _).bind fun _ => obeys_fail _
      · refine (obeys_onHeap _).bind fun result => (obeys_onHeap _).bind fun shown => ?_
        exact (obeys_note _ _ _).bind fun _ => obeys_onHeap _

/-- The built-in handlers do not refuse in words of their own. -/
theorem refusesInWords_all : ∀ h ∈ all, h.1.RefusesInWords := by
  have obeys {body : Value → Named → Work Value} (sound : ∀ input named, (body input named).Obeys) (name : String)
      (parameters : List String) : (Handler.ofBody name name parameters true body).RefusesInWords :=
    fun input named d message d' refused => absurd refused (sound input named d message d')
  intro h listed
  simp only [all, List.mem_cons, List.not_mem_nil, or_false] at listed
  rcases listed with rfl | rfl | rfl
  · exact obeys obeys_logMessage _ _
  · exact obeys obeys_setFields _ _
  · exact obeys obeys_mathOperation _ _

end Builtin

namespace Registry

theorem refusesInWords_builtin : (registerBuiltin .empty).2.RefusesInWords :=
  forall_registerMissing (List.forall_mem_nil _) Builtin.refusesInWords_all []

end Registry

/-! ## Engines of services -/

namespace Engine

variable {c : Config} {e : Engine}

/-- What holds of the engine of a service with a configuration. -/
structure InService (c : Config) (e : Engine) : Prop where
  retention : e.store.retention = .float c.retentionSeconds
  numbered : ∀ k ∈ e.store.entries, ∃ n ≤ e.issued, k.id = "exec-" ++ toString n
  words : e.registry.RefusesInWords

theorem InService.isNumbered (serves : e.InService c) : e.IsNumbered := by
  intro k listed n named
  obtain ⟨m, bound, known⟩ := serves.numbered k listed
  exact id_inj (known.symm.trans named) ▸ bound

/-- The id of the next run is not taken. -/
theorem InService.fresh (serves : e.InService c) : (e.store.purge e.clock.reading).2.find? e.nextId = none :=
  serves.isNumbered.fresh

/-- The clock and fewer entries make no difference. -/
theorem InService.fewer (serves : e.InService c) {store : RunStore} (retained : store.retention = e.store.retention)
    (kept : store.entries ⊆ e.store.entries) (clock : Clock) : { e with store := store, clock := clock }.InService c :=
  ⟨retained.trans serves.retention, fun k listed => serves.numbered k (kept listed), serves.words⟩

theorem InService.execute (serves : e.InService c) (w : Workflow) (input : Data) (triggeredBy : String) :
    (e.execute w input triggeredBy).2.InService c := by
  rw [execute_eq serves.fresh]
  refine ⟨serves.retention, List.forall_mem_append.mpr ⟨fun k listed => ?_, List.forall_mem_singleton.mpr ?_⟩, serves.words⟩
  · obtain ⟨n, bound, named⟩ := serves.numbered k (List.mem_of_mem_filter listed)
    exact ⟨n, Nat.le_succ_of_le bound, named⟩
  · exact ⟨e.issued + 1, Nat.le_refl _, rfl⟩

theorem InService.get? (serves : e.InService c) (id : String) : (e.get? id).2.InService c := by
  obtain ⟨retained, kept⟩ := live?_fewer e.store e.clock.reading id
  rw [get?_store]
  exact serves.fewer retained kept e.clock

theorem InService.log (serves : e.InService c) (id : String) : (e.log id).2.InService c := by
  obtain ⟨retained, kept⟩ := live?_fewer e.store e.clock.reading id
  exact serves.fewer retained kept e.clock

end Engine

namespace Service

variable {c : Config} {s : Service}

/-- A step leaves an engine in service. -/
def Step.Keeps (c : Config) (work : Step) : Prop :=
  ∀ e : Engine, e.InService c → (work e).2.InService c

theorem keeps_execution (r : RunRequest) : Step.Keeps c (execution r) := by
  intro e serves
  have ran := serves.execute r.workflow (Data.ofFields r.input) r.triggeredBy
  unfold execution
  split
  · rename_i f e' same
    rw [same] at ran
    exact ran
  · rename_i record e' same
    rw [same] at ran
    exact ran.log record.id

theorem keeps_kept (id : String) (told : Run → List LogLine → Data) : Step.Keeps c (kept id told) := by
  intro e serves
  have looked := serves.get? id
  unfold kept
  split
  · rename_i f e' same
    rw [same] at looked
    exact looked
  · rename_i e' same
    rw [same] at looked
    exact looked
  · rename_i record e' same
    rw [same] at looked
    exact looked.log id

theorem keeps_readDocument {α : Type} (read : Data → Reading α) (d : Data) {work : α → Step}
    (keeps : ∀ a, Step.Keeps c (work a)) : Step.Keeps c (readDocument read d work) := by
  unfold readDocument
  split
  · exact keeps _
  · exact fun _ serves => serves
  · exact fun _ serves => serves

/-- The service is started, and its engine is as the configuration wants it. -/
def InService (c : Config) (s : Service) : Prop :=
  ∃ e, s.engine = some e ∧ e.InService c

theorem InService.withEngine (serves : s.InService c) (missing : String) {work : Step} (keeps : work.Keeps c) :
    (s.withEngine missing work).2.InService c := by
  obtain ⟨e, running, serves⟩ := serves
  unfold Service.withEngine
  rw [running]
  exact ⟨_, rfl, keeps e serves⟩

theorem InService.withDocument {α : Type} (serves : s.InService c) (read : Data → Reading α) (body : RequestBody)
    {work : α → Step} (keeps : ∀ a, (work a).Keeps c) : (s.withDocument read body work).2.InService c := by
  unfold Service.withDocument
  split
  · exact serves
  · exact serves
  · exact serves.withEngine _ fun _ serves => serves
  · exact serves.withEngine _ (keeps_readDocument read _ keeps)

/-- A service stays in service whatever it is asked for. -/
theorem InService.answer (serves : s.InService c) (r : Request) : (s.answer r).2.InService c := by
  have served (route : Route) : (s.serve r.body route).2.InService c := by
    cases route with
    | title => exact serves
    | validation => exact serves.withDocument _ _ fun _ _ serves => serves
    | execution => exact serves.withDocument _ _ keeps_execution
    | record id => exact serves.withEngine _ (keeps_kept id _)
    | log id => exact serves.withEngine _ (keeps_kept id _)
    | actions => exact serves.withEngine _ fun _ serves => serves
    | health => exact serves.withEngine _ fun _ serves => serves
  have handled : (s.handle r).2.InService c := by
    unfold handle
    split
    · exact served _
    · exact serves
    · exact serves
    · exact serves
  unfold Service.answer
  split
  · rename_i reply s' same
    rw [same] at handled
    exact handled
  · rename_i f s' same
    rw [same] at handled
    exact handled

/-- The states of a service: it is started, it has answered a request, or time has gone by. -/
inductive Reached (c : Config) : Service → Prop where
  | started {clock : Clock} {s : Service} (begun : (prepare c clock).start = .ok s) : Reached c s
  | answered {s : Service} (before : Reached c s) (r : Request) : Reached c (s.answer r).2
  | waited {s : Service} {e : Engine} (before : Reached c s) (running : s.engine = some e) (clock : Clock) :
      Reached c { s with clock := clock, engine := some { e with clock := clock } }

/-- A service is in service from its start on. -/
theorem Reached.inService (reached : Reached c s) : s.InService c := by
  induction reached with
  | started begun =>
      unfold start at begun
      cases set : Journal.setup (journalRequest c) with
      | error f =>
          rw [prepare, set] at begun
          cases begun
      | ok journal =>
          rw [prepare, set] at begun
          cases begun
          exact ⟨_, rfl, rfl, List.forall_mem_nil _, Registry.refusesInWords_builtin⟩
  | answered before r ih => exact ih.answer r
  | waited before running clock ih =>
      obtain ⟨e, same, serves⟩ := ih
      obtain rfl := Option.some.inj (running.symm.trans same)
      exact ⟨_, rfl, serves.fewer rfl (List.Subset.refl _) clock⟩

end Service

end WorkflowEngine
