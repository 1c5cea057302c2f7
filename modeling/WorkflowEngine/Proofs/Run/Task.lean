import WorkflowEngine.Engine.Run

/-!
# What tasks leave to the run

The task of a node works on values, on the clock, on the transport and on the log.  The records of visits
are not its own, and neither is the place of the variables, so it leaves both as they are.  Where it fails
it says so in words that the record can keep, unless a handler refuses with something else.
-/

namespace WorkflowEngine

namespace Act

theorem run_scene_bind {α : Type} (f : Scene → Act α) (stage : Stage) : (scene >>= f).run stage = (f stage.scene).run stage :=
  rfl

theorem run_lift_bind {α β : Type} (v : α) (f : α → Act β) (stage : Stage) :
    (lift (.ok v) >>= f).run stage = (f v).run stage :=
  rfl

theorem run_change_bind {α : Type} (g : Scene → Scene) (f : Unit → Act α) (stage : Stage) :
    (change g >>= f).run stage = (f ()).run { stage with scene := g stage.scene } :=
  rfl

/-- Taking over an outcome leaves everything as it is. -/
theorem run_lift_snd {α : Type} (outcome : Except Fault α) (stage : Stage) : ((lift outcome).run stage).2 = stage := by
  cases outcome <;> rfl

/-- Work that is done behind a line of the log. -/
theorem run_info_bind {α : Type} (message : String) (f : Unit → Act α) (stage : Stage) :
    (info message >>= f).run stage =
      (f ()).run ⟨stage.scene.write (stage.scene.line .info message .null),
        stage.scene.line .info message .null :: stage.lines⟩ :=
  rfl

/-- A visit begins with a line, and what its task comes to is kept as it is when the task is done. -/
theorem run_complete (task : Node → Value → Act Product) (n : Node) (input : Value) (stage : Stage) :
    (complete task n input).run stage =
      let l := stage.scene.line .info ("Executing node: " ++ n.displayName ++ " (" ++ n.kind.name ++ ")") .null
      match (task n input).run ⟨stage.scene.write l, l :: stage.lines⟩ with
      | (.ok product, t) =>
          match t.scene.heap.snapshot product.1 with
          | .ok output => (.ok (product, output), t)
          | .error f => (.error (.str f.summary), t)
      | (.error e, t) => (.error e, t) := by
  rw [complete, run_info_bind, run_bind]
  dsimp only
  generalize (task n input).run _ = result
  obtain ⟨outcome, t⟩ := result
  cases outcome with
  | error e => rfl
  | ok product =>
      dsimp only
      rw [run_scene_bind]
      cases t.scene.heap.snapshot product.1 <;> rfl

/-- After a visit to a node, what its task leaves stands. -/
theorem run_complete_stage (task : Node → Value → Act Product) (n : Node) (input : Value) (stage : Stage) :
    let l := stage.scene.line .info ("Executing node: " ++ n.displayName ++ " (" ++ n.kind.name ++ ")") .null
    ((complete task n input).run stage).2 = ((task n input).run ⟨stage.scene.write l, l :: stage.lines⟩).2 := by
  intro l
  rw [run_complete]
  dsimp only
  split
  · rename_i ran
    rw [ran]
    split <;> rfl
  · rename_i ran
    rw [ran]

/-- A property of work that steps have and that sequences inherit from their parts. -/
structure Discipline (C : ∀ {α : Type}, Act α → Prop) : Prop where
  pure : ∀ {α : Type} (v : α), C (pure v)
  say : ∀ {α : Type} (words : String), C (say words : Act α)
  scene : C scene
  note : ∀ level message data, C (note level message data)
  /-- Steps may change the heap and the transport. -/
  change : ∀ f : Scene → Scene, (∀ s, f s = { s with heap := (f s).heap, transport := (f s).transport }) → C (change f)
  bind : ∀ {α β : Type} {a : Act α} {f : α → Act β}, C a → (∀ v, C (f v)) → C (a >>= f)

namespace Discipline

variable {C : ∀ {α : Type}, Act α → Prop} {α : Type}

theorem info (rule : Discipline C) (message : String) : C (Act.info message) :=
  rule.note .info message .null

theorem lift (rule : Discipline C) (outcome : Except Fault α) : C (Act.lift outcome) := by
  cases outcome with
  | ok v => exact rule.pure v
  | error f => exact rule.say _

theorem onHeap (rule : Discipline C) (e : Eval α) : C (Act.onHeap e) := by
  unfold Act.onHeap
  refine rule.bind rule.scene fun s => ?_
  exact rule.bind (rule.change _ fun _ => rfl) fun _ => rule.pure _

variable {setting : Setting}

/-- The refusals of a registry have the property. -/
def Refusals (C : ∀ {α : Type}, Act α → Prop) (r : Registry) : Prop :=
  ∀ name input parameters wait d e d', r.dispatch name input parameters wait d = (.error (.refused e), d') →
    C (throw e.message : Act Value)

theorem dispatch (rule : Discipline C) (refusals : Refusals C setting.registry) (n : Node) (c : ActionConfig)
    (input : Value) : C (Act.dispatch setting n c input) := by
  unfold Act.dispatch
  refine rule.bind (rule.info _) fun _ => ?_
  extract_lets parameters send
  have sent (wait : Option Number) : C (send wait) := by
    refine rule.bind rule.scene fun s => ?_
    dsimp only
    rcases dispatched : setting.registry.dispatch c.actionType input ((setting.parameters.lookup n.id).getD .null) wait
      ⟨s.heap, []⟩ with ⟨outcome, desk⟩
    refine rule.bind (rule.change _ fun _ => rfl) fun _ => ?_
    cases outcome with
    | ok value => exact rule.bind (rule.onHeap _) fun report => rule.lift report
    | error failure =>
        cases failure with
        | fault f => exact rule.say _
        | refused e => exact refusals _ _ _ _ _ e desk dispatched
  split
  · exact rule.bind (rule.lift _) fun limit => rule.bind (rule.pure _) sent
  · exact rule.bind (rule.pure none) sent

theorem choose (rule : Discipline C) (n : Node) (c : ConditionConfig) (input : Value) :
    C (Act.choose setting n c input) := by
  unfold Act.choose
  refine rule.bind (rule.info _) fun _ => rule.bind rule.scene fun s => ?_
  refine rule.bind (rule.lift _) fun ⟨holds, results⟩ => rule.bind (rule.note _ _ _) fun _ => ?_
  split
  · exact rule.pure _
  · exact rule.bind (rule.info _) fun _ => rule.pure _

theorem compute (rule : Discipline C) (c : TransformConfig) (input : Value) : C (Act.compute c input) := by
  unfold Act.compute
  refine rule.bind (rule.info _) fun _ => rule.bind rule.scene fun s => rule.bind (rule.onHeap _) fun outcome => ?_
  split
  · exact rule.say _
  · split
    · split
      · exact rule.bind (rule.change _ fun _ => rfl) fun _ => rule.pure _
      · exact rule.bind (rule.pure ()) fun _ => rule.pure _
    · exact rule.bind (rule.pure ()) fun _ => rule.pure _

theorem request (rule : Discipline C) (c : ApiConfig) : C (Act.request setting c) := by
  unfold Act.request
  refine rule.bind (rule.info _) fun _ => rule.bind (rule.lift _) fun proof => ?_
  refine rule.bind (rule.lift _) fun limit => rule.bind rule.scene fun s => ?_
  dsimp only
  refine rule.bind (rule.change _ fun _ => rfl) fun _ => ?_
  split
  · exact rule.say _
  · exact rule.say _
  · exact rule.bind (rule.onHeap _) fun loaded => rule.lift loaded

/-- The tasks of all kinds of nodes have the property if the refusals of the registry have it, and waiting has it
where the node waits. -/
theorem perform (rule : Discipline C) (refusals : Refusals C setting.registry) {n : Node}
    (waits : ∀ c, n.task = .delay c → C (wait c)) (input : Value) : C (Act.perform setting n input) := by
  unfold Act.perform
  split
  · exact rule.pure _
  · exact rule.bind (rule.dispatch refusals n _ input) fun _ => rule.pure _
  · exact rule.choose n _ input
  · exact rule.bind (rule.compute _ input) fun _ => rule.pure _
  · exact rule.bind (waits _ ‹_›) fun _ => rule.pure _
  · exact rule.bind (rule.request _) fun _ => rule.pure _
  · exact rule.bind (rule.info _) fun _ => rule.pure _

/-- So has the whole of a visit around the task of the node. -/
theorem complete (rule : Discipline C) {task : Node → Value → Act Product} {n : Node} {input : Value}
    (done : C (task n input)) : C (Act.complete task n input) := by
  unfold Act.complete
  refine rule.bind (rule.info _) fun _ => rule.bind done fun product => rule.bind rule.scene fun s => ?_
  exact rule.bind (rule.lift _) fun output => rule.pure _

end Discipline

variable {α : Type}

/-- Work leaves the records of visits and the place of the variables as they are. -/
def Steady (a : Act α) : Prop :=
  ∀ stage, (a.run stage).2.scene.visits = stage.scene.visits ∧ (a.run stage).2.scene.vars = stage.scene.vars

theorem steady_discipline : Discipline @Steady where
  pure _ _ := ⟨rfl, rfl⟩
  say _ _ := ⟨rfl, rfl⟩
  scene _ := ⟨rfl, rfl⟩
  note _ _ _ _ := ⟨rfl, rfl⟩
  change f keeps stage := by
    have same : (f stage.scene).visits = stage.scene.visits ∧ (f stage.scene).vars = stage.scene.vars := by
      rw [keeps stage.scene]
      exact ⟨rfl, rfl⟩
    exact same
  bind first second := by
    intro stage
    have before := first stage
    rw [run_bind]
    rcases ran : run _ stage with ⟨outcome, middle⟩
    rw [ran] at before
    cases outcome with
    | error e => exact before
    | ok v =>
        have after := second v middle
        exact ⟨after.1.trans before.1, after.2.trans before.2⟩

/-- The tasks of all kinds of nodes are steady. -/
theorem steady_perform (setting : Setting) (n : Node) (input : Value) : Steady (perform setting n input) :=
  steady_discipline.perform (fun _ _ _ _ _ _ _ _ _ => ⟨rfl, rfl⟩) (fun _ _ _ => ⟨rfl, rfl⟩) input

/-- Where the work fails, it says so in words that can be kept. -/
def SpeaksInWords (a : Act α) : Prop :=
  ∀ stage message stage', a.run stage = (.error message, stage') → ∃ kept, keptMessage message = .ok kept

/-- A failure in words is kept as it is said. -/
theorem keptMessage_str (words : String) : keptMessage (.str words) = .ok words :=
  rfl

theorem inWords_discipline : Discipline @SpeaksInWords where
  pure _ _ _ _ failed := by cases failed
  say words _ _ _ failed := by
    cases failed
    exact ⟨words, keptMessage_str words⟩
  scene _ _ _ failed := by cases failed
  note _ _ _ _ _ _ failed := by cases failed
  change _ _ _ _ _ failed := by cases failed
  bind first second := by
    intro stage message stage' failed
    rw [run_bind] at failed
    split at failed
    · rename_i v middle ran
      exact second v middle message stage' failed
    · rename_i e middle ran
      cases failed
      exact first stage message stage' ran

end Act

/-- Where the handler refuses its input, it does so in words. -/
def Handler.RefusesInWords (handler : Handler) : Prop :=
  ∀ input named d message d', (handler.work input named).run d = (.error (.refusal message), d') →
    ∃ kept, keptMessage message = .ok kept

/-- Work goes on where the first part of it has come to something. -/
theorem Work.run_bind {α β : Type} (w : Work α) (k : α → Work β) (d : Desk) :
    (w >>= k).run d =
      match w.run d with
      | (.ok v, d) => (k v).run d
      | (.error e, d) => (.error e, d) := by
  unfold Work.run
  rw [ExceptT.run_bind]
  simp only [bind, StateT.bind]
  rcases ExceptT.run w d with ⟨outcome, d'⟩
  cases outcome <;> rfl

/-- Work on the heap alone ends in a fault or in what the heap gives. -/
theorem Work.run_onHeap {α : Type} (e : Eval α) (d : Desk) :
    (Work.onHeap e).run d =
      match Eval.run e d.heap with
      | (.ok v, h) => (.ok v, { d with heap := h })
      | (.error f, h) => (.error (.fault f), { d with heap := h }) := by
  have begun (further : Desk → Work α) : ExceptT.run (get >>= further) d = ExceptT.run (further d) d := rfl
  unfold Work.onHeap Work.run
  rw [begun]
  rcases Eval.run e d.heap with ⟨outcome, h⟩
  cases outcome <;> rfl

namespace Registry

/-- All handlers refuse in words. -/
def RefusesInWords (r : Registry) : Prop :=
  ∀ entry ∈ r.entries, entry.2.handler.RefusesInWords

variable {r : Registry} {name : String} {handler : Handler} {d d' : Desk}

/-- A handler that is found is one of those registered. -/
theorem mem_of_get (found : r.get name = .ok handler) : ∃ entry ∈ r.entries, entry.2.handler = handler := by
  unfold get at found
  split at found
  · cases found
  · split at found
    · rename_i registration listed
      cases found
      obtain ⟨before, after, listing, -⟩ := List.lookup_eq_some_iff.mp listed
      exact ⟨_, listing ▸ List.mem_append_right _ List.mem_cons_self, rfl⟩
    · cases found

/-- A handler that is waited for refuses only in its own words. -/
theorem attend_inWords {input : Value} {entries : List (Value × Value)} {wait : Option Number} {message : Data}
    (words : handler.RefusesInWords)
    (refused : (attend handler input entries wait).run d = (.error (.refusal message), d')) :
    ∃ kept, keptMessage message = .ok kept := by
  unfold attend at refused
  split at refused
  · cases refused
  · split at refused
    · split at refused <;> cases refused
    · unfold Handler.call at refused
      split at refused
      · cases refused
      · exact words input _ d message d' refused

/-- An interruption other than by a refusal is told in words. -/
theorem failureOf_inWords {wait : Option Number} {interruption : Interruption} {e : DispatchError}
    (spoken : ∀ m, interruption = .refusal m → ∃ kept, keptMessage m = .ok kept)
    (told : failureOf name wait interruption = .refused e) : ∃ kept, keptMessage e.message = .ok kept := by
  cases interruption with
  | refusal m =>
      cases told
      exact spoken m rfl
  | _ =>
      cases told
      exact ⟨_, Act.keptMessage_str _⟩

/-- A dispatch is refused in words if the handlers refuse in words. -/
theorem dispatch_inWords {input parameters : Value} {wait : Option Number} {e : DispatchError}
    (words : r.RefusesInWords) (refused : r.dispatch name input parameters wait d = (.error (.refused e), d')) :
    ∃ kept, keptMessage e.message = .ok kept := by
  unfold dispatch at refused
  split at refused
  · cases refused
    exact ⟨_, Act.keptMessage_str _⟩
  · rename_i handler found
    obtain ⟨entry, listed, rfl⟩ := mem_of_get found
    split at refused
    · cases refused
    · rename_i interruption d₁ notFault read
      simp only [Prod.mk.injEq, Except.error.injEq] at refused
      refine failureOf_inWords (fun m same => ?_) refused.1
      subst same
      rw [Work.run_onHeap] at read
      split at read <;> cases read
    · rename_i entries d₁ read
      split at refused
      · cases refused
      · rename_i interruption d₂ attended
        simp only [Prod.mk.injEq, Except.error.injEq] at refused
        refine failureOf_inWords (fun m same => ?_) refused.1
        subst same
        exact attend_inWords (words entry listed) attended

end Registry

namespace Act

/-- The tasks of all kinds of nodes fail in words if the handlers refuse in words. -/
theorem inWords_perform {setting : Setting} (words : setting.registry.RefusesInWords) (n : Node) (input : Value) :
    SpeaksInWords (perform setting n input) := by
  refine inWords_discipline.perform ?_ (fun c _ stage message stage' failed => ?_) input
  · intro name input parameters wait d e d' refused stage message stage' failed
    cases failed
    exact Registry.dispatch_inWords words refused
  · cases failed

end Act

end WorkflowEngine
