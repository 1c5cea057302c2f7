import Mathlib
import WorkflowEngine.Proofs.Run.Course
import WorkflowEngine.Proofs.Validation.Sound
import WorkflowEngine.Proofs.Walk.Invariant

/-!
# Why nodes of valid definitions fail

A node that computes a value reads its expression anew at every visit, and a node that chooses a branch compiles its
patterns anew.  If the definition is valid, neither fails for that: the one fails only where its expression has no
value or the value cannot be kept, and the other never blames a pattern.
-/

namespace WorkflowEngine

/-- What a node that computes a value says where it fails although its expression can be read: the tree of the
expression has no value, or the value cannot be kept. -/
inductive TransformConfig.Fails (c : TransformConfig) : String → Prop where
  | valueless {tree : Expression.Tree} {input vars : Value} {m m' : Machine} {f : Fault}
      (read : Expression.readProgram (Text.trimChars c.expression.toList) = some (some (.value tree)))
      (failed : (Expression.evaluateTree (Expression.settingOf c.expression m.heap input vars) .empty tree).exec m =
        (.error f, m')) :
      c.Fails ("Transform expression error: " ++ f.message)
  | unkept {h : Heap} {v : Value} {f : Fault} (faulty : h.snapshot v = .error f) : c.Fails f.summary

namespace Act

variable {setting : Setting} {n : Node} {input : Value} {stage stage' : Stage} {message : NodeFailure}

/-- A sequence fails where its first part does, or behind it. -/
theorem run_bind_eq_error {α β : Type} {a : Act α} {f : α → Act β}
    (failed : (a >>= f).run stage = (.error message, stage')) :
    a.run stage = (.error message, stage') ∨
      ∃ v between, a.run stage = (.ok v, between) ∧ (f v).run between = (.error message, stage') := by
  rw [run_bind] at failed
  split at failed
  · rename_i v between ran
    exact .inr ⟨v, between, ran, failed⟩
  · rename_i e between ran
    cases failed
    exact .inl ran

/-- Work on the heap alone comes to its outcome. -/
theorem run_onHeap_eq_ok {α : Type} {e : Eval α} {outcome : Except Fault α}
    (ran : (onHeap e).run stage = (.ok outcome, stage')) :
    Eval.run e stage.scene.heap = (outcome, stage'.scene.heap) := by
  have same : (onHeap e).run stage = (.ok (Eval.run e stage.scene.heap).1,
      ⟨{ stage.scene with heap := (Eval.run e stage.scene.heap).2 }, stage.lines⟩) := rfl
  cases same.symm.trans ran
  rfl

/-- An expression that can be read fails only where it has no value. -/
theorem fails_of_compute {c : TransformConfig} (usable : (Spot.expression c.expression).IsUsable)
    (failed : (compute c input).run stage = (.error message, stage')) :
    ∃ words, message = .str words ∧ c.Fails words := by
  rcases run_bind_eq_error failed with ⟨⟨⟩⟩ | ⟨_, noted, -, failed₁⟩
  rcases run_bind_eq_error failed₁ with ⟨⟨⟩⟩ | ⟨s, seen, taken, failed₂⟩
  obtain ⟨rfl, rfl⟩ : s = noted.scene ∧ seen = noted := by
    cases taken
    exact ⟨rfl, rfl⟩
  rcases run_bind_eq_error failed₂ with ⟨⟨⟩⟩ | ⟨outcome, after, ran, failed₃⟩
  cases outcome with
  | error f =>
      obtain ⟨tree, vars, m, m', read, valueless⟩ := Expression.evaluate_eq_error usable (run_onHeap_eq_ok ran)
      cases failed₃
      exact ⟨_, rfl, .valueless read valueless⟩
  | ok value =>
      dsimp only at failed₃
      split at failed₃
      · split at failed₃
        · cases failed₃
        · cases failed₃
      · cases failed₃

/-- So a visit to a node with such an expression says why it fails. -/
theorem fails_of_complete_transform {c : TransformConfig} (computes : n.task = .transform c)
    (usable : (Spot.expression c.expression).IsUsable)
    (failed : (complete (perform setting) n input).run stage = (.error message, stage')) :
    ∃ words, message = .str words ∧ c.Fails words := by
  rcases run_bind_eq_error failed with ⟨⟨⟩⟩ | ⟨_, noted, -, failed₁⟩
  rcases run_bind_eq_error failed₁ with failed₂ | ⟨product, after, -, failed₂⟩
  · rw [perform, computes] at failed₂
    rcases run_bind_eq_error failed₂ with failed₃ | ⟨value, after, -, ⟨⟨⟩⟩⟩
    exact fails_of_compute usable failed₃
  · rcases run_bind_eq_error failed₂ with ⟨⟨⟩⟩ | ⟨s, seen, -, failed₃⟩
    rcases run_bind_eq_error failed₃ with failed₄ | ⟨output, after, -, ⟨⟨⟩⟩⟩
    cases kept : s.heap.snapshot product.1 with
    | ok d =>
        rw [kept] at failed₄
        cases failed₄
    | error f =>
        rw [kept] at failed₄
        cases failed₄
        exact ⟨_, rfl, .unkept kept⟩

/-- On a heap, the work leaves the heap as it is, what it comes to satisfies `P`, and what it says where it fails
satisfies `Q`. -/
def Leaves {α : Type} (h : Heap) (P : α → Prop) (Q : NodeFailure → Prop) (a : Act α) : Prop :=
  ∀ stage, stage.scene.heap = h → (a.run stage).2.scene.heap = h ∧
    (∀ v, (a.run stage).1 = .ok v → P v) ∧ ∀ message, (a.run stage).1 = .error message → Q message

section Leaves

variable {α β : Type} {h : Heap} {P : α → Prop} {R : β → Prop} {Q : NodeFailure → Prop}

theorem leaves_pure {v : α} (holds : P v) : Leaves h P Q (pure v) :=
  fun _ same => ⟨same, fun _ done => by cases done; exact holds, fun _ failed => by cases failed⟩

theorem leaves_note (level : LogLevel) (words : String) (data : Data) :
    Leaves h (fun _ => True) Q (note level words data) :=
  fun _ same => ⟨same, fun _ _ => trivial, fun _ failed => by cases failed⟩

theorem leaves_info (words : String) : Leaves h (fun _ => True) Q (info words) :=
  leaves_note .info words .null

theorem leaves_scene : Leaves h (fun s => s.heap = h) Q scene :=
  fun _ same => ⟨same, fun _ done => by cases done; exact same, fun _ failed => by cases failed⟩

theorem leaves_lift {outcome : Except Fault α} (good : ∀ v, outcome = .ok v → P v)
    (bad : ∀ f, outcome = .error f → Q (.str f.summary)) : Leaves h P Q (lift outcome) := by
  cases outcome with
  | ok v => exact leaves_pure (good v rfl)
  | error f => exact fun _ same => ⟨same, fun _ done => (by cases done), fun _ failed => by cases failed; exact bad f rfl⟩

theorem leaves_bind {a : Act α} {f : α → Act β} (first : Leaves h P Q a) (second : ∀ v, P v → Leaves h R Q (f v)) :
    Leaves h R Q (a >>= f) := by
  intro stage same
  obtain ⟨kept, good, bad⟩ := first stage same
  rw [run_bind]
  rcases ran : a.run stage with ⟨outcome, after⟩
  rw [ran] at kept good bad
  cases outcome with
  | ok v => exact second v (good v rfl) after kept
  | error e => exact ⟨kept, fun _ done => (by cases done), fun _ failed => by cases failed; exact bad e rfl⟩

/-- A node that chooses a branch by patterns that can be read blames none of them. -/
theorem leaves_choose {c : ConditionConfig}
    (usable : ∀ x ∈ c.conditions, x.operator = .regex → (Spot.pattern x.value).IsUsable) :
    Leaves h (fun product => product.1 = input) (fun message => ∃ f : Fault, message = .str f.summary ∧ ¬f.BlamesPattern)
      (choose setting n c input) := by
  refine leaves_bind (leaves_info _) fun _ _ => leaves_bind leaves_scene fun s _ => ?_
  refine leaves_bind (leaves_lift (fun found _ => trivial) fun f failed => ?_) fun found _ => ?_
  · exact ⟨f, rfl, Condition.sparesPatterns_evaluateOn usable _ _ _ _ f failed⟩
  · obtain ⟨holds, results⟩ := found
    refine leaves_bind (leaves_note _ _ _) fun _ _ => ?_
    split
    · exact leaves_pure rfl
    · exact leaves_bind (leaves_info _) fun _ _ => leaves_pure rfl

/-- Nor does a visit to such a node, since it passes on the input that was kept before. -/
theorem leaves_complete_condition {c : ConditionConfig} (chooses : n.task = .condition c)
    (usable : ∀ x ∈ c.conditions, x.operator = .regex → (Spot.pattern x.value).IsUsable) {given : Data}
    (read : h.snapshot input = .ok given) :
    Leaves h (fun _ => True) (fun message => ∃ f : Fault, message = .str f.summary ∧ ¬f.BlamesPattern)
      (complete (perform setting) n input) := by
  unfold complete
  refine leaves_bind (leaves_info _) fun _ _ => ?_
  rw [perform, chooses]
  refine leaves_bind (leaves_choose usable) fun product passed => leaves_bind leaves_scene fun s same => ?_
  refine leaves_bind (leaves_lift (fun output _ => trivial) fun f failed => ?_) fun output _ => leaves_pure trivial
  rw [passed, same, read] at failed
  cases failed

end Leaves

end Act

/-- The record of a visit to the node tells a failure that is not one of reading: of an expression that has no value
or whose value cannot be kept, or of conditions without any blame for a pattern. -/
structure Node.AccountsFor (n : Node) (v : Visit) : Prop where
  transform : ∀ c, n.task = .transform c → v.status = .failed → ∃ e, v.error = some e ∧ c.Fails e.message
  condition : ∀ c, n.task = .condition c → v.status = .failed →
    ∃ e, v.error = some e ∧ ¬"Invalid regular expression".toList <+: e.message.toList

namespace Scene

variable {w : Workflow} {n : Node} {input : Value} {s t : Scene} {p : Passage RunFailure Value}

/-- A node that fails in words leaves a record with these words. -/
theorem failVisit_str (w : Workflow) (n : Node) (begun : Visit) (words : String) (stage : Stage) :
    ∃ v e, (failVisit w n begun (.str words) stage).2.visits = v :: stage.scene.visits ∧
      v.nodeId = begun.nodeId ∧ v.error = some e ∧ e.message = words := by
  unfold failVisit
  rw [Act.keptMessage_str]
  dsimp only
  split
  · exact ⟨_, _, rfl, rfl, rfl, rfl⟩
  · exact ⟨_, _, rfl, rfl, rfl, rfl⟩

/-- What a node says where it fails is recorded, and accounts for the failure if its texts can be read. -/
theorem failVisit_accounted {setting : Setting} (usable : ∀ x ∈ n.spots, x.IsUsable) {given : Data}
    (read : s.heap.snapshot input = .ok given) {message : NodeFailure} {stage : Stage}
    (done : (Act.complete (Act.perform setting) n input).run ⟨s, []⟩ = (.error message, stage)) (begun : Visit) :
    ∃ v, (failVisit w n begun message stage).2.visits = v :: stage.scene.visits ∧ v.nodeId = begun.nodeId ∧
      n.AccountsFor v := by
  cases task : n.task with
  | transform c =>
      have formed : (Spot.expression c.expression).IsUsable := usable _ (by simp [Node.spots, Node.configured, task])
      obtain ⟨words, rfl, fails⟩ := Act.fails_of_complete_transform task formed done
      obtain ⟨v, e, visits, id, error, rfl⟩ := failVisit_str w n begun words stage
      refine ⟨v, visits, id, fun c' same _ => ⟨e, error, ?_⟩, fun c' same => ?_⟩
      · cases task.symm.trans same
        exact fails
      · cases task.symm.trans same
  | condition c =>
      have compiled : ∀ x ∈ c.conditions, x.operator = .regex → (Spot.pattern x.value).IsUsable :=
        fun x listed asked => usable _ (by simp [Node.spots, Node.configured, task]; exact ⟨x, ⟨listed, asked⟩, rfl⟩)
      have leaves : Act.Leaves s.heap (fun _ => True) (fun message => ∃ f : Fault, message = .str f.summary ∧ ¬f.BlamesPattern)
          (Act.complete (Act.perform setting) n input) := Act.leaves_complete_condition task compiled read
      have spares := leaves ⟨s, []⟩ rfl
      rw [done] at spares
      obtain ⟨f, rfl, spared⟩ := spares.2.2 message rfl
      obtain ⟨v, e, visits, id, error, words⟩ := failVisit_str w n begun f.summary stage
      refine ⟨v, visits, id, fun c' same => ?_, fun c' same _ => ⟨e, error, words ▸ spared⟩⟩
      cases task.symm.trans same
  | _ =>
      obtain ⟨v, visits, id, -⟩ := failVisit_visits w n begun message stage
      refine ⟨v, visits, id, fun c same => ?_, fun c same => ?_⟩
      · cases task.symm.trans same
      · cases task.symm.trans same

/-- Whatever a visit to a node whose expressions and patterns can be read comes to, the records that it leaves account for
their failures if those before did. -/
theorem Visited.accounted {setting : Setting} (visited : Visited w (Act.perform setting) n input s p t)
    (found : w.node? n.id = some n) (usable : ∀ x ∈ n.spots, x.IsUsable) {before : List Visit}
    (accounts : ∀ v ∈ s.visits, v ∈ before ∨ ∃ n, w.node? v.nodeId = some n ∧ n.AccountsFor v) :
    ∀ v ∈ t.visits, v ∈ before ∨ ∃ n, w.node? v.nodeId = some n ∧ n.AccountsFor v := by
  have same {outcome : Except NodeFailure (Product × Data)} {stage : Stage}
      (done : (Act.complete (Act.perform setting) n input).run ⟨s, []⟩ = (outcome, stage)) :
      stage.scene.visits = s.visits :=
    complete_visits (Act.steady_perform setting n input) done
  cases visited with
  | unreadable faulty => exact accounts
  | completed read done =>
      refine List.forall_mem_cons.mpr ⟨.inr ⟨n, found, fun _ _ failed => ?_, fun _ _ failed => ?_⟩, ?_⟩
      · cases failed
      · cases failed
      · exact same done ▸ accounts
  | failed read done =>
      obtain ⟨v, visits, id, accounted⟩ := failVisit_accounted (w := w) usable read done (Visit.begin n _ s.now)
      rw [visits, same done]
      exact List.forall_mem_cons.mpr ⟨.inr ⟨n, id ▸ found, accounted⟩, accounts⟩

end Scene

namespace Order

variable {o : Order} {r : Report}

/-- The turns of a walk over a valid definition leave records that account for their failures. -/
theorem accounted_invariant (checked : o.workflow.validate = .ok r) (valid : r.valid = true)
    (parameters : List (String × Value)) (before : List Visit) :
    (o.guide (o.task parameters)).recording.Invariant
      (fun _ s => ∀ v ∈ s.1.visits, v ∈ before ∨ ∃ n, o.workflow.node? v.nodeId = some n ∧ n.AccountsFor v)
      (fun s => ∀ v ∈ s.1.visits, v ∈ before ∨ ∃ n, o.workflow.node? v.nodeId = some n ∧ n.AccountsFor v) := by
  refine Guide.invariant_of_keeps (fun n input s found accounts => ?_) (fun output ids s accounts => ?_)
  · have usable : ∀ x ∈ n.spots, x.IsUsable :=
      fun x read => (Workflow.isSound_of_valid checked valid (Workflow.mem_of_node? found).1 read).usable
    exact (Scene.visited_of_visit rfl).accounted found usable accounts
  · intro v listed
    exact accounts v ((Scene.spread_visits output ids s.1) ▸ listed)

/-- Whatever the check of a valid definition has read can be read by every run, with and without regard to case.  So
where nodes fail, no expression or pattern is refused: a node that computes a value fails only where its expression
has no value or the value cannot be kept, and one that chooses a branch does not fail with words about a pattern. -/
theorem carryOut_accounted (o : Order) {r : Report} (checked : o.workflow.validate = .ok r) (valid : r.valid = true) :
    (∀ n ∈ o.workflow.nodes, ∀ x ∈ n.spots, x.IsUsable) ∧
      ∀ s, ∀ v ∈ (o.carryOut s).2.visits,
        v ∈ s.visits ∨ ∃ n, o.workflow.node? v.nodeId = some n ∧ n.AccountsFor v := by
  refine ⟨fun n listed x read => (Workflow.isSound_of_valid checked valid listed read).usable, fun s => ?_⟩
  cases begun : o.outset? s with
  | none =>
      rw [visits_of_no_outset begun]
      exact fun v listed => .inl listed
  | some b =>
      have first : ∀ v ∈ b.scene.visits, v ∈ s.visits ∨ ∃ n, o.workflow.node? v.nodeId = some n ∧ n.AccountsFor v :=
        fun v listed => .inl (visits_of_outset begun ▸ listed)
      have final := walkWith_invariant b.payload b.scene (accounted_invariant checked valid b.parameters s.visits)
        (fun _ _ _ => first) fun _ _ _ => first
      rw [carryOut_of_outset begun]
      exact final

/-- A division by zero, and beside it a condition with a pattern that does not regard case. -/
def dividing : Order where
  workflow :=
    { id := "dividing", version := 1, name := "dividing", errorHandling := .stop
      nodes :=
        [⟨"start", "", .trigger, none⟩, ⟨"divide", "", .transform ⟨.map, "1 / 0", none⟩, none⟩,
         ⟨"match", "", .condition ⟨[⟨"name", .regex, .str "[a-z]+", false⟩], .every⟩, none⟩]
      edges := [⟨"1", "start", "divide", none, none⟩, ⟨"2", "start", "match", none, none⟩] }
  input := .null
  isTrusted := true
  registry := .empty
  limit := 5
  requestLimit := 0

/-- The division fails, which its record accounts for. -/
theorem carryOut_dividing_accounted :
    ((dividing.carryOut (Scene.start .start ⟨[], []⟩)).2.visits.map fun v => v.error.map RunError.message) =
        [some "Transform expression error: division by zero", none] ∧
      ∃ r, dividing.workflow.validate = .ok r ∧ r.valid = true ∧
        (∀ n ∈ dividing.workflow.nodes, ∀ x ∈ n.spots, x.IsUsable) ∧
          ∀ s, ∀ v ∈ (dividing.carryOut s).2.visits,
            v ∈ s.visits ∨ ∃ n, dividing.workflow.node? v.nodeId = some n ∧ n.AccountsFor v := by
  have checked : dividing.workflow.validate = .ok ⟨true, [], []⟩ := by cbv
  exact ⟨by decide +kernel, _, checked, rfl, carryOut_accounted dividing checked rfl⟩

end Order

end WorkflowEngine
