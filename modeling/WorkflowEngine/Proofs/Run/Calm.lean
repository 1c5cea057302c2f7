import WorkflowEngine.Proofs.Frame.Evaluation
import WorkflowEngine.Proofs.Run.Quiet

/-!
# Nodes that only add to the heap

Only actions and expressions change what is there.  A node of another kind adds to the heap at most, and so does
one whose expression applies no key that changes something.  Where all nodes of a definition are of this sort, and
variables are given values without parts, all steps are quiet.
-/

namespace WorkflowEngine

namespace Act

variable {α β : Type} {setting : Setting}

/-- Work that only adds to the heap: what was there stays as it is. -/
def Adds (a : Act α) : Prop :=
  ∀ stage : Stage, stage.scene.heap.Keeps stage.scene.heap.cells.size (a.run stage).2.scene.heap

/-- Work that does not touch the heap adds nothing to it. -/
theorem adds_of_same {a : Act α} (same : ∀ stage, (a.run stage).2.scene.heap = stage.scene.heap) : a.Adds := by
  intro stage
  rw [same]
  exact Heap.keeps_refl (Nat.le_refl _)

theorem adds_pure (v : α) : Adds (pure v) :=
  adds_of_same fun _ => rfl

theorem adds_note (level : LogLevel) (message : String) (data : Data) : Adds (note level message data) :=
  adds_of_same fun _ => rfl

theorem adds_lift (outcome : Except Fault α) : Adds (lift outcome) := by
  cases outcome with
  | ok v => exact adds_pure v
  | error f => exact adds_of_same fun _ => rfl

theorem adds_bind {a : Act α} {k : α → Act β} (first : a.Adds) (rest : ∀ v, (k v).Adds) : (a >>= k).Adds := by
  intro stage
  have before := first stage
  rw [run_bind]
  rcases ran : a.run stage with ⟨outcome, middle⟩
  rw [ran] at before
  cases outcome with
  | error message => exact before
  | ok v => exact before.later (rest v middle)

theorem adds_choose (n : Node) (c : ConditionConfig) (input : Value) : (choose setting n c input).Adds := by
  unfold choose
  refine adds_bind (adds_note _ _ _) fun _ => adds_bind (adds_of_same fun _ => rfl) fun s => ?_
  refine adds_bind (adds_lift _) fun ⟨holds, results⟩ => adds_bind (adds_note _ _ _) fun _ => ?_
  split
  · exact adds_pure _
  · exact adds_bind (adds_note _ _ _) fun _ => adds_pure _

theorem adds_request (c : ApiConfig) : (request setting c).Adds := by
  unfold request
  refine adds_bind (adds_note _ _ _) fun _ => adds_bind (adds_lift _) fun proof => adds_bind (adds_lift _) fun limit => ?_
  refine adds_bind (adds_of_same fun _ => rfl) fun s => ?_
  dsimp only
  refine adds_bind (adds_of_same fun _ => rfl) fun _ => ?_
  split
  · exact adds_of_same fun _ => rfl
  · exact adds_of_same fun _ => rfl
  · rename_i response _
    exact adds_bind (fun stage => (stage.scene.heap.load_shows response.toData).1) fun loaded => adds_lift loaded

/-- A node that neither does an action nor computes a value only adds to the heap. -/
theorem adds_perform {n : Node} (action : ∀ c, n.task ≠ .action c) (transform : ∀ c, n.task ≠ .transform c)
    (input : Value) : (perform setting n input).Adds := by
  unfold perform
  split
  · exact adds_pure _
  · rename_i c same
    exact absurd same (action c)
  · exact adds_choose n _ input
  · rename_i c same
    exact absurd same (transform c)
  · exact adds_of_same fun _ => rfl
  · exact adds_bind (adds_request _) fun _ => adds_pure _
  · exact adds_of_same fun _ => rfl

theorem adds_complete {task : Node → Value → Act Product} {n : Node} {input : Value} (adds : (task n input).Adds) :
    (complete task n input).Adds := by
  unfold complete
  refine adds_bind (adds_note _ _ _) fun _ => adds_bind adds fun product => ?_
  exact adds_bind (adds_of_same fun _ => rfl) fun s => adds_bind (adds_lift _) fun output => adds_pure _

end Act

/-- The node does no action, and its expression, if it has one, changes nothing that is there and comes to values
without parts that can be kept. -/
def Node.IsCalm (n : Node) : Prop :=
  match n.task with
  | .action _ => False
  | .transform c => ∀ h input vars,
    ¬ Expression.Disturbs h c.expression input (.dict vars) ∧
      ∀ v h', Eval.run (Expression.evaluate Expression.standardFunctions c.expression input (.dict vars)) h = (.ok v, h') →
        v.IsPlain ∧ (h'.view v).copyFault? = none
  | _ => True

namespace Order

variable {o : Order} {parameters : List (String × Value)} {n : Node} {input : Value} {s t : Scene}

/-- A calm node leaves what is there as it is until a variable is given its value. -/
theorem worked_keeps (calm : n.IsCalm) :
    s.heap.Keeps s.heap.cells.size (o.worked parameters ⟨n, input, s⟩).heap := by
  unfold Node.IsCalm at calm
  by_cases transforms : ∃ c, n.task = .transform c
  · obtain ⟨c, task⟩ := transforms
    rw [task] at calm
    have guards := Expression.guards_evaluateWith (Value.guarded_applyKey s.heap.cells.size) c.expression input (.dict s.vars)
    unfold worked evaluated?
    rw [task]
    rcases guards ⟨s.heap, 0⟩ (Nat.le_refl _) with refused | ⟨-, kept⟩
    · exact absurd refused (calm s.heap input s.vars).1
    · exact kept
  · have action : ∀ c, n.task ≠ .action c := by
      intro c task
      rw [task] at calm
      exact calm
    have transform : ∀ c, n.task ≠ .transform c := fun c task => transforms ⟨c, task⟩
    have none : evaluated? ⟨n, input, s⟩ = none := by
      unfold evaluated?
      split
      · exact absurd ‹_› (transform _)
      · rfl
    rw [worked, none]
    dsimp only
    rcases visited : Scene.visit o.workflow (o.task parameters) n input s with ⟨p, t⟩
    obtain ⟨-, ⟨rfl, -⟩ | ⟨heap, -⟩⟩ := visit_leaves visited
    · exact Heap.keeps_refl (Nat.le_refl _)
    · change s.heap.Keeps s.heap.cells.size t.heap
      rw [heap]
      exact Act.adds_complete (Act.adds_perform action transform input) ⟨s, []⟩

/-- A step at a calm node is quiet. -/
theorem quiet_of_calm {named : List (String × Value)} {part : Address → Prop} (calm : n.IsCalm) (names : s.Names named)
    (contained : s.Contained part) : o.Quiet parameters ⟨n, input, s⟩ where
  spares := by
    have kept : s.heap.Keeps s.heap.cells.size (o.worked parameters ⟨n, input, s⟩).heap := worked_keeps calm
    refine ⟨part, contained, fun a inside => ?_⟩
    rcases inside with rfl | inside
    · exact kept.same _ (Heap.lt_of_cell? names.cell)
    · obtain ⟨c, there, -⟩ := contained.enclosed a inside
      exact kept.same a (Heap.lt_of_cell? there)
  gives := by
    intro name v h variable_ evaluated
    obtain ⟨c, task⟩ : ∃ c, n.task = .transform c := by
      unfold Node.named? at variable_
      split at variable_
      · exact ⟨_, ‹_›⟩
      · cases variable_
    unfold Node.IsCalm at calm
    unfold evaluated? at evaluated
    simp only [task, Option.some.injEq] at calm evaluated
    obtain ⟨plain, copyable⟩ := (calm s.heap input s.vars).2 v h evaluated
    exact ⟨fun _ => False, ⟨nofun, .plain plain, id⟩, copyable⟩

/-- If all nodes are calm then all steps of a walk are quiet. -/
theorem calm_invariant (calm : ∀ n ∈ o.workflow.nodes, n.IsCalm) (parameters : List (String × Value))
    (fields : List (String × Data)) :
    (o.guide (o.task parameters)).recording.Invariant
      (fun _ s => Told o.workflow fields s.1 ∧ ∀ step ∈ s.2, o.Quiet parameters step)
      (fun s => Told o.workflow fields s.1 ∧ ∀ step ∈ s.2, o.Quiet parameters step) := by
  refine Guide.invariant_of_keeps (fun n input s found before => ?_) (fun output ids s before => ?_)
  · obtain ⟨told, quiet⟩ := before
    obtain ⟨named, part, names, contained, -⟩ := id told
    have last : o.Quiet parameters ⟨n, input, s.1⟩ :=
      quiet_of_calm (calm n (Workflow.mem_of_node? found).1) names contained
    exact ⟨last.visit found told rfl, List.forall_mem_cons.mpr ⟨last, quiet⟩⟩
  · obtain ⟨told, quiet⟩ := before
    exact ⟨told.spread rfl, quiet⟩

/-- A run is quiet if all nodes of its definition are calm. -/
theorem runsQuietly_of_calm (calm : ∀ n ∈ o.workflow.nodes, n.IsCalm) (clock : Clock) (transport : Http.Transport) :
    o.RunsQuietly (Scene.start clock transport) := by
  intro b begun step listed
  obtain ⟨fields, -, told⟩ := told_outset begun
  have final := walkWith_invariant b.payload b.scene (calm_invariant calm b.parameters fields)
    (fun _ _ copied => ⟨told.begin copied, fun _ taken => absurd taken List.not_mem_nil⟩)
    fun _ _ copied => ⟨told.begin copied, fun _ taken => absurd taken List.not_mem_nil⟩
  exact final.2 step (List.mem_reverse.mpr listed)

end Order

namespace Expression

/-- An expression that is a whole number comes to it, whatever it is given and however keys are applied. -/
theorem evaluateWith_int {apply : Aggregate.Apply} {functions : List (String × Value)} {expression : String} {i : Int}
    (readable : unreadable? (Text.trimChars expression.toList) = none)
    (program : readProgram (Text.trimChars expression.toList) = some (some (.value (.constant (.int i)))))
    (input : Value) (vars : Address) (h : Heap) :
    (Eval.run (evaluateWith apply functions expression input (.dict vars)) h).1 = .ok (.int i) := by
  have tree (s : Setting) : evaluateStatement s (.value (.constant (.int i))) = pure (.int i) := by
    rw [evaluateStatement, evaluateTree, constantValue]
  have tested : (Eval.isTrue (.dict vars)).exec ⟨h, 0⟩ = (.ok (h.isTrue (.dict vars)), ⟨h, 0⟩) := rfl
  unfold evaluateWith
  dsimp only
  rw [readable, program]
  simp only [tree]
  rw [Eval.run, Eval.exec_bind, tested]
  dsimp only
  split <;> rfl

end Expression

/-- A node whose expression is a whole number is calm. -/
theorem Node.isCalm_int {n : Node} {c : TransformConfig} {i : Int} (task : n.task = .transform c)
    (readable : Expression.unreadable? (Text.trimChars c.expression.toList) = none)
    (program : Expression.readProgram (Text.trimChars c.expression.toList) = some (some (.value (.constant (.int i))))) :
    n.IsCalm := by
  unfold Node.IsCalm
  rw [task]
  intro h input vars
  refine ⟨fun disturbs => ?_, fun v h' ran => ?_⟩
  · have refused := disturbs .exhausted
    rw [Expression.evaluateGuarded, Expression.evaluateWith_int readable program] at refused
    cases refused
  · have same := congrArg Prod.fst ran
    rw [Expression.evaluate, Expression.evaluateWith_int readable program] at same
    cases same
    exact ⟨trivial, rfl⟩

end WorkflowEngine

/-!
## The variables of a run

At the end of a run the variables are those of its input with what the records of the visits tell, unless a step
on the way changed in place what a variable holds.
-/

namespace WorkflowEngine.Order

/-- At the end of a run whose steps are quiet, the variables are the fields of the input as the records of the visits
have set them, one after the other. -/
theorem carryOut_variables (o : Order) (clock : Clock) (transport : Http.Transport)
    (quiet : o.RunsQuietly (Scene.start clock transport)) :
    ∃ fields, o.Opens (Scene.start clock transport) fields ∧
      (o.carryOut (Scene.start clock transport)).2.variablesData =
        .ofFields ((o.visitsOf (Scene.start clock transport)).foldl o.workflow.assign fields) := by
  unfold visitsOf
  cases begun : o.outset? (Scene.start clock transport) with
  | none =>
      obtain ⟨fields, shown, opens⟩ := names_of_no_outset begun
      refine ⟨fields, opens, ?_⟩
      rw [visits_of_no_outset begun]
      exact shown
  | some b =>
      obtain ⟨fields, opens, told⟩ := told_outset begun
      obtain ⟨named, part, names, contained, shown⟩ := told.walk (quiet b begun)
      refine ⟨fields, opens, ?_⟩
      rw [carryOut_of_outset begun, ← shown]
      exact names.variablesData contained

/-- A trigger, and behind it a number that a variable is given. -/
def counting : Order where
  workflow :=
    { id := "counting", version := 1, name := "counting", errorHandling := .stop
      nodes := [⟨"start", "", .trigger, none⟩, ⟨"count", "", .transform ⟨.map, "1", some "n"⟩, none⟩]
      edges := [⟨"1", "start", "count", none, none⟩] }
  input := .ofFields [("k", .null)]
  isTrusted := true
  registry := .empty
  limit := 5
  requestLimit := 0

set_option maxRecDepth 20000 in
/-- The variable of a number is what the record of its visit tells, and the others are those of the input. -/
theorem carryOut_counting_variables :
    counting.RunsQuietly (Scene.start .start ⟨[], []⟩) ∧
      ∃ fields, counting.Opens (Scene.start .start ⟨[], []⟩) fields ∧
        (counting.carryOut (Scene.start .start ⟨[], []⟩)).2.variablesData =
          .ofFields ((counting.visitsOf (Scene.start .start ⟨[], []⟩)).foldl counting.workflow.assign fields) := by
  have quiet : counting.RunsQuietly (Scene.start .start ⟨[], []⟩) := by
    refine runsQuietly_of_calm (fun n listed => ?_) .start ⟨[], []⟩
    simp only [counting, List.mem_cons, List.not_mem_nil, or_false] at listed
    rcases listed with rfl | rfl
    · trivial
    · exact Node.isCalm_int rfl (by cbv) (i := 1) (by cbv)
  exact ⟨quiet, carryOut_variables counting .start ⟨[], []⟩ quiet⟩

/-- A dictionary that a variable is given, and behind it an action that changes its input in place. -/
def rewriting : Order where
  workflow :=
    { id := "rewriting", version := 1, name := "rewriting", errorHandling := .stop
      nodes :=
        [⟨"start", "", .trigger, none⟩, ⟨"make", "", .transform ⟨.map, "\x7b'n':1\x7d", some "x"⟩, none⟩,
         ⟨"mutate", "", .action ⟨"mutate", [], none⟩, none⟩]
      edges := [⟨"1", "start", "make", none, none⟩, ⟨"2", "make", "mutate", none, none⟩] }
  input := .null
  isTrusted := true
  registry := Sample.registryOf ["mutate"]
  limit := 5
  requestLimit := 0

/-- A container that a variable is given is handed on by reference, and is not what the records tell at the end. -/
theorem carryOut_rewrites_variable :
    let ended := (rewriting.carryOut (Scene.start .start ⟨[], []⟩)).2
    (ended.variablesData.text,
        (Data.ofFields ((rewriting.visitsOf (Scene.start .start ⟨[], []⟩)).foldl rewriting.workflow.assign [])).text) =
      ("\x7b'x': \x7b'n': 1, 'mutated': True\x7d\x7d", "\x7b'x': \x7b'n': 1\x7d\x7d") := by
  decide +kernel

end WorkflowEngine.Order
