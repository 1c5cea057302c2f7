import WorkflowEngine.Proofs.Run.Names
import WorkflowEngine.Proofs.Run.Origin

/-!
# Steps that leave the variables to the records

Each visit to a node that computes a value for a variable gives the variable its output, and the record of the
visit tells what it was.  What a variable is given may be shared with what nodes go on to work with, so the
variables are what the records tell only as long as no step changes in place what a variable holds, and no
variable is given the variables themselves.
-/

namespace WorkflowEngine

/-- The variable that a node gives its output to. -/
def Node.named? (n : Node) : Option String :=
  match n.task with
  | .transform c => c.outputVariable.filter fun name => name != ""
  | _ => none

/-- The variable that a visit gave its output to. -/
def Workflow.assigned? (w : Workflow) (v : Visit) : Option String :=
  if v.status = .completed then (w.node? v.nodeId).bind Node.named? else none

/-- The variables after a visit, of which the record tells what they are given. -/
def Workflow.assign (w : Workflow) (fields : List (String × Data)) (v : Visit) : List (String × Data) :=
  match w.assigned? v with
  | some name => Reading.setKey name v.output fields
  | none => fields

/-- The record tells how the work of its visit ended, and what came of it. -/
def Visit.Reports (v : Visit) : Except NodeFailure (Product × Data) → Prop
  | .ok (_, output) => v.status = .completed ∧ v.output = output
  | .error _ => v.status = .failed

/-- Gives a variable its value, if there is one to be given. -/
def Scene.name (s : Scene) (name : Option String) (v : Value) : Scene :=
  match name with
  | some name => s.assign name v
  | none => s

namespace Act

/-- A value is computed on the heap, and given to the variable of the node. -/
theorem run_compute (c : TransformConfig) (input : Value) (stage : Stage) :
    let ran := Eval.run (Expression.evaluate Expression.standardFunctions c.expression input (.dict stage.scene.vars))
      stage.scene.heap
    match ran.1 with
    | .error _ => (∃ message, ((compute c input).run stage).1 = .error message) ∧
        ((compute c input).run stage).2.scene.heap = ran.2
    | .ok v => ((compute c input).run stage).1 = .ok v ∧
        ((compute c input).run stage).2.scene.heap =
          (Scene.name { stage.scene with heap := ran.2 } (c.outputVariable.filter fun name => name != "") v).heap := by
  intro ran
  have evaluated : (compute c input).run stage =
      (match ran.1 with
        | .error f => say ("Transform expression error: " ++ f.message)
        | .ok value => do
          match c.outputVariable with
          | some name => if name != "" then change fun s => s.assign name value
          | none => pure ()
          return value : Act Value).run
        (let l := stage.scene.line .info ("Executing transform: " ++ c.kind.name) .null
         ⟨{ stage.scene.write l with heap := ran.2 }, l :: stage.lines⟩) := rfl
  rw [evaluated]
  generalize ran = outcome
  obtain ⟨result, h⟩ := outcome
  cases result with
  | error f => exact ⟨⟨_, rfl⟩, rfl⟩
  | ok v =>
      cases c.outputVariable with
      | none => exact ⟨rfl, rfl⟩
      | some name =>
          by_cases blank : name = ""
          · subst blank
            exact ⟨rfl, rfl⟩
          · have given : (name != "") = true := bne_iff_ne.mpr blank
            simp only [given, if_true, Option.filter_some]
            exact ⟨rfl, rfl⟩

/-- A node that computes a value comes to it unless the expression does not, or the value cannot be kept. -/
theorem run_complete_transform (setting : Setting) {n : Node} {c : TransformConfig} (transforms : n.task = .transform c)
    (input : Value) (s : Scene) :
    let ran := Eval.run (Expression.evaluate Expression.standardFunctions c.expression input (.dict s.vars)) s.heap
    let after := (complete (perform setting) n input).run ⟨s, []⟩
    match ran.1 with
    | .error _ => (∃ message, after.1 = .error message) ∧ after.2.scene.heap = ran.2
    | .ok v => after.2.scene.heap = (Scene.name { s with heap := ran.2 } n.named? v).heap ∧
        after.1 = match after.2.scene.heap.snapshot v with
          | .ok d => .ok ((v, none), d)
          | .error f => .error (.str f.summary) := by
  intro ran after
  have variable_ : n.named? = c.outputVariable.filter fun name => name != "" := by rw [Node.named?, transforms]
  have performs : perform setting n input = do return (← compute c input, none) := by rw [perform, transforms]
  have done : after = _ := run_complete (perform setting) n input ⟨s, []⟩
  dsimp only at done
  generalize staged : (⟨s.write _, _⟩ : Stage) = stage at done
  have place : stage.scene.vars = s.vars := by rw [← staged]; rfl
  have heap : stage.scene.heap = s.heap := by rw [← staged]; rfl
  have named (h : Heap) (name : Option String) (v : Value) :
      (Scene.name { stage.scene with heap := h } name v).heap = (Scene.name { s with heap := h } name v).heap := by
    cases name with
    | none => rfl
    | some name =>
        change h.write stage.scene.vars _ = h.write s.vars _
        rw [place]
  have computed := run_compute c input stage
  rw [place, heap] at computed
  simp only [named, ← variable_] at computed
  rw [performs, run_bind] at done
  rcases made : (compute c input).run stage with ⟨outcome, stage'⟩
  rw [made] at computed done
  change match ran.1 with
    | .error _ => (∃ message, outcome = .error message) ∧ stage'.scene.heap = ran.2
    | .ok v => outcome = .ok v ∧ stage'.scene.heap = (Scene.name { s with heap := ran.2 } n.named? v).heap at computed
  cases result : ran.1 with
  | error f =>
      rw [result] at computed
      obtain ⟨⟨message, rfl⟩, heap'⟩ := computed
      exact ⟨⟨message, by rw [done]⟩, by rw [done]; exact heap'⟩
  | ok v =>
      rw [result] at computed
      obtain ⟨rfl, heap'⟩ := computed
      replace done : after = match stage'.scene.heap.snapshot v with
          | .ok d => (.ok ((v, none), d), stage')
          | .error f => (.error (.str f.summary), stage') := done
      have last : after.2 = stage' := by
        rw [done]
        split <;> rfl
      refine ⟨by rw [last]; exact heap', ?_⟩
      rw [last, done]
      split <;> rfl

end Act

namespace Scene

variable {s t : Scene} {value : Value} {ids : List String}

/-- Copies for nodes are made beside what is there. -/
theorem copies_keeps {done : List (String × Value)} {h h' : Heap} {r : Except Fault (List (String × Value))}
    (made : copies value done h ids = (r, h')) : h.Keeps h.cells.size h' := by
  induction ids generalizing done h with
  | nil =>
      cases made
      exact Heap.keeps_refl (Nat.le_refl _)
  | cons id rest ih =>
      unfold copies at made
      split at made
      · cases made
        exact Heap.keeps_refl (Nat.le_refl _)
      · rename_i copied
        exact (Heap.keeps_of_copy copied).later (ih made)

/-- What was there stays as it is when an output is handed on. -/
theorem spread_keeps {r : Except RunFailure (List (String × Value))} (given : spread value ids s = (r, t)) :
    t.vars = s.vars ∧ s.heap.Keeps s.heap.cells.size t.heap := by
  unfold spread at given
  split at given
  · cases given
    exact ⟨rfl, Heap.keeps_refl (Nat.le_refl _)⟩
  · split at given
    · rename_i made
      cases given
      exact ⟨rfl, copies_keeps made⟩
    · rename_i made
      cases given
      exact ⟨rfl, copies_keeps made⟩

end Scene

namespace Order

variable {o : Order} {parameters : List (String × Value)} {n : Node} {input : Value} {s t : Scene}
  {named : List (String × Value)} {part : Address → Prop} {p : Passage RunFailure Value}

/-- What the expression of a step comes to, if it has one. -/
def evaluated? (step : NodeStep Scene Value) : Option (Except Fault Value × Heap) :=
  match step.node.task with
  | .transform c =>
    some (Eval.run (Expression.evaluate Expression.standardFunctions c.expression step.input (.dict step.before.vars))
      step.before.heap)
  | _ => none

/-- The scene that the work of a step leads to, before a variable is given its value. -/
def worked (o : Order) (parameters : List (String × Value)) (step : NodeStep Scene Value) : Scene :=
  match evaluated? step with
  | some ran => { step.before with heap := ran.2 }
  | none => (Scene.visit o.workflow (o.task parameters) step.node step.input step.before).2

/-- A step leaves the variables and what they hold as they are until it gives one of them its value, which can be
kept and does not lead to the variables. -/
structure Quiet (o : Order) (parameters : List (String × Value)) (step : NodeStep Scene Value) : Prop where
  spares : ∃ part, step.before.Contained part ∧
    ∀ a, a = step.before.vars ∨ part a → (o.worked parameters step).heap.cell? a = step.before.heap.cell? a
  gives : ∀ name v h, step.node.named? = some name → evaluated? step = some (.ok v, h) →
    ∃ part, (o.worked parameters step).Apart part v ∧ (h.view v).copyFault? = none

theorem snapshot_eq_ok {h : Heap} {v : Value} (copyable : (h.view v).copyFault? = none) : h.snapshot v = .ok (h.view v) := by
  rw [Heap.snapshot, Data.copy, copyable]

/-- A visit that failed, or to a node without a variable, gives no variable a value. -/
theorem assign_of_none {w : Workflow} {fields : List (String × Data)} {v : Visit} (none : w.assigned? v = none) :
    w.assign fields v = fields := by
  rw [Workflow.assign, none]

/-- What a visit leaves: nothing, where its input cannot be kept, or a record of a failure or of an output, on the heap
that its work led to. -/
theorem visit_leaves (visited : Scene.visit o.workflow (o.task parameters) n input s = (p, t)) :
    let after := (Act.complete (o.task parameters) n input).run ⟨s, []⟩
    t.vars = s.vars ∧
      (t = s ∧ (∃ e, p = .stopped e) ∨ t.heap = after.2.scene.heap ∧ ∃ v : Visit, t.visits = v :: s.visits ∧
        v.nodeId = n.id ∧ s.heap.snapshot input = .ok v.input ∧ v.Reports after.1) := by
  intro after
  have steady : (o.task parameters n input).Steady := Act.steady_perform _ n input
  have same := Act.steady_discipline.complete steady ⟨s, []⟩
  cases Scene.visited_of_visit visited with
  | unreadable faulty => exact ⟨rfl, .inl ⟨rfl, _, rfl⟩⟩
  | completed read done =>
      rename_i given value chosen output stage
      rw [done] at same
      refine ⟨same.2, .inr ⟨by simp only [after, done]; rfl, _, congrArg _ same.1, rfl, read, ?_⟩⟩
      simp only [after, done]
      exact ⟨rfl, rfl⟩
  | failed read done =>
      rename_i given message stage
      rw [done] at same
      obtain ⟨heap, vars, -⟩ := Scene.failVisit_heap o.workflow n (Visit.begin n given s.now) message stage
      obtain ⟨v, visits, id, shown, -, status, -⟩ :=
        Scene.failVisit_visits o.workflow n (Visit.begin n given s.now) message stage
      refine ⟨vars.trans same.2, .inr ⟨by simp only [after, done]; exact heap, v, visits.trans (congrArg _ same.1), id,
        shown ▸ read, ?_⟩⟩
      simp only [after, done]
      exact status

/-- What a visit to a node that computes a value leaves, by what its expression came to on which heap: a record of a
failure on that heap, or, once the variable of the node has the value, a record of the value, if it can be kept. -/
inductive Computed (n : Node) (s : Scene) (v : Visit) : Except Fault Value × Heap → Heap → Prop where
  | valueless {f : Fault} {h : Heap} (failed : v.status = .failed) : Computed n s v (.error f, h) h
  | unkept {r : Value} {h : Heap} {f : Fault} (failed : v.status = .failed)
      (faulty : (Scene.name { s with heap := h } n.named? r).heap.snapshot r = .error f) :
      Computed n s v (.ok r, h) (Scene.name { s with heap := h } n.named? r).heap
  | kept {r : Value} {h : Heap} (completed : v.status = .completed)
      (output : (Scene.name { s with heap := h } n.named? r).heap.snapshot r = .ok v.output) :
      Computed n s v (.ok r, h) (Scene.name { s with heap := h } n.named? r).heap

/-- Such a record is left by every visit to a node that computes a value. -/
theorem computed_of_reports {c : TransformConfig} (transforms : n.task = .transform c) {v : Visit}
    (reports : v.Reports ((Act.complete (o.task parameters) n input).run ⟨s, []⟩).1) :
    Computed n s v
      (Eval.run (Expression.evaluate Expression.standardFunctions c.expression input (.dict s.vars)) s.heap)
      ((Act.complete (o.task parameters) n input).run ⟨s, []⟩).2.scene.heap := by
  have computed := Act.run_complete_transform ⟨o.workflow, o.registry, o.requestLimit, parameters⟩ transforms input s
  rw [← Order.task] at computed
  rcases ran : Eval.run (Expression.evaluate Expression.standardFunctions c.expression input (.dict s.vars)) s.heap
    with ⟨outcome, h⟩
  rw [ran] at computed
  cases outcome with
  | error f =>
      obtain ⟨⟨message, failed⟩, heap⟩ := computed
      rw [failed] at reports
      exact heap ▸ .valueless reports
  | ok r =>
      obtain ⟨heap, ended⟩ := computed
      rw [ended, heap] at reports
      rw [heap]
      cases kept : (Scene.name { s with heap := h } n.named? r).heap.snapshot r with
      | error f =>
          rw [kept] at reports
          exact .unkept reports kept
      | ok d =>
          rw [kept] at reports
          obtain ⟨completed, output⟩ := reports
          exact .kept completed (output ▸ kept)

/-- The variables stand apart and show what the records of the visits tell, beginning with some fields. -/
def Told (w : Workflow) (fields : List (String × Data)) (s : Scene) : Prop :=
  ∃ named part, s.Names named ∧ s.Contained part ∧ s.shown named = s.visits.reverse.foldl w.assign fields

/-- A scene with one record more, of which the variables take over what it tells. -/
theorem Told.visit {w : Workflow} {fields : List (String × Data)} {v : Visit} {named' : List (String × Value)}
    (names : t.Names named') (contained : t.Contained part) (visits : t.visits = v :: s.visits)
    (before : s.shown named = s.visits.reverse.foldl w.assign fields) (shown : t.shown named' = w.assign (s.shown named) v) :
    Told w fields t := by
  refine ⟨named', part, names, contained, ?_⟩
  rw [shown, before, visits, List.reverse_cons, List.foldl_append]
  rfl

/-- The value that a quiet step gives to a variable can be kept, and the variable shows it. -/
theorem Quiet.give {r : Value} {h : Heap} {name : String} (quiet : o.Quiet parameters ⟨n, input, s⟩)
    (names : s.Names named) (variable_ : n.named? = some name) (evaluated : evaluated? ⟨n, input, s⟩ = some (.ok r, h))
    (vars : t.vars = s.vars) (last : t.heap = (Scene.assign { s with heap := h } name r).heap) :
    t.heap.snapshot r = .ok (t.heap.view r) ∧ ∃ named' part, t.Names named' ∧ t.Contained part ∧
      t.shown named' = Reading.setKey name (t.heap.view r) (s.shown named) := by
  obtain ⟨⟨part, contained, same⟩, gives⟩ := quiet
  have work : o.worked parameters ⟨n, input, s⟩ = { s with heap := h } := by rw [worked, evaluated]
  rw [work] at same gives
  obtain ⟨part', apart, copyable⟩ := gives name r h variable_ evaluated
  obtain ⟨worked, there, shown⟩ := names.of_same (t := { s with heap := h }) contained rfl same
  obtain ⟨given, containedLast, view, shownLast⟩ := worked.give (t := t) there apart vars last
  exact ⟨snapshot_eq_ok (view ▸ copyable), _, _, given, containedLast, shown ▸ shownLast⟩

/-- A visit in a quiet step leaves the variables as the records of visits tell. -/
theorem Quiet.visit {fields : List (String × Data)} (quiet : o.Quiet parameters ⟨n, input, s⟩)
    (found : o.workflow.node? n.id = some n) (told : Told o.workflow fields s)
    (visited : Scene.visit o.workflow (o.task parameters) n input s = (p, t)) : Told o.workflow fields t := by
  obtain ⟨part, contained, same⟩ := quiet.spares
  obtain ⟨named, -, names, -, before⟩ := told
  obtain ⟨vars, ⟨rfl, -⟩ | ⟨heap, v, visits, id, -, reports⟩⟩ := visit_leaves visited
  · exact ⟨named, part, names, contained, before⟩
  · have assigned : o.workflow.assigned? v = if v.status = .completed then n.named? else none := by
      rw [Workflow.assigned?, id, found]
      rfl
    -- Where the step gives no variable a value, its work is all that it does.
    have only (none : o.workflow.assigned? v = none) (work : t.heap = (o.worked parameters ⟨n, input, s⟩).heap) :
        Told o.workflow fields t := by
      obtain ⟨later, apart, shown⟩ := names.of_same (t := t) contained vars fun a inside => work ▸ same a inside
      exact Told.visit later apart visits before (by rw [assign_of_none none, shown])
    cases task : n.task with
    | transform c =>
        have computed := computed_of_reports task reports
        rcases ran : Eval.run (Expression.evaluate Expression.standardFunctions c.expression input (.dict s.vars)) s.heap
          with ⟨outcome, h⟩
        rw [ran, ← heap] at computed
        have evaluated : evaluated? ⟨n, input, s⟩ = some (outcome, h) := by
          rw [evaluated?]
          simp only [task, ran]
        have work : (o.worked parameters ⟨n, input, s⟩).heap = h := by rw [worked, evaluated]
        generalize last : t.heap = final at computed
        cases variable_ : n.named? with
        | none =>
            have unchanged : final = h := by
              cases computed with
              | valueless => rfl
              | _ => rw [variable_]; rfl
            exact only (by rw [assigned, variable_, ite_self]) (last.trans (unchanged.trans work.symm))
        | some name =>
            cases computed with
            | valueless failed => exact only (by rw [assigned, failed]; rfl) (last.trans work.symm)
            | unkept failed faulty =>
                rw [variable_] at last faulty
                obtain ⟨keeps, -⟩ := quiet.give names variable_ evaluated vars last
                rw [last, Scene.name] at keeps
                exact absurd (faulty.symm.trans keeps) nofun
            | kept completed output =>
                rw [variable_] at last output
                obtain ⟨keeps, named', part', given, containedLast, shown⟩ :=
                  quiet.give names variable_ evaluated vars last
                rw [← last, keeps] at output
                refine Told.visit given containedLast visits before (shown.trans ?_)
                rw [Workflow.assign, assigned, if_pos completed, variable_, Except.ok.inj output]
    | _ =>
        refine only ?_ ?_
        · rw [assigned, Node.named?, task]
          simp
        · rw [worked, evaluated?]
          simp only [task, visited]

/-- Outputs are handed on by copies that leave the variables as they are. -/
theorem Told.spread {w : Workflow} {fields : List (String × Data)} {value : Value} {ids : List String}
    {r : Except RunFailure (List (String × Value))} (told : Told w fields s)
    (given : Scene.spread value ids s = (r, t)) : Told w fields t := by
  obtain ⟨named, part, names, contained, shown⟩ := told
  obtain ⟨vars, kept⟩ := Scene.spread_keeps given
  obtain ⟨later, apart, still⟩ := names.of_keeps contained vars kept
  have visits := Scene.spread_visits value ids s
  rw [given] at visits
  refine ⟨named, part, later, apart, ?_⟩
  rw [still, shown, visits]

/-- The turns of a walk keep the variables as the records tell while all steps are quiet. -/
theorem told_invariant (parameters : List (String × Value)) (fields : List (String × Data)) :
    (o.guide (o.task parameters)).recording.Invariant
      (fun _ s => (∀ step ∈ s.2, o.Quiet parameters step) → Told o.workflow fields s.1)
      (fun s => (∀ step ∈ s.2, o.Quiet parameters step) → Told o.workflow fields s.1) := by
  refine Guide.invariant_of_keeps (fun n input s found before quiet => ?_) (fun output ids s before quiet => ?_)
  · obtain ⟨last, others⟩ := List.forall_mem_cons.mp quiet
    exact last.visit found (before others) rfl
  · exact (before quiet).spread rfl

/-- Copies for the triggers leave the variables as they are. -/
theorem Told.begin {w : Workflow} {fields : List (String × Data)} {payload : Value} {ids : List String} {h : Heap}
    {r : Except Fault (List (String × Value))} (told : Told w fields s)
    (copied : Scene.copies payload [] s.heap ids = (r, h)) : Told w fields { s with heap := h } := by
  obtain ⟨named, part, names, contained, shown⟩ := told
  obtain ⟨later, apart, still⟩ := names.of_keeps (t := { s with heap := h }) contained rfl (Scene.copies_keeps copied)
  exact ⟨named, part, later, apart, still.trans shown⟩

/-- A walk whose steps are quiet leaves the variables as the records tell. -/
theorem Told.walk {fields : List (String × Data)} {payload : Value} (told : Told o.workflow fields s)
    (quiet : ∀ step ∈ o.steps (o.task parameters) payload s, o.Quiet parameters step) :
    Told o.workflow fields (o.walkWith (o.task parameters) payload s).2 := by
  have final := walkWith_invariant payload s (told_invariant parameters fields)
    (fun _ _ copied _ => told.begin copied) fun _ _ copied _ => told.begin copied
  exact final fun step listed => quiet step (List.mem_reverse.mp listed)

/-- All steps of a run are quiet. -/
def RunsQuietly (o : Order) (s : Scene) : Prop :=
  ∀ b, o.outset? s = some b → ∀ step ∈ o.steps (o.task b.parameters) b.payload b.scene, o.Quiet b.parameters step

/-- The walk of a run sets out without any records, so its variables are what they tell. -/
theorem told_outset {clock : Clock} {transport : Http.Transport} {b : Outset}
    (begun : o.outset? (Scene.start clock transport) = some b) :
    ∃ fields, o.Opens (Scene.start clock transport) fields ∧ Told o.workflow fields b.scene := by
  obtain ⟨named, part, names, contained, opens⟩ := outset_names begun
  exact ⟨b.scene.shown named, opens, named, part, names, contained, by rw [(outset_isSound begun).visits]; rfl⟩

end Order

end WorkflowEngine
