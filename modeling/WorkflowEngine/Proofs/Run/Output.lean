import WorkflowEngine.Proofs.Run.Quiet
import WorkflowEngine.Proofs.Run.Record

/-!
# Recorded outputs

The record of a visit keeps the input as it was before the visit and the output as it is when the node is done.  At
a node with an expression the output is what the expression comes to, on the input and on the variables as they were
before the visit.  If a variable is named for it, it becomes the value of the variable before it is recorded.  That
does not change it, unless it leads to the variables itself.
-/

namespace WorkflowEngine

namespace Heap

variable {h h' : Heap} {a : Address} {v : Value}

/-- The value is the container at an address, or it has a part that leads there. -/
inductive LeadsTo (h : Heap) (a : Address) : Value → Prop where
  | here {v : Value} (place : v.address? = some a) : LeadsTo h a v
  | item {v x : Value} {b : Address} (place : v.address? = some b) (listed : x ∈ h.items b) (further : LeadsTo h a x) :
      LeadsTo h a v
  | key {v : Value} {e : Value × Value} {b : Address} (place : v.address? = some b) (listed : e ∈ h.entries b)
      (further : LeadsTo h a e.1) : LeadsTo h a v
  | entry {v : Value} {e : Value × Value} {b : Address} (place : v.address? = some b) (listed : e ∈ h.entries b)
      (further : LeadsTo h a e.2) : LeadsTo h a v
  | lower {lower upper step : Value} (further : LeadsTo h a lower) : LeadsTo h a (.slice lower upper step)
  | upper {lower upper step : Value} (further : LeadsTo h a upper) : LeadsTo h a (.slice lower upper step)
  | step {lower upper step : Value} (further : LeadsTo h a step) : LeadsTo h a (.slice lower upper step)

/-- A value that does not lead to the only container that is changed shows the same data, however deep one looks. -/
theorem viewIn_of_elsewhere (same : ∀ b, b ≠ a → h'.cell? b = h.cell? b) {fuel : Nat} {path : List Address}
    (apart : ¬ h.LeadsTo a v) : h'.viewIn fuel path v = h.viewIn fuel path v := by
  induction fuel generalizing path v with
  | zero => rfl
  | succ fuel ih =>
      have elsewhere {v : Value} {b : Address} (apart : ¬ h.LeadsTo a v) (place : v.address? = some b) :
          h'.cell? b = h.cell? b := by
        refine same b ?_
        rintro rfl
        exact apart (.here place)
      have items {v : Value} {b : Address} (apart : ¬ h.LeadsTo a v) (place : v.address? = some b) :
          (h'.items b).map (h'.viewIn fuel (b :: path)) = (h.items b).map (h.viewIn fuel (b :: path)) := by
        rw [Heap.items, elsewhere apart place]
        exact List.map_congr_left fun x listed => ih fun further => apart (.item place listed further)
      have entries {v : Value} {b : Address} (apart : ¬ h.LeadsTo a v) (place : v.address? = some b) :
          ((h'.entries b).map fun e => (h'.viewIn fuel (b :: path) e.1, h'.viewIn fuel (b :: path) e.2)) =
            (h.entries b).map fun e => (h.viewIn fuel (b :: path) e.1, h.viewIn fuel (b :: path) e.2) := by
        rw [Heap.entries, elsewhere apart place]
        refine List.map_congr_left fun e listed => ?_
        rw [ih fun further => apart (.key place listed further), ih fun further => apart (.entry place listed further)]
      induction v with
      | list b => simp only [Heap.viewIn, Value.outline, items apart rfl]
      | tuple b => simp only [Heap.viewIn, Value.outline, items apart rfl]
      | set b => simp only [Heap.viewIn, Value.outline, items apart rfl]
      | dict b => simp only [Heap.viewIn, Value.outline, entries apart rfl]
      | slice lower upper step ihLower ihUpper ihStep =>
          have ihLower := ihLower fun further => apart (.lower further)
          have ihUpper := ihUpper fun further => apart (.upper further)
          have ihStep := ihStep fun further => apart (.step further)
          have parts := congr (congr (congrArg Data.slice ihLower) ihUpper) ihStep
          exact parts
      | _ => rfl

/-- Changing a container changes nothing about values that do not lead to it. -/
theorem view_write (c : Cell) (apart : ¬ h.LeadsTo a v) : (h.write a c).view v = h.view v := by
  have size : (h.write a c).cells.size = h.cells.size := by simp [write]
  rw [view, view, size]
  exact viewIn_of_elsewhere (fun b other => cell?_write_of_ne c other.symm) apart

end Heap

/-- Giving a variable its value does not change a value that does not lead to the variables. -/
theorem Scene.snapshot_name {s : Scene} {name : Option String} {v : Value} (apart : name = none ∨ ¬ s.heap.LeadsTo s.vars v) :
    (s.name name v).heap.snapshot v = s.heap.snapshot v := by
  cases name with
  | none => rfl
  | some name =>
      have elsewhere : ¬ s.heap.LeadsTo s.vars v := apart.resolve_left (by simp)
      change ((s.heap.write s.vars _).view v).copy = (s.heap.view v).copy
      rw [Heap.view_write _ elsewhere]

namespace Order

variable {o : Order} {parameters : List (String × Value)} {n : Node} {input : Value} {s t : Scene}
  {p : Passage RunFailure Value}

/-- The record of a step: it names the node, keeps the input as it was before the step and, if the node computed a
value, keeps what the expression came to on this input and on the variables as they were before.  What it came to is
looked at once the variable of the node has it for its value, which makes no difference unless it leads to the
variables. -/
structure RecordsStep (step : NodeStep Scene Value) (v : Visit) : Prop where
  node : v.nodeId = step.node.id
  input : step.before.heap.snapshot step.input = .ok v.input
  output : ∀ c, step.node.task = .transform c → v.status = .completed → ∃ r h,
    Eval.run (Expression.evaluate Expression.standardFunctions c.expression step.input (.dict step.before.vars))
      step.before.heap = (.ok r, h) ∧
    (Scene.name { step.before with heap := h } step.node.named? r).heap.snapshot r = .ok v.output ∧
    (step.node.named? = none ∨ ¬ h.LeadsTo step.before.vars r → h.snapshot r = .ok v.output)

/-- A visit leaves a record of its step, unless its input cannot be kept, which stops the run. -/
theorem recordsStep_of_visit (visited : Scene.visit o.workflow (o.task parameters) n input s = (p, t)) :
    t = s ∧ (∃ e, p = .stopped e) ∨ ∃ v, t.visits = v :: s.visits ∧ RecordsStep ⟨n, input, s⟩ v := by
  obtain ⟨-, unread | ⟨-, v, visits, id, read, reports⟩⟩ := visit_leaves visited
  · exact .inl unread
  · refine .inr ⟨v, visits, id, read, fun c task completed => ?_⟩
    dsimp only at task ⊢
    have computed := computed_of_reports task reports
    rcases ran : Eval.run (Expression.evaluate Expression.standardFunctions c.expression input (.dict s.vars)) s.heap
      with ⟨outcome, h⟩
    rw [ran] at computed
    generalize ((Act.complete (o.task parameters) n input).run ⟨s, []⟩).2.scene.heap = final at computed
    cases computed with
    | valueless failed => exact absurd (completed.symm.trans failed) nofun
    | unkept failed => exact absurd (completed.symm.trans failed) nofun
    | @kept r _ _ output =>
        refine ⟨r, h, rfl, output, fun apart => ?_⟩
        rw [← output]
        exact (Scene.snapshot_name (s := { s with heap := h }) apart).symm

/-- The steps that have left a record are all that were taken, or all but the last one. -/
theorem records_invariant (parameters : List (String × Value)) :
    (o.guide (o.task parameters)).recording.Invariant (fun _ s => List.Forall₂ RecordsStep s.2 s.1.visits)
      (fun s => ∃ taken, taken <:+ s.2 ∧ List.Forall₂ RecordsStep taken s.1.visits) := by
  have visits {n : Node} {input : Value} {s t : Scene × List (NodeStep Scene Value)} {p : Passage RunFailure Value}
      (before : List.Forall₂ RecordsStep s.2 s.1.visits)
      (visited : (o.guide (o.task parameters)).recording.visit n input s = (p, t)) :
      (∃ e, p = .stopped e) ∧ s.2 <:+ t.2 ∧ List.Forall₂ RecordsStep s.2 t.1.visits ∨
        List.Forall₂ RecordsStep t.2 t.1.visits := by
    obtain ⟨ran, taken⟩ := Guide.of_recording_visit visited
    rcases recordsStep_of_visit ran with ⟨same, stopped⟩ | ⟨v, visits, records⟩
    · exact .inl ⟨stopped, taken ▸ List.suffix_cons _ _, same ▸ before⟩
    · rw [visits, taken]
      exact .inr (.cons records before)
  have spreads {output : Value} {ids : List String} {s t : Scene × List (NodeStep Scene Value)}
      {r : Except RunFailure (List (String × Value))} (before : List.Forall₂ RecordsStep s.2 s.1.visits)
      (given : (o.guide (o.task parameters)).recording.spread output ids s = (r, t)) :
      List.Forall₂ RecordsStep t.2 t.1.visits := by
    obtain ⟨spread, still⟩ := Guide.of_recording_spread given
    have same := Scene.spread_visits output ids s.1
    rw [show Scene.spread output ids s.1 = (r, t.1) from spread] at same
    rw [still, same]
    exact before
  exact {
    left := fun before => ⟨_, List.suffix_refl _, before⟩
    ended := fun before _ visited => by
      rcases visits before visited with ⟨⟨e, stopped⟩, -⟩ | records
      · cases stopped
      · exact records
    stopped := fun before _ visited => by
      rcases visits before visited with ⟨-, taken, records⟩ | records
      · exact ⟨_, taken, records⟩
      · exact ⟨_, List.suffix_refl _, records⟩
    refused := fun before _ visited given => by
      rcases visits before visited with ⟨⟨e, stopped⟩, -⟩ | records
      · cases stopped
      · exact ⟨_, List.suffix_refl _, spreads records given⟩
    onward := fun before _ visited given => by
      rcases visits before visited with ⟨⟨e, stopped⟩, -⟩ | records
      · cases stopped
      · exact spreads records given }

/-- The steps that a run takes, in order. -/
def stepsOf (o : Order) (s : Scene) : List (NodeStep Scene Value) :=
  match o.outset? s with
  | none => []
  | some b => o.steps (o.task b.parameters) b.payload b.scene

/-- The visits of a run are the records of its steps, one for one and in order, up to a step the input of which cannot
be kept.  So the output of a completed node with an expression is what the expression comes to on the input and the
variables, each as it was before the step; giving it to a variable changes it only where it leads to the variables. -/
theorem conclude_outputs (o : Order) (pending : Run) (clock : Clock) (transport : Http.Transport) :
    ∃ taken, taken <+: o.stepsOf (Scene.start clock transport) ∧
      List.Forall₂ RecordsStep taken (o.conclude pending (Scene.start clock transport)).1.visits := by
  rw [conclude_visits, stepsOf]
  cases begun : o.outset? (Scene.start clock transport) with
  | none =>
      rw [visits_of_no_outset begun]
      exact ⟨[], List.nil_prefix, .nil⟩
  | some b =>
      have none_yet : b.scene.visits = [] := visits_of_outset begun
      obtain ⟨taken, first, records⟩ := walkWith_invariant b.payload b.scene (records_invariant b.parameters)
        (fun _ _ _ => none_yet ▸ .nil) fun _ _ _ => ⟨[], List.suffix_refl _, none_yet ▸ .nil⟩
      rw [carryOut_of_outset begun]
      exact ⟨taken.reverse, List.reverse_suffix.mp (by rwa [List.reverse_reverse]), List.rel_reverse records⟩

/-- A trigger, and behind it a node that makes the variables one of themselves. -/
def remembering : Order where
  workflow :=
    { id := "remembering", version := 1, name := "remembering", errorHandling := .stop
      nodes := [⟨"start", "", .trigger, none⟩, ⟨"keep", "", .transform ⟨.map, "variables", some "x"⟩, none⟩]
      edges := [⟨"1", "start", "keep", none, none⟩] }
  input := .ofFields [("a", .int 1)]
  isTrusted := true
  registry := .empty
  limit := 5
  requestLimit := 0

/-- Variables that become one of themselves are recorded as they are afterwards, not as the expression gave them. -/
theorem conclude_records_changed_output :
    let before := (remembering.stepsOf (Scene.start .start ⟨[], []⟩)).map fun step =>
      (evaluated? step).map fun ran => (ran.1.toOption.map fun r => (ran.2.view r).text)
    let recorded := (remembering.conclude (Run.pending "" "" 1 "" ⟨0⟩) (Scene.start .start ⟨[], []⟩)).1.visits.map fun v =>
      (v.status, v.input.text, v.output.text)
    before = [none, some (some "\x7b'a': 1\x7d")] ∧
      recorded = [(.completed, "\x7b'a': 1\x7d", "\x7b'a': 1\x7d"),
        (.completed, "\x7b'a': 1\x7d", "\x7b'a': 1, 'x': \x7b...\x7d\x7d")] := by
  decide +kernel

end Order

end WorkflowEngine
