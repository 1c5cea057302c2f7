import WorkflowEngine.Proofs.Run.Blame
import WorkflowEngine.Proofs.Walk.Journey

/-!
# How often nodes are visited

A run takes every way through its definition: it visits a node once for each journey that leads to it from a trigger.
What has been visited and what is still to be visited from what is pending add up to the same number all along.
-/

namespace WorkflowEngine

/-- The run counts the visits to a node. -/
def Run.visitCount (r : Run) (id : String) : Nat :=
  r.visits.countP fun v => v.nodeId == id

namespace Workflow

/-- No node chooses between the edges that leave it. -/
def IsUnconditional (w : Workflow) : Prop :=
  ∀ n ∈ w.nodes, n.kind ≠ .condition

instance (w : Workflow) : Decidable w.IsUnconditional :=
  inferInstanceAs (Decidable (∀ n ∈ w.nodes, n.kind ≠ .condition))

end Workflow

/-- A node that does not choose sends its output along all of its edges, unless paths end at it. -/
theorem Act.perform_yields {setting : Setting} {n : Node} (unconditional : n.kind ≠ .condition) (input : Value) :
    (perform setting n input).Yields fun product => product.2 = if n.kind = .ending then some [] else none := by
  unfold perform
  unfold Node.kind at unconditional ⊢
  split
  · rename_i task
    rw [task]
    exact yields_pure rfl
  · rename_i task
    rw [task]
    exact yields_after fun _ => yields_pure rfl
  · rename_i task
    rw [task] at unconditional
    exact absurd rfl unconditional
  · rename_i task
    rw [task]
    exact yields_after fun _ => yields_pure rfl
  · rename_i task
    rw [task]
    exact yields_after fun _ => yields_pure rfl
  · rename_i task
    rw [task]
    exact yields_after fun _ => yields_pure rfl
  · rename_i task
    rw [task]
    exact yields_after fun _ => yields_pure rfl

namespace Order

variable {o : Order} {parameters : List (String × Value)} {pending : List (String × Value)} {s : Scene} {limit : Nat}
  {r : Ending RunFailure × Scene}

/-- A walk only adds to the visits. -/
theorem Unfolds.suffix (unfolds : o.Unfolds parameters limit pending s r) : s.visits <:+ r.2.visits := by
  induction unfolds with
  | exhausted => exact List.suffix_refl _
  | missing absent => exact List.suffix_refl _
  | exceeded found => exact List.suffix_refl _
  | completed found visited given left named status names later ih => exact (left ▸ List.suffix_cons _ _).trans ih
  | passed found visited left policy failed later ih => exact (left ▸ List.suffix_cons _ _).trans ih
  | stopped found visited left failed why =>
      rw [left]
      exact List.suffix_cons _ _

/-- Only a node that fails ends a walk. -/
theorem Unfolds.not_stopped (unfolds : o.Unfolds parameters limit pending s r) (fine : ∀ v ∈ r.2.visits, v.status ≠ .failed)
    (e : RunFailure) : r.1 ≠ .stopped e := by
  induction unfolds with
  | exhausted => exact nofun
  | missing absent => exact nofun
  | exceeded found => exact nofun
  | completed found visited given left named status names later ih => exact ih fine
  | passed found visited left policy failed later ih => exact ih fine
  | stopped found visited left failed why => exact absurd failed (fine _ (left ▸ List.mem_cons_self))

/-- How often a node is still to be visited from what is pending. -/
def dueVisits (o : Order) (pending : List (String × Value)) (goal : String) : Nat :=
  ((pending.map Prod.fst).map (o.workflow.ways goal)).sum

/-- A node that completes hands on what is due behind it. -/
theorem dueVisits_completed (sound : o.workflow.Sound) (unconditional : o.workflow.IsUnconditional) {n : Node}
    {input value : Value} {rest inputs : List (String × Value)} {chosen : Option (List String)} {t : Scene}
    (found : o.workflow.node? n.id = some n)
    (visited : Scene.visit o.workflow (o.task parameters) n input s = (.onward value chosen, t))
    (names : inputs.map Prod.fst = chosen.getD (o.workflow.successors n.id)) (goal : String) :
    o.dueVisits ((n.id, input) :: rest) goal = (if n.id = goal then 1 else 0) + o.dueVisits (inputs ++ rest) goal := by
  have member := (Workflow.mem_of_node? found).1
  have known : n.id ∈ o.workflow.vertices :=
    List.mem_eraseDups.mpr (List.mem_append_left _ (List.mem_map_of_mem member))
  have ends : o.workflow.endsAt n.id = (n.kind == .ending) := by rw [Workflow.endsAt, found, Option.any_some]
  have choice := Scene.visit_yields (P := fun chosen => chosen = if n.kind = .ending then some [] else none)
    (Act.perform_yields (unconditional n member) input) visited
  have behind : inputs.map Prod.fst = if o.workflow.endsAt n.id then [] else o.workflow.successors n.id := by
    rw [names, choice, ends]
    by_cases last : n.kind = .ending <;> simp [last]
  rw [dueVisits, List.map_cons, List.map_cons, List.sum_cons, Workflow.ways_eq sound.acyclic known, ← behind, dueVisits,
    List.map_append, List.map_append, List.sum_append, Nat.add_assoc]

/-- In a walk that ends because nothing is left, and in which no node fails, the visits to a node are those that were
there and those that were due. -/
theorem Unfolds.count (unfolds : o.Unfolds parameters limit pending s r) (sound : o.workflow.Sound)
    (unconditional : o.workflow.IsUnconditional) (fine : ∀ v ∈ r.2.visits, v.status ≠ .failed) (done : r.1 = .exhausted)
    (goal : String) :
    r.2.visits.countP (fun v => v.nodeId == goal) =
      s.visits.countP (fun v => v.nodeId == goal) + o.dueVisits pending goal := by
  induction unfolds with
  | exhausted => rfl
  | missing absent => cases done
  | exceeded found => cases done
  | @completed _ _ _ _ _ _ _ _ _ n v _ _ found visited given left named status names later ih =>
      obtain ⟨-, rfl⟩ := Workflow.mem_of_node? found
      rw [ih fine done, left, List.countP_cons, named, dueVisits_completed sound unconditional found visited names goal]
      by_cases same : n.id = goal <;> simp [same, Nat.add_assoc, Nat.add_comm, Nat.add_left_comm]
  | passed found visited left policy failed later ih =>
      have listed := later.suffix.subset (left ▸ List.mem_cons_self)
      exact absurd failed (fine _ listed)
  | stopped found visited left failed why => cases done

/-- A run of a valid definition without conditions, whose input is accepted, in which no node fails, and which does not
exceed its limit, visits each node as often as there are journeys to it. -/
theorem conclude_census (o : Order) {report : Report} (checked : o.workflow.validate = .ok report)
    (valid : report.valid = true) (unconditional : o.workflow.IsUnconditional) (locals : o.registry.IsLocal)
    (pending : Run) (clock : Clock) (transport : Http.Transport) {payload : Value} {t : Scene}
    (accepted : (Scene.start clock transport).prepare o.input = (.ok payload, t))
    (fine : ∀ v ∈ (o.conclude pending (Scene.start clock transport)).1.visits, v.status ≠ .failed)
    (within : ¬ (o.conclude pending (Scene.start clock transport)).1.HasExceeded o.limit) (goal : String) :
    (o.workflow.journeys goal).Finite ∧
      (o.conclude pending (Scene.start clock transport)).1.visitCount goal = (o.workflow.journeys goal).ncard := by
  have sound := Workflow.sound_of_valid checked valid
  obtain ⟨b, begun⟩ := outset?_of_prepared checked valid accepted
  obtain ⟨given, s, names, fresh, unfolds⟩ := unfolds_walkWith locals begun
  have ended := carryOut_eq_of_outset begun
  have known (lost : String) : (o.walkWith (o.task b.parameters) b.payload b.scene).1 ≠ .missing lost :=
    walkWith_ne_missing sound (Act.perform_routes _) lost
  obtain ⟨finite, count⟩ := Workflow.ncard_journeys sound.acyclic goal
  refine ⟨finite, ?_⟩
  rw [conclude_visits, ended] at fine
  have still : ∀ v ∈ (o.walkWith (o.task b.parameters) b.payload b.scene).2.visits, v.status ≠ .failed :=
    fun v listed => fine v (List.mem_reverse.mpr listed)
  have exhausted : (o.walkWith (o.task b.parameters) b.payload b.scene).1 = .exhausted := by
    cases ending : (o.walkWith (o.task b.parameters) b.payload b.scene).1 with
    | exhausted => rfl
    | missing lost => exact absurd ending (known lost)
    | exceeded =>
        rw [ending] at ended
        exact absurd (hasExceeded_of_carryOut ended pending) within
    | stopped e => exact absurd ending (unfolds.not_stopped still e)
  have due : o.dueVisits given goal = (o.workflow.triggers.map fun n => o.workflow.ways goal n.id).sum := by
    rw [dueVisits, names, List.map_map]
    rfl
  have all := unfolds.count sound unconditional still exhausted goal
  rw [fresh, List.countP_nil, Nat.zero_add, due, ← count] at all
  rw [Run.visitCount, conclude_visits, ended, List.countP_reverse, all]

/-- Two triggers, one of them behind the other, an end that two edges lead to, and a node behind the end. -/
def crossing : Order where
  workflow :=
    { id := "crossing", version := 1, name := "crossing", errorHandling := .stop
      nodes := [⟨"start", "", .trigger, none⟩, ⟨"again", "", .trigger, none⟩, ⟨"join", "", .ending, none⟩, ⟨"after", "", .ending, none⟩]
      edges :=
        [⟨"1", "start", "again", none, none⟩, ⟨"2", "again", "join", none, none⟩, ⟨"3", "again", "join", none, none⟩,
         ⟨"4", "join", "after", none, none⟩] }
  input := .null
  isTrusted := false
  registry := .empty
  limit := 7
  requestLimit := 0

theorem validate_crossing : ∃ report, crossing.workflow.validate = .ok report ∧ report.valid = true :=
  ⟨_, rfl, by decide +kernel⟩

/-- The end is visited four times: from both triggers along both edges.  The node behind it is not visited. -/
theorem conclude_census_crossing :
    let r := (crossing.conclude (Run.pending "run" "crossing" 1 "system" Clock.start.now) (Scene.start .start ⟨[], []⟩)).1
    (∃ report, crossing.workflow.validate = .ok report ∧ report.valid = true) ∧ crossing.workflow.IsUnconditional ∧
      crossing.registry.IsLocal ∧ (∀ v ∈ r.visits, v.status ≠ .failed) ∧ ¬ r.HasExceeded crossing.limit ∧
      r.visitCount "join" = 4 ∧ (crossing.workflow.journeys "join").ncard = 4 ∧
      (crossing.workflow.journeys "after").ncard = 0 := by
  intro r
  obtain ⟨report, checked, valid⟩ := validate_crossing
  have unconditional : crossing.workflow.IsUnconditional := by decide +kernel
  have locals : crossing.registry.IsLocal := fun _ listed => absurd listed List.not_mem_nil
  have completed : r.status = .completed := by decide +kernel
  have within : ¬ r.HasExceeded crossing.limit := fun exceeded => nomatch completed.symm.trans exceeded.failed
  have fine : ∀ v ∈ r.visits, v.status ≠ .failed := by decide +kernel
  have joined : r.visitCount "join" = 4 := by decide +kernel
  have none : r.visitCount "after" = 0 := by decide +kernel
  rcases prepared : (Scene.start .start ⟨[], []⟩).prepare crossing.input with ⟨outcome, t⟩
  cases outcome with
  | error e => cases prepared
  | ok payload =>
      have census := conclude_census crossing checked valid unconditional locals
        (Run.pending "run" "crossing" 1 "system" Clock.start.now) .start ⟨[], []⟩ prepared fine within
      refine ⟨⟨report, checked, valid⟩, unconditional, locals, fine, within, joined, ?_, ?_⟩
      · exact (census "join").2.symm.trans joined
      · exact (census "after").2.symm.trans none

/-- With an input that is refused no node is visited, though nodes have not failed and the limit is not exceeded. -/
theorem conclude_locked_crossing :
    let o := { crossing with input := .dict [(.str "lock", .lock)] }
    let r := (o.conclude (Run.pending "run" "crossing" 1 "system" Clock.start.now) (Scene.start .start ⟨[], []⟩)).1
    (∃ report, o.workflow.validate = .ok report ∧ report.valid = true) ∧ o.workflow.IsUnconditional ∧
      (∀ v ∈ r.visits, v.status ≠ .failed) ∧ ¬ r.HasExceeded o.limit ∧ r.visitCount "start" = 0 ∧
      (o.workflow.journeys "start").ncard = 1 := by
  intro o r
  obtain ⟨report, checked, valid⟩ := validate_crossing
  have unconditional : o.workflow.IsUnconditional := by decide +kernel
  have ways : (o.workflow.triggers.map fun n => o.workflow.ways "start" n.id).sum = 1 := by decide +kernel
  rcases prepared : (Scene.start .start ⟨[], []⟩).prepare o.input with ⟨outcome, t⟩
  cases outcome with
  | ok payload => cases prepared
  | error e =>
      obtain ⟨none, -, within, -⟩ :=
        conclude_refused prepared rfl (Run.pending "run" "crossing" 1 "system" Clock.start.now)
      have none : r.visits = [] := none
      refine ⟨⟨report, checked, valid⟩, unconditional, ?_, within _, ?_, ?_⟩
      · rw [none]
        exact fun _ listed => absurd listed List.not_mem_nil
      · rw [Run.visitCount, none]
        rfl
      · rw [(Workflow.ncard_journeys (Workflow.sound_of_valid checked valid).acyclic "start").2]
        exact ways

end Order

end WorkflowEngine
