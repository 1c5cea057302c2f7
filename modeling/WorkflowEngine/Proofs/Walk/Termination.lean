import Mathlib
import WorkflowEngine.Proofs.Cycle.Workflow
import WorkflowEngine.Proofs.Validation.Findings
import WorkflowEngine.Proofs.Walk.Route

/-!
# Runs of valid definitions

A run of a valid definition finds a trigger and every node that it comes to.  It visits no more nodes than
there are paths from the triggers, so with a limit that is not below their number it ends on its own,
whatever the nodes do.
-/

/-!
## Bounds on walks

A node may be visited once for every path that leads to it, so what is pending weighs as much as the paths
that begin there.  Where every node outweighs its successors, each visit takes at least one from the weight
of what is pending, and a limit that is not below this weight is never hit.
-/

namespace WorkflowEngine.Guide

variable {σ ε α : Type} {g : Guide σ ε α}

/-- Visits choose among the nodes that the edges lead to, and every node that an output goes to gets one
input. -/
structure FollowsEdges (g : Guide σ ε α) : Prop where
  choice : ∀ {n input s output chosen t},
    g.visit n input s = (.onward output chosen, t) → g.workflow.Offers n chosen
  spread : ∀ {output ids s inputs t}, g.spread output ids s = (.ok inputs, t) → inputs.map Prod.fst = ids

/-- What a walk that follows the edges still has before it. -/
def weight (cost : String → Nat) (pending : List (String × α)) : Nat :=
  (pending.map fun entry => cost entry.1).sum

theorem weight_cons (cost : String → Nat) (entry : String × α) (rest : List (String × α)) :
    weight cost (entry :: rest) = cost entry.1 + weight cost rest := by
  unfold weight
  rw [List.map_cons, List.sum_cons]

theorem weight_append (cost : String → Nat) (first second : List (String × α)) :
    weight cost (first ++ second) = weight cost first + weight cost second := by
  unfold weight
  rw [List.map_append, List.sum_append_nat]

variable {n : Node} {s t u : σ} {input output : α} {chosen : Option (List String)} {inputs : List (String × α)}

/-- The nodes that come after a node are among those that its edges lead to. -/
theorem FollowsEdges.sublist (follows : g.FollowsEdges) (visited : g.visit n input s = (.onward output chosen, t))
    (given : g.spread output (g.targets n chosen) t = (.ok inputs, u)) :
    (inputs.map Prod.fst).Sublist (g.workflow.successors n.id) := by
  rw [follows.spread given]
  exact follows.choice visited

/-- A walk along edges that join nodes never comes to a node that is not there. -/
theorem FollowsEdges.walk_ne_missing (follows : g.FollowsEdges)
    (connected : ∀ v, ∀ v' ∈ g.workflow.successors v, v' ∈ g.workflow.nodeIds) {limit : Nat}
    {pending : List (String × α)} (known : ∀ entry ∈ pending, entry.1 ∈ g.workflow.nodeIds) (lost : String) :
    (g.walk limit pending s).1 ≠ .missing lost := by
  induction limit, pending, s using walk.induct g with
  | case1 limit s =>
      rw [walk_nil]
      exact nofun
  | case2 limit s id input rest absent =>
      exact absurd (known (id, input) List.mem_cons_self) (Workflow.node?_eq_none_iff.mp absent)
  | case3 s id input rest n found =>
      rw [walk_exceeded found]
      exact nofun
  | case4 s id input rest n found limit t visited ih =>
      rw [walk_ended found visited]
      exact ih fun entry listed => known entry (List.mem_cons_of_mem _ listed)
  | case5 s id input rest n found limit e t visited =>
      rw [walk_stopped found visited]
      exact nofun
  | case6 s id input rest n found limit output chosen t visited e u given =>
      rw [walk_onward_error found visited given]
      exact nofun
  | case7 s id input rest n found limit output chosen t visited inputs u given ih =>
      rw [walk_onward_ok found visited given]
      refine ih fun entry listed => ?_
      rcases List.mem_append.mp listed with fresh | waiting
      · exact connected n.id _ ((follows.sublist visited given).subset (List.mem_map_of_mem fresh))
      · exact known entry (List.mem_cons_of_mem _ waiting)

/-- A walk along edges never exceeds a limit that what is pending does not outweigh. -/
theorem FollowsEdges.walk_ne_exceeded (follows : g.FollowsEdges) {cost : String → Nat}
    (covers : ∀ n ∈ g.workflow.nodes, 1 + ((g.workflow.successors n.id).map cost).sum ≤ cost n.id) {limit : Nat}
    {pending : List (String × α)} (enough : weight cost pending ≤ limit) :
    (g.walk limit pending s).1 ≠ .exceeded := by
  -- The visited node takes its own weight away, and brings in no more than that less one.
  induction limit, pending, s using walk.induct g with
  | case1 limit s =>
      rw [walk_nil]
      exact nofun
  | case2 limit s id input rest absent =>
      rw [walk_missing absent]
      exact nofun
  | case3 s id input rest n found =>
      obtain ⟨member, rfl⟩ := Workflow.mem_of_node? found
      have heavy := covers n member
      rw [weight_cons] at enough
      dsimp only at enough
      omega
  | case4 s id input rest n found limit t visited ih =>
      obtain ⟨member, rfl⟩ := Workflow.mem_of_node? found
      have heavy := covers n member
      rw [walk_ended found visited]
      apply ih
      rw [weight_cons] at enough
      dsimp only at enough
      omega
  | case5 s id input rest n found limit e t visited =>
      rw [walk_stopped found visited]
      exact nofun
  | case6 s id input rest n found limit output chosen t visited e u given =>
      rw [walk_onward_error found visited given]
      exact nofun
  | case7 s id input rest n found limit output chosen t visited inputs u given ih =>
      obtain ⟨member, rfl⟩ := Workflow.mem_of_node? found
      have heavy := covers n member
      have light : weight cost inputs ≤ ((g.workflow.successors n.id).map cost).sum := by
        have fewer := ((follows.sublist visited given).map cost).sum_le_sum fun _ _ => Nat.zero_le _
        rw [List.map_map] at fewer
        exact fewer
      rw [walk_onward_ok found visited given]
      apply ih
      rw [weight_append]
      rw [weight_cons] at enough
      dsimp only at enough
      omega

end WorkflowEngine.Guide

/-! ## Runs of valid definitions -/

namespace WorkflowEngine

namespace Workflow.Sound

variable {w : Workflow}

/-- Edges lead to nodes. -/
theorem successor_known (sound : w.Sound) (v : String) : ∀ v' ∈ w.successors v, v' ∈ w.nodeIds := by
  intro v' edge
  obtain ⟨e, listed, rfl, rfl⟩ := mem_successors_iff.mp edge
  exact (sound.connected e listed).2

/-- Every node outweighs its successors by the path that goes no further. -/
theorem paths_cover (sound : w.Sound) (n : Node) (member : n ∈ w.nodes) :
    1 + ((w.successors n.id).map w.paths).sum ≤ w.paths n.id := by
  have vertex : n.id ∈ w.vertices :=
    List.mem_eraseDups.mpr (List.mem_append_left _ (List.mem_map_of_mem member))
  exact Nat.le_of_eq (paths_eq sound.acyclic vertex).symm

end Workflow.Sound

namespace Order

variable {o : Order} {task : Node → Value → Act Product} {payload : Value} {s : Scene}

/-- The walk of a run follows the edges if the tasks do. -/
theorem guide_followsEdges (routes : o.workflow.Routes task) : (o.guide task).FollowsEdges where
  choice := Scene.visit_offers routes
  spread := Scene.spread_ids

/-- The walk never comes to a node that is not there. -/
theorem walkWith_ne_missing (sound : o.workflow.Sound) (routes : o.workflow.Routes task) (lost : String) :
    (o.walkWith task payload s).1 ≠ .missing lost := by
  unfold walkWith
  split
  · exact nofun
  · rename_i pending h given
    refine (guide_followsEdges routes).walk_ne_missing sound.successor_known ?_ lost
    intro entry listed
    have started : entry.1 ∈ o.workflow.triggers.map Node.id := by
      rw [← Scene.copies_ids given]
      exact List.mem_map_of_mem listed
    obtain ⟨n, trigger, same⟩ := List.mem_map.mp started
    exact List.mem_map.mpr ⟨n, List.mem_of_mem_filter trigger, same⟩

/-- The walk never exceeds a limit that is not below the number of paths. -/
theorem walkWith_ne_exceeded (sound : o.workflow.Sound) (routes : o.workflow.Routes task)
    (enough : o.workflow.pathBound ≤ o.limit) : (o.walkWith task payload s).1 ≠ .exceeded := by
  unfold walkWith
  split
  · exact nofun
  · rename_i pending h given
    refine (guide_followsEdges routes).walk_ne_exceeded sound.paths_cover ?_
    have same : Guide.weight o.workflow.paths pending = o.workflow.pathBound := by
      have ids := congrArg (fun ids => (ids.map o.workflow.paths).sum) (Scene.copies_ids given)
      simpa [Guide.weight, Workflow.pathBound, List.map_map, Function.comp_def] using ids
    omega

/-- A walk with such a limit ends because nothing is left to visit, or because a visit ends it. -/
theorem walkWith_ending (sound : o.workflow.Sound) (routes : o.workflow.Routes task)
    (enough : o.workflow.pathBound ≤ o.limit) :
    (o.walkWith task payload s).1 = .exhausted ∨ ∃ e, (o.walkWith task payload s).1 = .stopped e := by
  have known (id : String) : (o.walkWith task payload s).1 ≠ .missing id := walkWith_ne_missing sound routes id
  have within : (o.walkWith task payload s).1 ≠ .exceeded := walkWith_ne_exceeded sound routes enough
  cases ended : (o.walkWith task payload s).1 with
  | exhausted => exact .inl rfl
  | missing id => exact absurd ended (known id)
  | exceeded => exact absurd ended within
  | stopped e => exact .inr ⟨e, rfl⟩

/-- A run of a sound definition with a valid report comes to its walk. -/
theorem proceed_of_sound {r : Report} (sound : o.workflow.Sound) (reported : o.report = .ok r)
    (valid : r.valid = true) :
    let ended := o.walk payload (o.opening r (s.note .info "Validating workflow structure"))
    o.proceed payload s = (o.outcome ended.1, ended.2) := by
  have triggered : o.workflow.triggers.isEmpty = false := by
    simpa using sound.triggered
  unfold proceed
  simp only [reported, valid, triggered, Bool.not_true, Bool.false_eq_true, if_false]

/-- The report that a run relies on is valid if that of the check is. -/
theorem report_of_valid {r : Report} (checked : o.workflow.validate = .ok r) (valid : r.valid = true) :
    ∃ report, o.report = .ok report ∧ report.valid = true := by
  unfold report
  split
  · exact ⟨_, rfl, rfl⟩
  · exact ⟨r, checked, valid⟩

/-- A run of a definition with a valid report finds a trigger and comes to its walk.  The walk never misses a
node, and with a limit that is not below the number of paths from the triggers it is never cut off.  This is
so for the tasks of all kinds of nodes, and for whatever else nodes do as long as their outputs follow the
edges. -/
theorem proceed_of_valid (o : Order) (r : Report) (checked : o.workflow.validate = .ok r) (valid : r.valid = true) :
    (∀ payload s, ∃ start ending last,
      o.walk payload start = (ending, last) ∧ o.proceed payload s = (o.outcome ending, last) ∧
      (∀ id, ending ≠ .missing id) ∧
      (o.workflow.pathBound ≤ o.limit → ending = .exhausted ∨ ∃ e, ending = .stopped e)) ∧
    ∀ task, o.workflow.Routes task → ∀ payload s,
      (∀ id, (o.walkWith task payload s).1 ≠ .missing id) ∧
      (o.workflow.pathBound ≤ o.limit →
        (o.walkWith task payload s).1 = .exhausted ∨ ∃ e, (o.walkWith task payload s).1 = .stopped e) := by
  have sound := Workflow.sound_of_valid checked valid
  obtain ⟨report, reported, good⟩ := report_of_valid checked valid
  constructor
  · intro payload s
    have routes (parameters : List (String × Value)) : o.workflow.Routes (o.task parameters) :=
      Act.perform_routes _
    refine ⟨o.opening report (s.note .info "Validating workflow structure"), _, _, rfl,
      proceed_of_sound sound reported good, ?_, ?_⟩
    · exact walkWith_ne_missing sound (routes _)
    · exact walkWith_ending sound (routes _)
  · intro task routes payload s
    exact ⟨walkWith_ne_missing sound routes, walkWith_ending sound routes⟩

/-- A trigger, two actions side by side, and an end that both lead to. -/
def fork : Order where
  workflow :=
    { id := "fork", version := 1, name := "fork", errorHandling := .stop
      nodes :=
        [⟨"start", "", .trigger, none⟩, ⟨"left", "", .action ⟨"log", [], none⟩, none⟩, ⟨"right", "", .action ⟨"log", [], none⟩, none⟩,
         ⟨"join", "", .ending, none⟩]
      edges :=
        [⟨"1", "start", "left", none, none⟩, ⟨"2", "start", "right", none, none⟩,
         ⟨"3", "left", "join", none, none⟩, ⟨"4", "right", "join", none, none⟩] }
  input := .null
  isTrusted := false
  registry := .empty
  limit := 5
  requestLimit := 0

/-- The end of the fork counts twice, and a limit of five visits is enough. -/
theorem proceed_fork :
    fork.workflow.validate = .ok (.of [] []) ∧ fork.workflow.pathBound = 5 ∧
      ∀ payload s, ∃ start ending last,
        fork.walk payload start = (ending, last) ∧ fork.proceed payload s = (fork.outcome ending, last) ∧
        (ending = .exhausted ∨ ∃ e, ending = .stopped e) := by
  have checked : fork.workflow.validate = .ok (.of [] []) := by cbv
  have count : fork.workflow.pathBound = 5 := by decide
  refine ⟨checked, count, ?_⟩
  intro payload s
  obtain ⟨start, ending, last, walked, went, -, ends⟩ := (proceed_of_valid fork (.of [] []) checked rfl).1 payload s
  exact ⟨start, ending, last, walked, went, ends (by decide)⟩

end Order

end WorkflowEngine
