import WorkflowEngine.Proofs.Run.Course
import WorkflowEngine.Proofs.Run.Pending
import WorkflowEngine.Proofs.Walk.Invariant
import WorkflowEngine.Proofs.Walk.Termination

/-!
# Where visits come from

A visit is one of those that begin a run, with the input of the run, or it comes from an earlier one that
completed: the node of that one hands its output on to the node of this one, and the output as it was recorded
is the input as it was recorded.  Handlers may change what they are given in place, so this says that neither
the order of the visits nor what goes on between an output and an input can be told from the records.
-/

namespace WorkflowEngine

/-- The nodes that a step of a walk hands its output on to. -/
def Guide.handsOn {σ ε α : Type} (g : Guide σ ε α) (step : NodeStep σ α) : List String :=
  match (g.visit step.node step.input step.before).1 with
  | .onward _ chosen => g.targets step.node chosen
  | _ => []

/-- The nodes of the steps of a walk with those that each hands its output on to. -/
def Guide.hops {σ ε α : Type} (g : Guide σ ε α) (steps : List (NodeStep σ α)) : List (String × List String) :=
  steps.map fun step => (step.node.id, g.handsOn step)

/-- The visit completed, and its node hands its output on to a node that has it as its input. -/
structure Visit.HandsOn (p : Visit) (hop : String × List String) (id : String) (input : Data) : Prop where
  completed : p.status = .completed
  node : hop.1 = p.nodeId
  next : id ∈ hop.2
  input : input = p.output

/-- What is visited in some turn with an input comes from outside, or from an earlier visit. -/
def ComesFrom (given : Data) (hops : List (String × List String)) (visits : List Visit) (turn : Nat) (id : String)
    (input : Data) : Option Nat → Prop
  | none => input = given
  | some j => j < turn ∧ ∃ p hop, visits[j]? = some p ∧ hops[j]? = some hop ∧ p.HandsOn hop id input

/-- The names of those that come from outside. -/
def rootsOf {α : Type} (name : α → String) (xs : List α) (parents : List (Option Nat)) : List String :=
  ((xs.zip parents).filter fun e => e.2.isNone).map fun e => name e.1

/-- Each of the visits comes from the one that is its parent, or from outside if it has none. -/
structure Traced (given : Data) (hops : List (String × List String)) (visits : List Visit) (parents : List (Option Nat)) :
    Prop where
  aligned : parents.length = visits.length
  sources : ∀ i v parent, visits[i]? = some v → parents[i]? = some parent →
    ComesFrom given hops visits i v.nodeId v.input parent

section Traces

variable {given input : Data} {hops more : List (String × List String)} {visits new : List Visit} {i : Nat}
  {id : String} {parent : Option Nat} {parents : List (Option Nat)}

/-- What comes from earlier visits does so when there are more of them. -/
theorem ComesFrom.later (comes : ComesFrom given hops visits i id input parent) {j : Nat} (le : i ≤ j) :
    ComesFrom given (hops ++ more) (visits ++ new) j id input parent := by
  cases parent with
  | none => exact comes
  | some k =>
      obtain ⟨earlier, p, hop, there, known, handed⟩ := comes
      refine ⟨Nat.lt_of_lt_of_le earlier le, p, hop, ?_, ?_, handed⟩
      · rw [List.getElem?_append_left (List.getElem?_eq_some_iff.mp there).1, there]
      · rw [List.getElem?_append_left (List.getElem?_eq_some_iff.mp known).1, known]

/-- Before the first visit there is nothing to trace. -/
theorem Traced.nil : Traced given hops [] [] where
  aligned := rfl
  sources i v parent there := by
    rw [List.getElem?_nil] at there
    cases there

theorem Traced.weaken (traced : Traced given hops visits parents) : Traced given (hops ++ more) visits parents where
  aligned := traced.aligned
  sources i v parent there known := by
    have comes : ComesFrom given (hops ++ more) (visits ++ []) i v.nodeId v.input parent :=
      (traced.sources i v parent there known).later (Nat.le_refl i)
    rwa [List.append_nil] at comes

/-- One visit more, with its parent. -/
theorem Traced.snoc (traced : Traced given hops visits parents) {v : Visit}
    (comes : ComesFrom given hops visits visits.length v.nodeId v.input parent) :
    Traced given (hops ++ more) (visits ++ [v]) (parents ++ [parent]) where
  aligned := by simp [traced.aligned]
  sources i w source there known := by
    rcases Nat.lt_trichotomy i visits.length with less | rfl | beyond
    · rw [List.getElem?_append_left less] at there
      rw [List.getElem?_append_left (traced.aligned ▸ less)] at known
      exact (traced.sources i w source there known).later (Nat.le_refl i)
    · rw [List.getElem?_append_right (Nat.le_refl _), Nat.sub_self] at there
      rw [← traced.aligned, List.getElem?_append_right (Nat.le_refl _), Nat.sub_self] at known
      cases there
      cases known
      exact comes.later (Nat.le_refl _)
    · rw [List.getElem?_eq_none (by simp only [List.length_append, List.length_singleton]; omega)] at there
      cases there

variable {α : Type} {name : α → String}

theorem rootsOf_append {xs ys : List α} {ps qs : List (Option Nat)} (aligned : xs.length = ps.length) :
    rootsOf name (xs ++ ys) (ps ++ qs) = rootsOf name xs ps ++ rootsOf name ys qs := by
  rw [rootsOf, List.zip_append aligned, List.filter_append, List.map_append]
  rfl

/-- What comes from a visit does not come from outside. -/
theorem rootsOf_handed (xs : List α) (j : Nat) : rootsOf name xs (xs.map fun _ => some j) = [] := by
  unfold rootsOf
  rw [List.map_eq_nil_iff, List.filter_eq_nil_iff]
  intro e listed
  obtain ⟨x, -, same⟩ := List.mem_map.mp (List.of_mem_zip listed).2
  simp [← same]

theorem rootsOf_given (xs : List α) : rootsOf name xs (xs.map fun _ => none) = xs.map name := by
  induction xs with
  | nil => rfl
  | cons x rest ih => simpa [rootsOf] using ih

end Traces

namespace Scene

variable {w : Workflow} {task : Node → Value → Act Product} {n : Node} {input : Value} {s t : Scene}
  {p : Passage RunFailure Value}

/-- A visit whose input can be read leaves one record more, with that input and, if the node completes, with the
output as it is then. -/
theorem Visited.record (visited : Visited w task n input s p t) (steady : (task n input).Steady) :
    (∃ f, p = .stopped (.ofFault f) ∧ t = s) ∨
      ∃ v : Visit, t.visits = v :: s.visits ∧ v.nodeId = n.id ∧ v.input = s.heap.view input ∧
        ∀ value chosen, p = .onward value chosen → v.status = .completed ∧ v.output = t.heap.view value := by
  cases visited with
  | unreadable faulty => exact .inl ⟨_, rfl, rfl⟩
  | completed read done =>
      rename_i given value chosen output stage
      have same := complete_visits steady done
      have kept := Act.snapshot_of_complete done
      refine .inr ⟨_, congrArg _ same, rfl, (Data.eq_of_copy read).symm, fun v ids passed => ?_⟩
      cases passed
      exact ⟨rfl, (Data.eq_of_copy kept).symm⟩
  | failed read done =>
      rename_i given message stage
      have same := complete_visits steady done
      obtain ⟨v, visits, id, known, -⟩ := failVisit_visits w n (Visit.begin n given s.now) message stage
      obtain ⟨-, -, ends⟩ := failVisit_heap w n (Visit.begin n given s.now) message stage
      refine .inr ⟨v, visits.trans (congrArg _ same), id, known.trans (Data.eq_of_copy read).symm, fun value ids passed => ?_⟩
      exact absurd passed (ends value ids)

end Scene

namespace Order

variable {o : Order} {parameters : List (String × Value)} {given : Data} {pending rest : List (String × Value)}
  {s t : Scene} {done : List (NodeStep Scene Value)} {parents sources : List (Option Nat)}

/-- What is known about where the visits so far and those that are pending come from. -/
structure Tracked (o : Order) (parameters : List (String × Value)) (given : Data) (pending : List (String × Value))
    (s : Scene) (done : List (NodeStep Scene Value)) (parents sources : List (Option Nat)) : Prop where
  aligned : done.length = s.visits.length
  traced : Traced given ((o.guide (o.task parameters)).hops done.reverse) s.visits.reverse parents
  due : List.Forall₂ (fun e parent => ComesFrom given ((o.guide (o.task parameters)).hops done.reverse) s.visits.reverse
    s.visits.length e.1 (s.heap.view e.2) parent) pending sources
  roots : rootsOf Visit.nodeId s.visits.reverse parents ++ rootsOf Prod.fst pending sources =
    o.workflow.triggers.map Node.id

/-- The visits of a run so far come from outside, in the order of the triggers, or from earlier visits. -/
def Explained (o : Order) (parameters : List (String × Value)) (given : Data)
    (s : Scene × List (NodeStep Scene Value)) : Prop :=
  ∃ parents, Traced given ((o.guide (o.task parameters)).hops s.2.reverse) s.1.visits.reverse parents ∧
    rootsOf Visit.nodeId s.1.visits.reverse parents <+: o.workflow.triggers.map Node.id

theorem Tracked.explained (tracked : o.Tracked parameters given pending s done parents sources) :
    o.Explained parameters given (s, done) :=
  ⟨parents, tracked.traced, _, tracked.roots⟩

theorem hops_cons {g : Guide Scene RunFailure Value} (step : NodeStep Scene Value) :
    g.hops (step :: done).reverse = g.hops done.reverse ++ [(step.node.id, g.handsOn step)] := by
  simp [Guide.hops]

/-- A visit that leaves a record comes from where it was due. -/
theorem Tracked.visit {n : Node} {input : Value} {source : Option Nat} {v : Visit}
    (tracked : o.Tracked parameters given ((n.id, input) :: rest) s done parents (source :: sources))
    (visits : t.visits = v :: s.visits) (id : v.nodeId = n.id) (known : v.input = s.heap.view input)
    (views : ∀ e ∈ rest, t.heap.view e.2 = s.heap.view e.2) :
    o.Tracked parameters given rest t (⟨n, input, s⟩ :: done) (parents ++ [source]) sources := by
  obtain ⟨aligned, traced, due, roots⟩ := tracked
  cases due with
  | cons first others =>
      have reversed : t.visits.reverse = s.visits.reverse ++ [v] := by rw [visits, List.reverse_cons]
      refine ⟨by rw [visits, List.length_cons, List.length_cons, aligned], ?_, ?_, ?_⟩
      · rw [reversed, hops_cons]
        refine traced.snoc ?_
        rw [id, known, List.length_reverse]
        exact first
      · rw [reversed, hops_cons, visits, List.length_cons]
        obtain ⟨length, all⟩ := List.forall₂_iff_zip.mp others
        refine List.forall₂_iff_zip.mpr ⟨length, fun {e parent} listed => ?_⟩
        rw [views e (List.of_mem_zip listed).1]
        exact (all listed).later (Nat.le_succ _)
      · rw [reversed, rootsOf_append traced.aligned.symm, List.append_assoc]
        rw [← roots]
        refine congrArg _ ?_
        cases source with
        | none => simp [rootsOf, id]
        | some j => simp [rootsOf]

/-- An output that is handed on makes the nodes that it is handed on to due. -/
theorem Tracked.handOn {hop : String × List String} {inputs : List (String × Value)} {v : Visit} {j : Nat}
    (tracked : o.Tracked parameters given rest s done parents sources) (there : s.visits.reverse[j]? = some v)
    (known : ((o.guide (o.task parameters)).hops done.reverse)[j]? = some hop)
    (handed : ∀ e ∈ inputs, v.HandsOn hop e.1 (t.heap.view e.2))
    (views : ∀ e ∈ rest, t.heap.view e.2 = s.heap.view e.2) (visits : t.visits = s.visits) :
    o.Tracked parameters given (inputs ++ rest) t done parents (inputs.map (fun _ => some j) ++ sources) where
  aligned := visits ▸ tracked.aligned
  traced := visits ▸ tracked.traced
  due := by
    rw [visits]
    refine List.rel_append ?_ ?_
    · refine List.forall₂_map_right_iff.mpr (List.forall₂_same.mpr fun e listed => ?_)
      have earlier := (List.getElem?_eq_some_iff.mp there).1
      exact ⟨by simpa using earlier, v, hop, there, known, handed e listed⟩
    · obtain ⟨length, all⟩ := List.forall₂_iff_zip.mp tracked.due
      refine List.forall₂_iff_zip.mpr ⟨length, fun {e parent} listed => ?_⟩
      rw [views e (List.of_mem_zip listed).1]
      exact all listed
  roots := by
    rw [visits, rootsOf_append (List.length_map _).symm, rootsOf_handed]
    exact tracked.roots

/-- Where a visit was due and the other inputs wait, it leaves them waiting, and its record comes from where it was
due.  The output that it hands on is the one in the record. -/
theorem Tracked.turn {n : Node} {input : Value} {p : Passage RunFailure Value} (locals : o.registry.IsLocal)
    (tracked : o.Tracked parameters given ((n.id, input) :: rest) s done parents sources)
    (poised : s.Poised parameters ((n.id, input) :: rest))
    (visited : (o.guide (o.task parameters)).visit n input s = (p, t)) :
    (∃ f, p = .stopped (.ofFault f) ∧ t = s) ∨
      ∃ parents sources reserved, o.Tracked parameters given rest t (⟨n, input, s⟩ :: done) parents sources ∧
        t.Settled parameters reserved rest ∧ ∀ value chosen, p = .onward value chosen → Held reserved t.heap value ∧
          ∃ v, t.visits.reverse[s.visits.length]? = some v ∧
            ∀ id ∈ (o.guide (o.task parameters)).targets n chosen,
              v.HandsOn (n.id, (o.guide (o.task parameters)).handsOn ⟨n, input, s⟩) id (t.heap.view value) := by
  obtain ⟨reserved, settled, held⟩ := poised
  have steady : (o.task parameters n input).Steady := Act.steady_perform _ n input
  obtain ⟨later, views, yields⟩ := settled.visit locals held visited
  cases tracked.due with
  | @cons _ source _ sources first others =>
      rcases (Scene.visited_of_visit visited).record steady with stopped | ⟨v, visits, id, known, passed⟩
      · exact .inl stopped
      · refine .inr ⟨_, sources, reserved, tracked.visit visits id known views, later, fun value chosen onward => ?_⟩
        obtain ⟨completed, output⟩ := passed value chosen onward
        refine ⟨yields value chosen onward, v, ?_, fun target listed => ⟨completed, id.symm, ?_, output.symm⟩⟩
        · rw [visits, List.reverse_cons, List.getElem?_append_right (by simp), List.length_reverse, Nat.sub_self]
          rfl
        · rw [Guide.handsOn, visited, onward]
          exact listed

theorem Explained.more {taken : List (NodeStep Scene Value)} (explained : o.Explained parameters given (s, done))
    (visits : t.visits = s.visits) : o.Explained parameters given (t, taken ++ done) := by
  obtain ⟨parents, traced, roots⟩ := explained
  refine ⟨parents, ?_, visits ▸ roots⟩
  rw [show (t, taken ++ done).1.visits = s.visits from visits, Guide.hops, List.reverse_append, List.map_append]
  exact traced.weaken

/-- The same where the steps are kept: a run that is stopped without a further record is explained, and otherwise the
kept steps go on to track the visits. -/
theorem turn_of_recording {id : String} {input : Value} {n : Node} {p : Passage RunFailure Value}
    {s t : Scene × List (NodeStep Scene Value)} (locals : o.registry.IsLocal)
    (holds : (∃ parents sources, o.Tracked parameters given ((id, input) :: rest) s.1 s.2 parents sources) ∧
      s.1.Poised parameters ((id, input) :: rest))
    (found : o.workflow.node? id = some n)
    (visited : (o.guide (o.task parameters)).recording.visit n input s = (p, t)) :
    ((∃ e, p = .stopped e) ∧ o.Explained parameters given t) ∨
      ∃ parents sources reserved, o.Tracked parameters given rest t.1 t.2 parents sources ∧
        t.1.Settled parameters reserved rest ∧ ∀ value chosen, p = .onward value chosen → Held reserved t.1.heap value ∧
          ∃ v, t.1.visits.reverse[s.1.visits.length]? = some v ∧
            ((o.guide (o.task parameters)).hops t.2.reverse)[s.1.visits.length]? =
              some (n.id, (o.guide (o.task parameters)).handsOn ⟨n, input, s.1⟩) ∧
            ∀ id ∈ (o.guide (o.task parameters)).targets n chosen,
              v.HandsOn (n.id, (o.guide (o.task parameters)).handsOn ⟨n, input, s.1⟩) id (t.1.heap.view value) := by
  obtain ⟨⟨parents, sources, tracked⟩, poised⟩ := holds
  obtain ⟨-, rfl⟩ := Workflow.mem_of_node? found
  obtain ⟨ran, taken⟩ := Guide.of_recording_visit visited
  rcases tracked.turn locals poised ran with ⟨f, stopped, same⟩ | ⟨parents, sources, reserved, later, settled, passed⟩
  · refine .inl ⟨⟨_, stopped⟩, ?_⟩
    rw [show t = (t.1, [⟨n, input, s.1⟩] ++ s.2) from Prod.ext rfl taken]
    exact tracked.explained.more (congrArg _ same)
  · refine .inr ⟨parents, sources, reserved, taken ▸ later, settled, fun value chosen onward => ?_⟩
    obtain ⟨held, v, there, handed⟩ := passed value chosen onward
    refine ⟨held, v, there, ?_, handed⟩
    rw [taken, hops_cons, List.getElem?_append_right (by simp [Guide.hops, tracked.aligned])]
    simp [Guide.hops, tracked.aligned]

/-- The turns of the walk of a run keep track of where its visits come from, if the handlers are local. -/
theorem tracked_invariant (locals : o.registry.IsLocal) (parameters : List (String × Value)) (given : Data) :
    (o.guide (o.task parameters)).recording.Invariant
      (fun pending s => (∃ parents sources, o.Tracked parameters given pending s.1 s.2 parents sources) ∧
        s.1.Poised parameters pending)
      (o.Explained parameters given) where
  left := fun ⟨⟨_, _, tracked⟩, _⟩ => tracked.explained
  ended holds found visited := by
    rcases turn_of_recording locals holds found visited with
      ⟨⟨e, stopped⟩, -⟩ | ⟨parents, sources, reserved, tracked, settled, -⟩
    · cases stopped
    · exact ⟨⟨parents, sources, tracked⟩, settled.poised⟩
  stopped holds found visited := by
    rcases turn_of_recording locals holds found visited with ⟨-, explained⟩ | ⟨parents, sources, reserved, tracked, -, -⟩
    · exact explained
    · exact tracked.explained
  refused {id input rest s n output chosen t e u} holds found visited refused := by
    obtain ⟨spread, still⟩ := Guide.of_recording_spread refused
    have visits := Scene.spread_visits output ((o.guide (o.task parameters)).targets n chosen) t.1
    rcases turn_of_recording locals holds found visited with
      ⟨⟨e, stopped⟩, -⟩ | ⟨parents, sources, reserved, tracked, -, -⟩
    · cases stopped
    · rw [show u = (u.1, [] ++ t.2) from Prod.ext rfl still]
      refine tracked.explained.more ?_
      rw [← visits]
      exact congrArg (fun r => r.2.visits) spread.symm
  onward {id input rest s n output chosen t inputs u} holds found visited given := by
    obtain ⟨spread, still⟩ := Guide.of_recording_spread given
    rcases turn_of_recording locals holds found visited with
      ⟨⟨e, stopped⟩, -⟩ | ⟨parents, sources, reserved, tracked, settled, passed⟩
    · cases stopped
    · obtain ⟨held, v, there, known, handed⟩ := passed output chosen rfl
      obtain ⟨poised, names, shown, views, visits⟩ := settled.spread held spread
      refine ⟨⟨parents, inputs.map (fun _ => some s.1.visits.length) ++ sources, ?_⟩, poised⟩
      rw [still]
      refine tracked.handOn there known (fun e listed => ?_) views visits
      rw [shown e listed]
      exact handed e.1 (names ▸ List.mem_map_of_mem listed)

/-- The nodes that a run visits with those that each hands its output on to, in order. -/
def hops (o : Order) (s : Scene) : List (String × List String) :=
  match o.outset? s with
  | none => []
  | some b => (o.guide (o.task b.parameters)).hops (o.steps (o.task b.parameters) b.payload b.scene)

/-- The visits of a run in order. -/
def visitsOf (o : Order) (s : Scene) : List Visit :=
  (o.carryOut s).2.visits.reverse

theorem walk_explained (locals : o.registry.IsLocal) {payload : Value} {reserved : Address → Prop}
    (fresh : s.visits = []) (sound : s.Sound reserved) (supplied : Supplied reserved s.heap parameters)
    (held : Held reserved s.heap payload) :
    ∃ parents, Traced (s.heap.view payload)
        ((o.guide (o.task parameters)).hops (o.steps (o.task parameters) payload s))
        (o.walkWith (o.task parameters) payload s).2.visits.reverse parents ∧
      rootsOf Visit.nodeId (o.walkWith (o.task parameters) payload s).2.visits.reverse parents <+:
        o.workflow.triggers.map Node.id := by
  have final := walkWith_invariant payload s (tracked_invariant locals parameters (s.heap.view payload))
    (fun pending h copied => ?_) fun f h _ => ?_
  · simpa only [Explained, List.reverse_reverse] using final
  · obtain ⟨more, soundMore, waiting, grown, still, made, same, names, views⟩ :=
      Waiting.copies [] [] .nil sound.heap held copied
    obtain rfl : pending = made := same
    have settled : ({ s with heap := h } : Scene).Settled parameters more pending :=
      ⟨⟨soundMore, still _ sound.vars⟩, fun e listed => ⟨(supplied e listed).1, still _ (supplied e listed).2⟩,
        by simpa using waiting⟩
    refine ⟨⟨[], pending.map fun _ => none, by simp [fresh], by simpa [fresh] using Traced.nil, ?_, ?_⟩, settled.poised⟩
    · exact List.forall₂_map_right_iff.mpr (List.forall₂_same.mpr fun e listed => views e listed)
    · rw [rootsOf_given, names]
      simp [rootsOf]
  · refine ⟨[], ?_, ?_⟩
    · change Traced _ _ s.visits.reverse []
      rw [fresh]
      exact .nil
    · change rootsOf Visit.nodeId s.visits.reverse [] <+: _
      rw [fresh]
      exact List.nil_prefix

/-- Every visit of a run with local handlers is one of those to the triggers, in their order and with the input of
the run, or it comes from an earlier visit, whose output is its input. -/
theorem carryOut_traced (o : Order) (locals : o.registry.IsLocal) (clock : Clock) (transport : Http.Transport) :
    ∃ given parents, given.grounded = o.given.grounded ∧
      Traced given (o.hops (Scene.start clock transport)) (o.visitsOf (Scene.start clock transport)) parents ∧
      rootsOf Visit.nodeId (o.visitsOf (Scene.start clock transport)) parents <+: o.workflow.triggers.map Node.id := by
  unfold visitsOf hops
  cases begun : o.outset? (Scene.start clock transport) with
  | none =>
      refine ⟨o.given, [], rfl, ?_, ?_⟩
      · rw [visits_of_no_outset begun]
        exact .nil
      · rw [visits_of_no_outset begun]
        exact List.nil_prefix
  | some b =>
      obtain ⟨scene, payload, parameters, input, visits⟩ := outset_isSound begun
      obtain ⟨parents, traced, roots⟩ :=
        o.walk_explained locals visits scene (supplied_of_supplies parameters) payload
      rw [carryOut_of_outset begun]
      exact ⟨_, parents, input, traced, roots⟩

/-- Two actions side by side that change their input in place are each given what the trigger has put out. -/
theorem carryOut_fork_traced :
    let o : Order := { fork with registry := ⟨[("log", ⟨Sample.mutating, ""⟩)]⟩ }
    o.registry.IsLocal ∧
      ∃ given parents, given.grounded = o.given.grounded ∧
        Traced given (o.hops (Scene.start .start ⟨[], []⟩)) (o.visitsOf (Scene.start .start ⟨[], []⟩)) parents ∧
        rootsOf Visit.nodeId (o.visitsOf (Scene.start .start ⟨[], []⟩)) parents <+: o.workflow.triggers.map Node.id := by
  intro o
  have locals : o.registry.IsLocal := Sample.isLocal_of_mutating "log" ""
  exact ⟨locals, carryOut_traced o locals .start ⟨[], []⟩⟩

end Order

end WorkflowEngine
