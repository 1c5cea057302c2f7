import WorkflowEngine.Proofs.Region.Waiting
import WorkflowEngine.Proofs.Run.Opening

/-!
# What pending inputs show

While a node is visited, the inputs of all the others that are pending wait.  A visit is given the first input,
which may be changed in place, and its output is handed on as it is to a single node and as copies to several.
Either way the inputs behind it show the same data as before, and each that is new shows the output.
-/

namespace WorkflowEngine

variable {reserved : Address → Prop}

/-- An output is kept as it is when the node is done. -/
theorem Act.snapshot_of_complete {task : Node → Value → Act Product} {n : Node} {input : Value} {stage after : Stage}
    {product : Product} {output : Data} (done : (complete task n input).run stage = (.ok (product, output), after)) :
    after.scene.heap.snapshot product.1 = .ok output := by
  rw [run_complete] at done
  dsimp only at done
  split at done
  · split at done
    · cases done
      assumption
    · cases done
  · cases done

theorem Data.eq_of_copy {d e : Data} (copied : d.copy = .ok e) : d = e := by
  unfold Data.copy at copied
  split at copied
  · cases copied
  · exact Except.ok.inj copied

/-- The parameters of actions are free dictionaries. -/
def Supplied (reserved : Address → Prop) (h : Heap) (parameters : List (String × Value)) : Prop :=
  ∀ e ∈ parameters, (∃ a, e.2 = .dict a) ∧ Held reserved h e.2

theorem supplied_of_supplies {h : Heap} {written : List (String × Data)} {loaded : List (String × Value)}
    (supplies : List.Forall₂ (Supplies reserved h) written loaded) : Supplied reserved h loaded := by
  induction supplies with
  | nil => exact fun _ listed => absurd listed List.not_mem_nil
  | cons first _ ih => exact List.forall_mem_cons.mpr ⟨⟨first.dict, first.held⟩, ih⟩

namespace Scene

variable {parameters : List (String × Value)} {s t u : Scene} {rest : List (String × Value)} {id : String}
  {input value : Value}

/-- A scene between two visits, where some values wait: the variables and the parameters are free. -/
structure Settled (parameters : List (String × Value)) (reserved : Address → Prop) (s : Scene)
    (waiting : List (String × Value)) : Prop where
  sound : s.Sound reserved
  supplied : Supplied reserved s.heap parameters
  waiting : Waiting s.heap reserved (waiting.map Prod.snd)

/-- What is pending may be worked on one after the other: the first value is free while the others wait. -/
def Poised (parameters : List (String × Value)) (s : Scene) : List (String × Value) → Prop
  | [] => True
  | (_, input) :: rest => ∃ reserved, s.Settled parameters reserved rest ∧ Held reserved s.heap input

/-- If all that is pending waits then the first of them may have its turn. -/
theorem Settled.poised {pending : List (String × Value)} (settled : s.Settled parameters reserved pending) :
    s.Poised parameters pending := by
  obtain ⟨sound, supplied, waiting⟩ := settled
  cases pending with
  | nil => trivial
  | cons head rest =>
      cases waiting with
      | cons fewer soundOthers held inside enclosed within waiting =>
          refine ⟨_, ⟨⟨soundOthers, Held.fewer fewer sound.vars⟩, fun e listed => ?_, waiting⟩, held⟩
          exact ⟨(supplied e listed).1, Held.fewer fewer (supplied e listed).2⟩

/-- Values wait on while the heap grows. -/
theorem Settled.grown (settled : s.Settled parameters reserved rest) (vars : t.vars = s.vars)
    (grown : s.heap.Grown reserved t.heap) :
    t.Settled parameters reserved rest ∧ ∀ e ∈ rest, t.heap.view e.2 = s.heap.view e.2 := by
  obtain ⟨waiting, views⟩ := settled.waiting.grown grown
  refine ⟨⟨⟨grown.sound, vars ▸ Held.grown settled.sound.vars grown⟩, fun e listed => ?_, waiting⟩, fun e listed => ?_⟩
  · exact ⟨(settled.supplied e listed).1, Held.grown (settled.supplied e listed).2 grown⟩
  · exact views e.2 (List.mem_map_of_mem listed)

theorem Settled.offers (settled : s.Settled parameters reserved rest) (id : String) (v : Value)
    (found : parameters.lookup id = some v) : Offers reserved s.heap v := by
  obtain ⟨front, back, listed, -⟩ := List.lookup_eq_some_iff.mp found
  obtain ⟨⟨a, same⟩, held⟩ := settled.supplied (id, v) (listed ▸ List.mem_append_right _ List.mem_cons_self)
  change v = .dict a at same
  subst same
  exact .inr ⟨a, rfl, settled.sound.heap.entries held.2⟩

theorem failVisit_heap (w : Workflow) (n : Node) (begun : Visit) (message : NodeFailure) (stage : Stage) :
    (failVisit w n begun message stage).2.heap = stage.scene.heap ∧
      (failVisit w n begun message stage).2.vars = stage.scene.vars ∧
      ∀ v chosen, (failVisit w n begun message stage).1 ≠ .onward v chosen := by
  unfold failVisit
  dsimp only
  split
  · exact ⟨rfl, rfl, nofun⟩
  · split
    · exact ⟨rfl, rfl, nofun⟩
    · exact ⟨rfl, rfl, nofun⟩

/-- A visit to a node with a free input spares what is reserved, and its output is free. -/
theorem visit_grown {o : Order} {n : Node} {p : Passage RunFailure Value} (locals : o.registry.IsLocal)
    (sound : s.Sound reserved) (offers : ∀ id v, parameters.lookup id = some v → Offers reserved s.heap v)
    (held : Held reserved s.heap input) (visited : Scene.visit o.workflow (o.task parameters) n input s = (p, t)) :
    t.vars = s.vars ∧ s.heap.Grown reserved t.heap ∧
      ∀ value chosen, p = .onward value chosen → Held reserved t.heap value := by
  have performs : Act.Spares reserved s.vars s.heap (Act.perform ⟨o.workflow, o.registry, o.requestLimit, parameters⟩ n input) :=
    Act.spares_perform locals offers n sound.vars held
  have spares : Act.Spares reserved s.vars s.heap (Act.complete (o.task parameters) n input) := Act.spares_complete performs
  obtain ⟨place, grown, yields⟩ := spares ⟨s, []⟩ rfl rfl sound.heap
  cases visited_of_visit visited with
  | unreadable faulty => exact ⟨rfl, .refl sound.heap, nofun⟩
  | completed read done =>
      rename_i given value chosen output stage
      rw [done] at place grown yields
      refine ⟨place, grown, fun v ids same => ?_⟩
      cases same
      exact (yields _ rfl).1.1
  | failed read done =>
      rename_i given message stage
      rw [done] at place grown
      obtain ⟨heap, vars, ends⟩ := failVisit_heap o.workflow n (Visit.begin n given s.now) message stage
      exact ⟨vars.trans place, heap ▸ grown, fun v ids same => absurd same (ends v ids)⟩

/-- A visit leaves the scene settled and what waits as it is, and its output is free. -/
theorem Settled.visit {o : Order} {n : Node} {p : Passage RunFailure Value} (locals : o.registry.IsLocal)
    (settled : s.Settled parameters reserved rest) (held : Held reserved s.heap input)
    (visited : Scene.visit o.workflow (o.task parameters) n input s = (p, t)) :
    t.Settled parameters reserved rest ∧ (∀ e ∈ rest, t.heap.view e.2 = s.heap.view e.2) ∧
      ∀ value chosen, p = .onward value chosen → Held reserved t.heap value := by
  obtain ⟨vars, grown, yields⟩ := visit_grown locals settled.sound settled.offers held visited
  obtain ⟨later, views⟩ := settled.grown vars grown
  exact ⟨later, views, yields⟩

/-- Handing on a free output spares what is reserved, and the new inputs are free. -/
theorem spread_grown {ids : List String} {r : Except RunFailure (List (String × Value))} (sound : s.heap.Sound reserved)
    (held : Held reserved s.heap value) (given : Scene.spread value ids s = (r, t)) :
    t.vars = s.vars ∧ s.heap.Grown reserved t.heap ∧ ∀ inputs, r = .ok inputs → ∀ e ∈ inputs, Held reserved t.heap e.2 := by
  obtain ⟨grown, all⟩ := grown_copies sound held [] (fun _ listed => absurd listed List.not_mem_nil) ids
  unfold Scene.spread at given
  split at given
  · cases given
    refine ⟨rfl, .refl sound, fun inputs same => ?_⟩
    cases same
    exact List.forall_mem_singleton.mpr held
  · split at given
    · rename_i inputs h made
      rw [made] at grown all
      cases given
      exact ⟨rfl, grown, fun inputs same => by cases same; exact all _ rfl⟩
    · rename_i f h made
      rw [made] at grown
      cases given
      exact ⟨rfl, grown, fun inputs same => by cases same⟩

/-- Copies of a free value wait in front of what waits already, and each shows the same data as the value. -/
theorem Settled.copies {ids : List String} {inputs : List (String × Value)} {h : Heap}
    (settled : s.Settled parameters reserved rest) (held : Held reserved s.heap value)
    (copied : Scene.copies value [] s.heap ids = (.ok inputs, h)) :
    ({ s with heap := h } : Scene).Poised parameters (inputs ++ rest) ∧ inputs.map Prod.fst = ids ∧
      (∀ e ∈ inputs, h.view e.2 = s.heap.view value) ∧ ∀ e ∈ rest, h.view e.2 = s.heap.view e.2 := by
  obtain ⟨more, sound, waiting, grown, still, new, rfl, names, views⟩ :=
    Waiting.copies [] _ settled.waiting settled.sound.heap held copied
  refine ⟨?_, by simpa using names, by simpa using views, ?_⟩
  · refine Settled.poised ⟨⟨sound, still _ settled.sound.vars⟩, fun e listed => ?_, by simpa using waiting⟩
    exact ⟨(settled.supplied e listed).1, still _ (settled.supplied e listed).2⟩
  · exact (settled.grown (t := { s with heap := h }) rfl grown).2

/-- An output that is handed on shows the same data in each of the new inputs. -/
theorem Settled.spread {ids : List String} {inputs : List (String × Value)} (settled : s.Settled parameters reserved rest)
    (held : Held reserved s.heap value) (given : Scene.spread value ids s = (.ok inputs, t)) :
    t.Poised parameters (inputs ++ rest) ∧ inputs.map Prod.fst = ids ∧
      (∀ e ∈ inputs, t.heap.view e.2 = s.heap.view value) ∧ (∀ e ∈ rest, t.heap.view e.2 = s.heap.view e.2) ∧
      t.visits = s.visits := by
  unfold Scene.spread at given
  split at given
  · cases given
    exact ⟨⟨reserved, settled, held⟩, rfl, by simp, fun _ _ => rfl, rfl⟩
  · split at given
    · rename_i h made
      cases given
      obtain ⟨poised, names, shown, views⟩ := settled.copies held made
      exact ⟨poised, names, shown, views, rfl⟩
    · cases given

end Scene

end WorkflowEngine
