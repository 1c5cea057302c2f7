import WorkflowEngine.Proofs.Relocation.Visit
import WorkflowEngine.Proofs.Run.Ready
import WorkflowEngine.Proofs.Walk.Journey

/-!
# Walks on moved heaps

Two definitions that look the same from their triggers are walked alike.  From scenes that belong together, with moved
inputs and moved parameters for every node within reach, each turn of one walk is followed by the same turn of the other:
it visits the same node, leaves a record with other marks, and hands a moved output on to the same nodes.
-/

namespace WorkflowEngine

variable {r : Relocation}

instance {ε : Type} [Movable ε] : Movable (Ending ε) where
  moved r
    | .exhausted => .exhausted
    | .missing id => .missing id
    | .exceeded => .exceeded
    | .stopped e => .stopped (r.move e)

namespace Order

variable {o : Order} {w' : Workflow} {parameters parameters' : List (String × Value)} {n : Node} {id : String}
  {input payload : Value} {rest pending : List (String × Value)} {s s' : Scene}

/-- A node within reach finds the same in both definitions. -/
theorem setting_moves (same : o.workflow.SameReach w') (reached : o.workflow.Reached n.id)
    (found : o.workflow.node? n.id = some n) (moved : parameters'.lookup n.id = r.move (parameters.lookup n.id)) :
    Setting.Moves r n ⟨o.workflow, o.registry, o.requestLimit, parameters⟩ ⟨w', o.registry, o.requestLimit, parameters'⟩ where
  registry := rfl
  requestLimit := rfl
  outgoing onward := by
    refine same.edges n.id reached ?_
    rw [Workflow.endsAt, found, Option.any_some]
    exact beq_eq_false_iff_ne.mpr onward
  parameters := moved

/-- A moved output is handed on to the same nodes of both definitions. -/
theorem moves_handing {task : Node → Value → Act Product} {reserved : Address → Prop} {output : Value}
    {chosen : Option (List String)} {result : Except RunFailure (List (String × Value))} {u : Scene}
    (same : o.workflow.SameReach w') (reached : o.workflow.Reached n.id) (found : o.workflow.node? n.id = some n)
    (ends : n.kind = .ending → chosen = some []) (moves : s.Moves r s') (sound : s.heap.Sound reserved)
    (held : Held reserved s.heap output) (given : Scene.spread output ((o.guide task).targets n chosen) s = (result, u)) :
    ∃ u', Scene.spread (r.move output) (chosen.getD (w'.successors n.id)) s' = (r.move result, u') ∧ u.Moves r u' := by
  have targets : chosen.getD (w'.successors n.id) = (o.guide task).targets n chosen := by
    cases chosen with
    | some ids => rfl
    | none =>
        have onward : o.workflow.endsAt n.id = false := by
          rw [Workflow.endsAt, found, Option.any_some]
          exact beq_eq_false_iff_ne.mpr fun last => by cases ends last
        exact congrArg (List.map Edge.target) (same.edges n.id reached onward)
  obtain ⟨handed, later⟩ := Scene.moves_spread moves sound held ((o.guide task).targets n chosen)
  rw [given] at handed later
  rw [targets]
  exact ⟨_, Prod.ext handed rfl, later⟩

/-- A visit within reach is followed by a visit to the same node, and then the rest may have its turn. -/
theorem moves_turn (locals : o.registry.IsLocal) (blind : o.registry.IsBlind) (same : o.workflow.SameReach w')
    (moved : ∀ id, o.workflow.Reached id → parameters'.lookup id = r.move (parameters.lookup id))
    {p : Passage RunFailure Value} {t : Scene} (moves : s.Moves r s') (poised : s.Poised parameters ((id, input) :: rest))
    (reached : o.workflow.Reached id) (found : o.workflow.node? id = some n)
    (visited : Scene.visit o.workflow (o.task parameters) n input s = (p, t)) :
    ∃ t' reserved, w'.node? id = some n ∧
      Scene.visit w' (task { o with workflow := w' } parameters') n (r.move input) s' = (r.move p, t') ∧ t.Moves r t' ∧
      t.Settled parameters reserved rest ∧ ∀ value chosen, p = .onward value chosen → Held reserved t.heap value := by
  obtain ⟨-, rfl⟩ := Workflow.mem_of_node? found
  obtain ⟨reserved, settled, held⟩ := poised
  obtain ⟨later, -, yields⟩ := settled.visit locals held visited
  have follows : Act.FollowsFrom r s.heap (o.task parameters n input)
      (task { o with workflow := w' } parameters' n (r.move input)) :=
    Act.followsFrom_perform (setting_moves same reached found (moved n.id reached)) blind settled.sound.heap
      (settled.offers n.id) held
  obtain ⟨passage, scenes⟩ := Scene.moves_visit moves same.settings follows
  rw [visited] at passage scenes
  exact ⟨_, reserved, (same.nodes n.id reached).trans found, Prod.ext passage rfl, scenes, later, yields⟩

/-- The walk of a definition is followed by that of one that looks the same from its triggers. -/
theorem moves_walk (locals : o.registry.IsLocal) (blind : o.registry.IsBlind) (same : o.workflow.SameReach w')
    (moved : ∀ id, o.workflow.Reached id → parameters'.lookup id = r.move (parameters.lookup id)) {limit : Nat}
    (moves : s.Moves r s') (poised : s.Poised parameters pending) (within : ∀ e ∈ pending, o.workflow.Reached e.1) :
    let walked := (o.guide (o.task parameters)).walk limit pending s
    let walked' := (guide { o with workflow := w' } (task { o with workflow := w' } parameters')).walk limit (r.move pending) s'
    walked'.1 = r.move walked.1 ∧ walked.2.Moves r walked'.2 := by
  dsimp only
  induction limit, pending, s using Guide.walk.induct (o.guide (o.task parameters)) generalizing s' with
  | case1 limit s =>
      rw [r.move_nil, Guide.walk_nil, Guide.walk_nil]
      exact ⟨rfl, moves⟩
  | case2 limit s id input rest absent =>
      have absent' : w'.node? id = none := (same.nodes id (within _ List.mem_cons_self)).trans absent
      rw [r.move_cons, r.move_pair, Guide.walk_missing absent, Guide.walk_missing absent']
      exact ⟨rfl, moves⟩
  | case3 s id input rest n found =>
      have found' : w'.node? id = some n := (same.nodes id (within _ List.mem_cons_self)).trans found
      rw [r.move_cons, r.move_pair, Guide.walk_exceeded found, Guide.walk_exceeded found']
      exact ⟨rfl, moves⟩
  | case4 s id input rest n found limit t visited ih =>
      obtain ⟨reached, others⟩ := List.forall_mem_cons.mp within
      obtain ⟨t', reserved, found', visited', later, settled, -⟩ := moves_turn locals blind same moved moves poised reached found visited
      rw [r.move_cons, r.move_pair, Guide.walk_ended found visited, Guide.walk_ended found' visited']
      exact ih later settled.poised others
  | case5 s id input rest n found limit e t visited =>
      obtain ⟨t', reserved, found', visited', later, -, -⟩ :=
        moves_turn locals blind same moved moves poised (within _ List.mem_cons_self) found visited
      rw [r.move_cons, r.move_pair, Guide.walk_stopped found visited, Guide.walk_stopped found' visited']
      exact ⟨rfl, later⟩
  | case6 s id input rest n found limit output chosen t visited e u given =>
      obtain ⟨reached, -⟩ := List.forall_mem_cons.mp within
      obtain ⟨t', reserved, found', visited', later, settled, yields⟩ :=
        moves_turn locals blind same moved moves poised reached found visited
      obtain ⟨-, rfl⟩ := Workflow.mem_of_node? found
      obtain ⟨ends, -⟩ := Act.reached_of_perform found reached visited
      obtain ⟨u', given', last⟩ := moves_handing same reached found ends later settled.sound.heap (yields _ _ rfl) given
      rw [r.move_cons, r.move_pair, Guide.walk_onward_error found visited given,
        Guide.walk_onward_error found' visited' given']
      exact ⟨rfl, last⟩
  | case7 s id input rest n found limit output chosen t visited inputs u given ih =>
      obtain ⟨reached, others⟩ := List.forall_mem_cons.mp within
      obtain ⟨t', reserved, found', visited', later, settled, yields⟩ :=
        moves_turn locals blind same moved moves poised reached found visited
      obtain ⟨-, rfl⟩ := Workflow.mem_of_node? found
      obtain ⟨ends, next⟩ := Act.reached_of_perform found reached visited
      have held := yields _ _ rfl
      obtain ⟨u', given', last⟩ := moves_handing same reached found ends later settled.sound.heap held given
      obtain ⟨ready, names, -⟩ := settled.spread held given
      have new : ∀ e ∈ inputs, e.1 ∈ (o.guide (o.task parameters)).targets n chosen :=
        fun e listed => names ▸ List.mem_map_of_mem listed
      have known : ∀ e ∈ inputs ++ rest, o.workflow.Reached e.1 :=
        List.forall_mem_append.mpr ⟨fun e listed => next e.1 (new e listed), others⟩
      rw [r.move_cons, r.move_pair, Guide.walk_onward_ok found visited given, Guide.walk_onward_ok found' visited' given',
        ← r.move_append]
      exact ih last ready known

/-- The walks from the triggers follow each other, each trigger with a copy of the input. -/
theorem moves_walkWith (locals : o.registry.IsLocal) (blind : o.registry.IsBlind) (same : o.workflow.SameReach w')
    (moved : ∀ id, o.workflow.Reached id → parameters'.lookup id = r.move (parameters.lookup id))
    {reserved : Address → Prop} (moves : s.Moves r s') (settled : s.Settled parameters reserved [])
    (held : Held reserved s.heap payload) :
    let walked := o.walkWith (o.task parameters) payload s
    let walked' := walkWith { o with workflow := w' } (task { o with workflow := w' } parameters') (r.move payload) s'
    walked'.1 = r.move walked.1 ∧ walked.2.Moves r walked'.2 := by
  dsimp only
  obtain ⟨outcome, later⟩ :=
    Scene.moves_copies moves.heap settled.sound.heap held [] (o.workflow.triggers.map Node.id)
  rw [r.move_nil] at outcome later
  unfold walkWith
  rw [same.triggers]
  rcases made : Scene.copies payload [] s.heap (o.workflow.triggers.map Node.id) with ⟨result, h⟩
  rcases made' : Scene.copies (r.move payload) [] s'.heap (o.workflow.triggers.map Node.id) with ⟨result', h'⟩
  rw [made, made'] at outcome later
  replace outcome : result' = r.move result := outcome
  subst outcome
  cases result with
  | error f => exact ⟨rfl, moves.onHeap later⟩
  | ok pending =>
      obtain ⟨poised, names, -⟩ := settled.copies held made
      rw [List.append_nil] at poised
      refine moves_walk locals blind same moved (moves.onHeap later) poised fun e listed => ?_
      have started : e.1 ∈ o.workflow.triggers.map Node.id := names ▸ List.mem_map_of_mem listed
      obtain ⟨n, trigger, named⟩ := List.mem_map.mp started
      exact named ▸ .trigger trigger

end Order

end WorkflowEngine
