import WorkflowEngine.Proofs.Region.Snapshot
import WorkflowEngine.Proofs.Run.Pending
import WorkflowEngine.Proofs.Run.Record
import WorkflowEngine.Proofs.Walk.Route

/-!
# Inputs that are ready

What is pending in a run can be worked on, and all of it can be written down: it is the output of a visit that was
recorded, or a copy.  So a visit is never without a record of its own, and an output can always be handed on.  A walk
of a run thus takes one visit at each turn, and it ends at a node that fails or at the end of what is pending, unless
the limit or a node that is not there ends it before.
-/

namespace WorkflowEngine

variable {reserved : Address → Prop} {h h' : Heap}

namespace Heap

/-- The value can be written down. -/
def Keepable (h : Heap) (v : Value) : Prop :=
  ∃ d, h.snapshot v = .ok d

theorem Keepable.of_view {v w : Value} (keepable : h.Keepable v) (same : h'.view w = h.view v) : h'.Keepable w := by
  unfold Keepable snapshot
  rw [same]
  exact keepable

end Heap

namespace Scene

variable {parameters : List (String × Value)} {s t : Scene} {value : Value}

/-- A value that can be written down is copied for as many nodes as there are. -/
theorem exists_copies (sound : h.Sound reserved) (held : Held reserved h value) (keepable : h.Keepable value)
    (done : List (String × Value)) (ids : List String) :
    ∃ inputs h', copies value done h ids = (.ok inputs, h') := by
  induction ids generalizing h done with
  | nil => exact ⟨_, _, rfl⟩
  | cons id rest ih =>
      obtain ⟨d, kept⟩ := keepable
      obtain ⟨fresh, h1, taken⟩ := Heap.exists_copy sound held kept
      have copy := Heap.copyOf_of_copy sound held taken
      obtain ⟨inputs, h2, others⟩ := ih copy.grown.sound (Held.grown held copy.grown)
        (Heap.Keepable.of_view ⟨d, kept⟩ copy.still) ((id, fresh) :: done)
      exact ⟨inputs, h2, by rw [copies, taken]; exact others⟩

/-- So it can be handed on. -/
theorem exists_spread (sound : s.heap.Sound reserved) (held : Held reserved s.heap value) (keepable : s.heap.Keepable value)
    (ids : List String) : ∃ inputs t, spread value ids s = (.ok inputs, t) := by
  unfold spread
  split
  · exact ⟨_, _, rfl⟩
  · obtain ⟨inputs, h, made⟩ := exists_copies sound held keepable [] ids
    rw [made]
    exact ⟨_, _, rfl⟩

/-- What is pending may be worked on one after the other, and all of it can be written down. -/
structure Ready (parameters : List (String × Value)) (s : Scene) (pending : List (String × Value)) : Prop where
  poised : s.Poised parameters pending
  keepable : ∀ e ∈ pending, s.heap.Keepable e.2

/-- A free output that can be written down is handed on, and then the new inputs are ready with those that wait. -/
theorem Settled.exists_spread {rest : List (String × Value)} (settled : s.Settled parameters reserved rest)
    (held : Held reserved s.heap value) (keepable : s.heap.Keepable value) (others : ∀ e ∈ rest, s.heap.Keepable e.2)
    (ids : List String) :
    ∃ inputs t, Scene.spread value ids s = (.ok inputs, t) ∧ inputs.map Prod.fst = ids ∧ t.visits = s.visits ∧
      t.Ready parameters (inputs ++ rest) := by
  obtain ⟨inputs, t, given⟩ := Scene.exists_spread settled.sound.heap held keepable ids
  obtain ⟨poised, names, shown, views, visits⟩ := settled.spread held given
  refine ⟨inputs, t, given, names, visits, poised, fun e listed => ?_⟩
  rcases List.mem_append.mp listed with new | old
  · exact keepable.of_view (shown e new)
  · exact (others e old).of_view (views e old)

end Scene

namespace Visit

/-- The visit has failed with the failure of the run. -/
structure IsBlamedBy (v : Visit) (e : RunFailure) : Prop where
  failed : v.status = .failed
  code : e.code = .run
  nodeId : e.nodeId = some v.nodeId
  told : ∃ kept now, keptMessage e.message = .ok kept ∧ v.error = some ⟨.node, kept, now, some v.nodeId⟩

end Visit

namespace Order

variable {o : Order} {parameters : List (String × Value)} {s t u : Scene} {n : Node} {input : Value}
  {rest pending : List (String × Value)}

/-- What a visit comes to when what is pending is ready.  It leaves one record of the node.  If the node completes,
its output can be handed on to any nodes, and otherwise the run ends or goes on with the rest. -/
inductive Turn (o : Order) (parameters : List (String × Value)) (rest : List (String × Value)) (n : Node) (input : Value)
    (s : Scene) : Visit → Passage RunFailure Value → Scene → Prop where
  | completed {v : Visit} {value : Value} {chosen : Option (List String)} {t : Scene} (status : v.status = .completed)
      (handed : ∀ ids, ∃ inputs u, Scene.spread value ids t = (.ok inputs, u) ∧ inputs.map Prod.fst = ids ∧
        u.visits = t.visits ∧ u.Ready parameters (inputs ++ rest)) :
      Turn o parameters rest n input s v (.onward value chosen) t
  | passed {v : Visit} {t : Scene} (policy : o.workflow.errorHandling = .continue) (failed : v.status = .failed)
      (ready : t.Ready parameters rest) : Turn o parameters rest n input s v .ended t
  | blamed {v : Visit} {e : RunFailure} {t : Scene} (policy : o.workflow.errorHandling = .stop) (blamed : v.IsBlamedBy e) :
      Turn o parameters rest n input s v (.stopped e) t
  | unsaid {v : Visit} {words : String} {t : Scene} (failed : v.status = .failed)
      (wordless : ¬ (o.task parameters n input).SpeaksInWords) : Turn o parameters rest n input s v (.stopped (.say words)) t

/-- A node that fails ends the run or its own path. -/
theorem turn_failVisit {given : Data} {now : Instant} {message : NodeFailure} {stage : Stage}
    (wordless : ∀ words, keptMessage message = .error words → ¬ (o.task parameters n input).SpeaksInWords)
    (ready : (Scene.failVisit o.workflow n (Visit.begin n given now) message stage).2.Ready parameters rest) :
    ∃ v, (Scene.failVisit o.workflow n (Visit.begin n given now) message stage).2.visits = v :: stage.scene.visits ∧
      v.nodeId = n.id ∧ o.Turn parameters rest n input s v
        (Scene.failVisit o.workflow n (Visit.begin n given now) message stage).1
        (Scene.failVisit o.workflow n (Visit.begin n given now) message stage).2 := by
  revert ready
  unfold Scene.failVisit
  cases kept : keptMessage message with
  | error words => exact fun _ => ⟨_, rfl, rfl, .unsaid rfl (wordless words kept)⟩
  | ok text =>
      dsimp only
      cases policy : o.workflow.errorHandling with
      | stop => exact fun _ => ⟨_, rfl, rfl, .blamed policy ⟨rfl, rfl, rfl, text, _, kept, rfl⟩⟩
      | «continue» => exact fun ready => ⟨_, rfl, rfl, .passed policy rfl ready⟩

/-- A visit to what is ready takes its turn. -/
theorem turn_of_visit {p : Passage RunFailure Value} (locals : o.registry.IsLocal)
    (ready : s.Ready parameters ((n.id, input) :: rest))
    (visited : Scene.visit o.workflow (o.task parameters) n input s = (p, t)) :
    ∃ v, t.visits = v :: s.visits ∧ v.nodeId = n.id ∧ o.Turn parameters rest n input s v p t := by
  obtain ⟨⟨reserved, settled, held⟩, keepable⟩ := ready
  obtain ⟨⟨given, written⟩, others⟩ := List.forall_mem_cons.mp keepable
  obtain ⟨later, views, yields⟩ := settled.visit locals held visited
  have still : ∀ e ∈ rest, t.heap.Keepable e.2 := fun e listed => (others e listed).of_view (views e listed)
  have steady : (o.task parameters n input).Steady := Act.steady_perform _ n input
  cases Scene.visited_of_visit visited with
  | unreadable faulty => cases written.symm.trans faulty
  | completed read done =>
      have left := Scene.complete_visits steady done
      refine ⟨_, congrArg _ left, rfl, .completed rfl fun ids => ?_⟩
      exact later.exists_spread (yields _ _ rfl) ⟨_, Act.snapshot_of_complete done⟩ still ids
  | failed read done =>
      rename_i given message stage
      have wordless (words : String) (unkept : keptMessage message = .error words) :
          ¬ (o.task parameters n input).SpeaksInWords := by
        intro speaks
        obtain ⟨text, kept⟩ := Act.inWords_discipline.complete speaks _ _ _ done
        cases kept.symm.trans unkept
      rw [← Scene.complete_visits steady done]
      exact turn_failVisit wordless ⟨later.poised, still⟩

/-- How a walk goes that takes one visit at each turn. -/
inductive Unfolds (o : Order) (parameters : List (String × Value)) :
    Nat → List (String × Value) → Scene → Ending RunFailure × Scene → Prop where
  | exhausted {limit : Nat} {s : Scene} : Unfolds o parameters limit [] s (.exhausted, s)
  | missing {limit : Nat} {id : String} {input : Value} {rest : List (String × Value)} {s : Scene}
      (absent : o.workflow.node? id = none) : Unfolds o parameters limit ((id, input) :: rest) s (.missing id, s)
  | exceeded {id : String} {input : Value} {rest : List (String × Value)} {s : Scene} {n : Node}
      (found : o.workflow.node? id = some n) : Unfolds o parameters 0 ((id, input) :: rest) s (.exceeded, s)
  | completed {limit : Nat} {id : String} {input value : Value} {rest inputs : List (String × Value)} {s t u : Scene}
      {n : Node} {v : Visit} {chosen : Option (List String)} {r : Ending RunFailure × Scene}
      (found : o.workflow.node? id = some n)
      (visited : Scene.visit o.workflow (o.task parameters) n input s = (.onward value chosen, t))
      (given : Scene.spread value (chosen.getD (o.workflow.successors n.id)) t = (.ok inputs, u))
      (left : u.visits = v :: s.visits) (named : v.nodeId = n.id) (status : v.status = .completed)
      (names : inputs.map Prod.fst = chosen.getD (o.workflow.successors n.id))
      (later : Unfolds o parameters limit (inputs ++ rest) u r) :
      Unfolds o parameters (limit + 1) ((id, input) :: rest) s r
  | passed {limit : Nat} {id : String} {input : Value} {rest : List (String × Value)} {s t : Scene} {n : Node} {v : Visit}
      {r : Ending RunFailure × Scene} (found : o.workflow.node? id = some n)
      (visited : Scene.visit o.workflow (o.task parameters) n input s = (.ended, t)) (left : t.visits = v :: s.visits)
      (policy : o.workflow.errorHandling = .continue) (failed : v.status = .failed)
      (later : Unfolds o parameters limit rest t r) : Unfolds o parameters (limit + 1) ((id, input) :: rest) s r
  | stopped {limit : Nat} {id : String} {input : Value} {rest : List (String × Value)} {s t : Scene} {n : Node}
      {v : Visit} {e : RunFailure} (found : o.workflow.node? id = some n)
      (visited : Scene.visit o.workflow (o.task parameters) n input s = (.stopped e, t)) (left : t.visits = v :: s.visits)
      (failed : v.status = .failed)
      (why : (o.task parameters n input).SpeaksInWords → o.workflow.errorHandling = .stop ∧ v.IsBlamedBy e) :
      Unfolds o parameters (limit + 1) ((id, input) :: rest) s (.stopped e, t)

/-- A walk unfolds if what is pending is ready. -/
theorem unfolds_walk (locals : o.registry.IsLocal) {limit : Nat} (ready : s.Ready parameters pending) :
    o.Unfolds parameters limit pending s ((o.guide (o.task parameters)).walk limit pending s) := by
  have turn {n : Node} {id : String} {input : Value} {rest : List (String × Value)} {s t : Scene}
      {p : Passage RunFailure Value} (ready : s.Ready parameters ((id, input) :: rest))
      (found : o.workflow.node? id = some n)
      (visited : (o.guide (o.task parameters)).visit n input s = (p, t)) :
      ∃ v, t.visits = v :: s.visits ∧ v.nodeId = n.id ∧ o.Turn parameters rest n input s v p t := by
    obtain ⟨-, rfl⟩ := Workflow.mem_of_node? found
    exact turn_of_visit locals ready visited
  induction limit, pending, s using Guide.walk.induct (o.guide (o.task parameters)) with
  | case1 limit s =>
      rw [Guide.walk_nil]
      exact .exhausted
  | case2 limit s id input rest absent =>
      rw [Guide.walk_missing absent]
      exact .missing absent
  | case3 s id input rest n found =>
      rw [Guide.walk_exceeded found]
      exact .exceeded found
  | case4 s id input rest n found limit t visited ih =>
      obtain ⟨v, left, -, turned⟩ := turn ready found visited
      rw [Guide.walk_ended found visited]
      cases turned with
      | passed policy failed later => exact .passed found visited left policy failed (ih later)
  | case5 s id input rest n found limit e t visited =>
      obtain ⟨v, left, -, turned⟩ := turn ready found visited
      rw [Guide.walk_stopped found visited]
      cases turned with
      | blamed policy blamed => exact .stopped found visited left blamed.failed fun _ => ⟨policy, blamed⟩
      | unsaid failed wordless => exact .stopped found visited left failed fun words => absurd words wordless
  | case6 s id input rest n found limit output chosen t visited e u given =>
      obtain ⟨v, left, named, turned⟩ := turn ready found visited
      cases turned with
      | completed status handed =>
          obtain ⟨inputs, u', made, -⟩ := handed ((o.guide (o.task parameters)).targets n chosen)
          cases made.symm.trans given
  | case7 s id input rest n found limit output chosen t visited inputs u given ih =>
      obtain ⟨v, left, named, turned⟩ := turn ready found visited
      rw [Guide.walk_onward_ok found visited given]
      cases turned with
      | completed status handed =>
          obtain ⟨inputs', u', made, names, visits, later⟩ := handed ((o.guide (o.task parameters)).targets n chosen)
          cases made.symm.trans given
          exact .completed found visited given (visits.trans left) named status names (ih later)

end Order

namespace Order

variable {o : Order} {clock : Clock} {transport : Http.Transport} {b : Outset}

/-- The copy of the input that a run works with can be written down. -/
theorem outset_keepable (begun : o.outset? (Scene.start clock transport) = some b) : b.scene.heap.Keepable b.payload := by
  obtain ⟨t, prepared, -, -, -, view⟩ := outset_prepared begun
  obtain ⟨h, loaded, held, made, -, -, -, same⟩ := Scene.prepare_copies (Scene.sound_start clock transport) prepared
  exact Heap.Keepable.of_view (Heap.exists_snapshot loaded.heap held made) (view.trans same)

/-- Where a walk sets out the triggers are given copies of the input, and these are ready. -/
theorem outset_ready (begun : o.outset? (Scene.start clock transport) = some b) :
    ∃ pending h, Scene.copies b.payload [] b.scene.heap (o.workflow.triggers.map Node.id) = (.ok pending, h) ∧
      ({ b.scene with heap := h } : Scene).Ready b.parameters pending := by
  obtain ⟨scene, payload, parameters, -, -⟩ := outset_isSound begun
  have keepable := outset_keepable begun
  obtain ⟨pending, h, copied⟩ := Scene.exists_copies scene.heap payload keepable [] (o.workflow.triggers.map Node.id)
  have settled : b.scene.Settled b.parameters (fun _ => False) [] := ⟨scene, supplied_of_supplies parameters, .nil⟩
  obtain ⟨poised, -, views, -⟩ := settled.copies payload copied
  rw [List.append_nil] at poised
  exact ⟨pending, h, copied, poised, fun e listed => keepable.of_view (views e listed)⟩

/-- The walk of a run goes on from what the triggers are given. -/
theorem walkWith_of_copies {task : Node → Value → Act Product} {payload : Value} {s : Scene}
    {pending : List (String × Value)}
    (copied : Scene.copies payload [] s.heap (o.workflow.triggers.map Node.id) = (.ok pending, h)) :
    o.walkWith task payload s = (o.guide task).walk o.limit.toNat pending { s with heap := h } := by
  rw [walkWith, copied]

/-- The walk of a run with local handlers unfolds from what the triggers are given. -/
theorem unfolds_walkWith (locals : o.registry.IsLocal) (begun : o.outset? (Scene.start clock transport) = some b) :
    ∃ pending s, pending.map Prod.fst = o.workflow.triggers.map Node.id ∧ s.visits = [] ∧
      o.Unfolds b.parameters o.limit.toNat pending s (o.walkWith (o.task b.parameters) b.payload b.scene) := by
  obtain ⟨pending, h, copied, ready⟩ := outset_ready begun
  refine ⟨pending, { b.scene with heap := h }, Scene.copies_ids copied, visits_of_outset begun, ?_⟩
  rw [walkWith_of_copies copied]
  exact unfolds_walk locals ready

end Order

end WorkflowEngine
