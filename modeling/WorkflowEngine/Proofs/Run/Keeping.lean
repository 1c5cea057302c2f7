import WorkflowEngine.Proofs.Run.Output
import WorkflowEngine.Proofs.Run.Ready

/-!
# Records that stay

A record is made of copies: one of the input, taken before the visit, and one of the output, taken when the node is
done.  Here the copies are kept on the heap of the run, among the live values.  Handlers that reach only what they are
given never come to them, neither do variables nor inputs that are handed on, so whatever goes on later the copies show
what was recorded.  The records themselves are only ever added to.
-/

namespace WorkflowEngine

/-- The copies that are made for a record: of the input of the visit, and of its output if the node is done. -/
structure Kept where
  input : Value
  output : Option Value

namespace Kept

/-- The copies, the later one first. -/
def values (k : Kept) : List Value :=
  k.output.toList ++ [k.input]

/-- The copies show what is recorded of a visit. -/
structure Shows (h : Heap) (k : Kept) (v : Visit) : Prop where
  input : h.view k.input = v.input
  output : v.status = .completed → ∃ out, k.output = some out ∧ h.view out = v.output

/-- They do so on every heap on which they show the same. -/
theorem Shows.of_views {h h' : Heap} {k : Kept} {v : Visit} (shows : k.Shows h v)
    (same : ∀ x ∈ k.values, h'.view x = h.view x) : k.Shows h' v where
  input := (same _ (List.mem_append_right _ List.mem_cons_self)).trans shows.input
  output completed := by
    obtain ⟨out, there, shown⟩ := shows.output completed
    have listed : out ∈ k.values := List.mem_append_left _ (by rw [there]; exact List.mem_cons_self)
    exact ⟨out, there, (same out listed).trans shown⟩

end Kept

namespace Scene

/-- Keeps what a visit leaves, with the copy of its input and one of its output if there is one. -/
def keepOutput (own : Value) (kept : List Kept) :
    Passage RunFailure Value × Scene → Passage RunFailure Value × Scene × List Kept
  | (.onward value chosen, t) =>
    match t.heap.copy value with
    | .error _ => (.onward value chosen, t, ⟨own, none⟩ :: kept)
    | .ok (out, h) => (.onward value chosen, { t with heap := h }, ⟨own, some out⟩ :: kept)
  | (p, t) => (p, t, ⟨own, none⟩ :: kept)

/-- Visits a node, and keeps copies of its input and of its output beside the live values. -/
def visitKeeping (w : Workflow) (task : Node → Value → Act Product) (n : Node) (input : Value) (s : Scene × List Kept) :
    Passage RunFailure Value × Scene × List Kept :=
  match s.1.heap.copy input with
  | .error _ =>
    let (p, t) := visit w task n input s.1
    (p, t, s.2)
  | .ok (own, h) => keepOutput own s.2 (visit w task n input { s.1 with heap := h })

/-- The kept copies as values that wait behind all that is pending. -/
def waitingOf (kept : List Kept) : List (String × Value) :=
  (kept.flatMap Kept.values).map fun v => ("", v)

variable {parameters : List (String × Value)} {reserved : Address → Prop} {s t : Scene} {front back : List (String × Value)}
  {v w : Value} {h : Heap}

/-- A copy of a free value is put among the values that wait, which show what they did. -/
theorem Settled.insert (settled : s.Settled parameters reserved (front ++ back)) (held : Held reserved s.heap v)
    (copied : s.heap.copy v = .ok (w, h)) (id : String) :
    ∃ more : Address → Prop, ({ s with heap := h } : Scene).Settled parameters more (front ++ (id, w) :: back) ∧
      h.view w = s.heap.view v ∧ (∀ x : Value, Held reserved s.heap x → Held more h x) ∧ h.view v = s.heap.view v ∧
      ∀ e ∈ front ++ back, h.view e.2 = s.heap.view e.2 := by
  have copy := Heap.copyOf_of_copy settled.sound.heap held copied
  have still (x : Value) (heldX : Held reserved s.heap x) : Held _ h x := copy.kept.held_apart heldX
  have waiting := settled.waiting
  rw [List.map_append] at waiting
  refine ⟨_, ⟨⟨settled.sound.heap.apart copy.kept, still _ settled.sound.vars⟩, fun e listed => ?_, ?_⟩, copy.view, still,
    copy.still, fun e listed => ?_⟩
  · exact ⟨(settled.supplied e listed).1, still _ (settled.supplied e listed).2⟩
  · rw [List.map_append, List.map_cons]
    exact waiting.insert settled.sound.heap held copied
  · exact (settled.waiting.grown copy.grown).2 e.2 (List.mem_map_of_mem listed)

/-- Copies show what is recorded as long as the values that wait show the same. -/
theorem shows_of_views {h h' : Heap} {kept : List Kept} {visits : List Visit}
    (shows : List.Forall₂ (Kept.Shows h) kept visits) (same : ∀ e ∈ waitingOf kept, h'.view e.2 = h.view e.2) :
    List.Forall₂ (Kept.Shows h') kept visits := by
  induction shows with
  | nil => exact .nil
  | cons first _ ih =>
      rename_i k v kept visits _
      have listed (x : Value) (there : x ∈ k.values ∨ ("", x) ∈ waitingOf kept) : ("", x) ∈ waitingOf (k :: kept) := by
        unfold waitingOf at there ⊢
        rw [List.flatMap_cons, List.map_append]
        exact List.mem_append.mpr (there.imp (fun own => List.mem_map_of_mem own) id)
      refine .cons (first.of_views fun x own => same _ (listed x (.inl own))) (ih fun e there => ?_)
      obtain ⟨x, -, rfl⟩ := List.mem_map.mp there
      exact same _ (listed x (.inr there))

/-- A visit with an input that can be written down leaves a record of it, and of the output if it is handed on. -/
theorem record_of_visit {w : Workflow} {task : Node → Value → Act Product} {n : Node} {input : Value}
    {p : Passage RunFailure Value} {given : Data} (steady : (task n input).Steady) (read : s.heap.snapshot input = .ok given)
    (visited : visit w task n input s = (p, t)) :
    ∃ v : Visit, t.visits = v :: s.visits ∧ v.input = given ∧
      ((∃ value chosen, p = .onward value chosen ∧ t.heap.snapshot value = .ok v.output) ∨
        (∀ value chosen, p ≠ .onward value chosen) ∧ v.status = .failed) := by
  cases visited_of_visit visited with
  | unreadable faulty =>
      rw [read] at faulty
      cases faulty
  | completed read' done =>
      obtain rfl := Except.ok.inj (read.symm.trans read')
      exact ⟨_, congrArg _ (complete_visits steady done), rfl, .inl ⟨_, _, rfl, Act.snapshot_of_complete done⟩⟩
  | failed read' done =>
      obtain rfl := Except.ok.inj (read.symm.trans read')
      rename_i message stage
      obtain ⟨v, visits, -, input, -, status, -⟩ := failVisit_visits w n (Visit.begin n given s.now) message stage
      obtain ⟨-, -, ends⟩ := failVisit_heap w n (Visit.begin n given s.now) message stage
      exact ⟨v, visits.trans (congrArg _ (complete_visits steady done)), input, .inr ⟨ends, status⟩⟩

/-- What is pending may be worked on while the kept copies wait, and these show the records. -/
structure Separate (parameters : List (String × Value)) (s : Scene × List Kept) (pending : List (String × Value)) : Prop where
  poised : s.1.Poised parameters (pending ++ waitingOf s.2)
  shows : List.Forall₂ (Kept.Shows s.1.heap) s.2 s.1.visits

/-- After a visit the kept copies show the records, and the output is free of them and of what is pending. -/
def Separated (parameters rest : List (String × Value)) (p : Passage RunFailure Value) (s : Scene × List Kept) : Prop :=
  List.Forall₂ (Kept.Shows s.1.heap) s.2 s.1.visits ∧
    ∃ reserved, s.1.Settled parameters reserved (rest ++ waitingOf s.2) ∧
      ∀ value chosen, p = .onward value chosen → Held reserved s.1.heap value

/-- Nothing is left by a visit with an input that cannot be copied. -/
theorem visit_of_no_copy {w : Workflow} {task : Node → Value → Act Product} {n : Node} {input : Value} {f : Fault}
    {p : Passage RunFailure Value} (sound : s.heap.Sound reserved) (held : Held reserved s.heap input)
    (uncopied : s.heap.copy input = .error f) (visited : visit w task n input s = (p, t)) :
    t = s ∧ ∃ e, p = .stopped e := by
  have unread {given : Data} : s.heap.snapshot input ≠ .ok given := by
    intro read
    obtain ⟨w, h, made⟩ := Heap.exists_copy sound held read
    rw [uncopied] at made
    cases made
  cases visited_of_visit visited with
  | unreadable faulty => exact ⟨rfl, _, rfl⟩
  | completed read done => exact absurd read unread
  | failed read done => exact absurd read unread

/-- Where the copy of its input shows the latest record, keeping a visit leaves all records shown by copies. -/
theorem Settled.keepOutput {own : Value} {kept : List Kept} {rest : List (String × Value)} {v : Visit} {older : List Visit}
    {p p' : Passage RunFailure Value} {u : Scene × List Kept}
    (settled : s.Settled parameters reserved (rest ++ ("", own) :: waitingOf kept)) (visits : s.visits = v :: older)
    (shown : s.heap.view own = v.input) (shows : List.Forall₂ (Kept.Shows s.heap) kept older)
    (yields : ∀ value chosen, p = .onward value chosen → Held reserved s.heap value)
    (outcome : (∃ value chosen, p = .onward value chosen ∧ s.heap.snapshot value = .ok v.output) ∨
      (∀ value chosen, p ≠ .onward value chosen) ∧ v.status = .failed)
    (ended : Scene.keepOutput own kept (p, s) = (p', u)) : Separated parameters rest p' u := by
  rcases outcome with ⟨value, chosen, rfl, output⟩ | ⟨ends, status⟩
  · obtain ⟨out, h, copied⟩ := Heap.exists_copy settled.sound.heap (yields _ _ rfl) output
    obtain ⟨more, later, view, still, -, views⟩ := settled.insert (yields _ _ rfl) copied ""
    simp only [Scene.keepOutput, copied] at ended
    cases ended
    refine ⟨?_, more, later, fun v' ids same => ?_⟩
    · have input : h.view own = v.input := (views ("", own) (by simp)).trans shown
      have kept_ : h.view out = v.output := view.trans (Data.eq_of_copy output)
      change List.Forall₂ (Kept.Shows h) _ s.visits
      rw [visits]
      exact .cons ⟨input, fun _ => ⟨out, rfl, kept_⟩⟩ (shows_of_views shows fun e listed => views e (by simp [listed]))
    · cases same
      exact still value (yields _ _ rfl)
  · have left : Scene.keepOutput own kept (p, s) = (p, s, ⟨own, none⟩ :: kept) := by
      cases p with
      | onward value chosen => exact absurd rfl (ends value chosen)
      | _ => rfl
    rw [left] at ended
    cases ended
    refine ⟨?_, reserved, settled, fun value chosen same => absurd same (ends value chosen)⟩
    dsimp only
    rw [visits]
    exact .cons ⟨shown, fun completed => by rw [status] at completed; cases completed⟩ shows

/-- A visit leaves the copies showing what is recorded, and the record that it adds is shown by copies as well. -/
theorem Separate.visit {o : Order} {n : Node} {id : String} {input : Value} {rest : List (String × Value)}
    {s t : Scene × List Kept} {p : Passage RunFailure Value} (locals : o.registry.IsLocal)
    (separate : Separate parameters s ((id, input) :: rest))
    (visited : visitKeeping o.workflow (o.task parameters) n input s = (p, t)) : Separated parameters rest p t := by
  obtain ⟨s, kept⟩ := s
  obtain ⟨⟨reserved, settled, held⟩, shows⟩ := separate
  dsimp only at settled held shows
  unfold visitKeeping at visited
  cases copied : s.heap.copy input with
  | error f =>
      rcases ended : Scene.visit o.workflow (o.task parameters) n input s with ⟨p', u⟩
      obtain ⟨rfl, e, rfl⟩ := visit_of_no_copy settled.sound.heap held copied ended
      simp only [copied, ended] at visited
      cases visited
      exact ⟨shows, reserved, settled, nofun⟩
  | ok made =>
      obtain ⟨own, h⟩ := made
      obtain ⟨more, there, view, still, same, views⟩ := settled.insert held copied ""
      obtain ⟨given, written⟩ : ∃ given, h.snapshot input = .ok given := by
        obtain ⟨d, written⟩ := Heap.exists_snapshot settled.sound.heap held copied
        exact ⟨d, by rw [Heap.snapshot, same, ← view]; exact written⟩
      rcases ended : Scene.visit o.workflow (o.task parameters) n input { s with heap := h } with ⟨p', u⟩
      simp only [copied, ended] at visited
      obtain ⟨later, still', yields⟩ := there.visit locals (still input held) ended
      obtain ⟨v, visits, recorded, outcome⟩ := record_of_visit (Act.steady_perform _ n input) written ended
      have shown : u.heap.view own = v.input := by
        rw [still' ("", own) (by simp), view, ← same, recorded]
        exact Data.eq_of_copy written
      have older : List.Forall₂ (Kept.Shows u.heap) kept s.visits :=
        shows_of_views shows fun e listed => by
          rw [still' e (by simp [listed]), views e (List.mem_append_right _ listed)]
      exact later.keepOutput visits shown older yields outcome visited

end Scene

namespace Order

variable {o : Order} {parameters : List (String × Value)}

/-- What the walk of a run does while copies of what is recorded are kept. -/
def keepingGuide (o : Order) (task : Node → Value → Act Product) : Guide (Scene × List Kept) RunFailure Value where
  workflow := o.workflow
  visit := Scene.visitKeeping o.workflow task
  spread v ids s :=
    let (given, t) := Scene.spread v ids s.1
    (given, t, s.2)

/-- Outputs are handed on as without copies, which are left alone. -/
theorem of_keepingGuide_spread {task : Node → Value → Act Product} {output : Value} {ids : List String}
    {s t : Scene × List Kept} {r : Except RunFailure (List (String × Value))}
    (given : (o.keepingGuide task).spread output ids s = (r, t)) :
    Scene.spread output ids s.1 = (r, t.1) ∧ t.1.visits = s.1.visits ∧ t.2 = s.2 := by
  cases given
  exact ⟨rfl, Scene.spread_visits output ids s.1, rfl⟩

/-- While a run goes on the copies show what is recorded. -/
theorem separate_invariant (locals : o.registry.IsLocal) (parameters : List (String × Value)) :
    (o.keepingGuide (o.task parameters)).Invariant (fun pending s => Scene.Separate parameters s pending)
      (fun s => List.Forall₂ (Kept.Shows s.1.heap) s.2 s.1.visits) where
  left separate := separate.shows
  ended separate _ visited := by
    obtain ⟨shows, reserved, settled, -⟩ := separate.visit locals visited
    exact ⟨settled.poised, shows⟩
  stopped separate _ visited := (separate.visit locals visited).1
  refused separate _ visited given := by
    obtain ⟨shows, reserved, settled, yields⟩ := separate.visit locals visited
    obtain ⟨spread, visits, still⟩ := of_keepingGuide_spread given
    obtain ⟨vars, grown, -⟩ := Scene.spread_grown settled.sound.heap (yields _ _ rfl) spread
    have views := (settled.grown vars grown).2
    rw [visits, still]
    exact Scene.shows_of_views shows fun e listed => views e (List.mem_append_right _ listed)
  onward separate _ visited given := by
    obtain ⟨shows, reserved, settled, yields⟩ := separate.visit locals visited
    obtain ⟨spread, visits, still⟩ := of_keepingGuide_spread given
    obtain ⟨poised, -, -, views, -⟩ := settled.spread (yields _ _ rfl) spread
    refine ⟨by rw [still, List.append_assoc]; exact poised, ?_⟩
    rw [visits, still]
    exact Scene.shows_of_views shows fun e listed => views e (List.mem_append_right _ listed)

/-- Records and copies are only ever added. -/
def Adds (s t : Scene × List Kept) : Prop :=
  s.1.visits <:+ t.1.visits ∧ s.2 <:+ t.2

theorem adds_visitKeeping (o : Order) (parameters : List (String × Value)) (n : Node) (input : Value)
    (s : Scene × List Kept) : Adds s (Scene.visitKeeping o.workflow (o.task parameters) n input s).2 := by
  have steady : (o.task parameters n input).Steady := Act.steady_perform _ n input
  unfold Scene.visitKeeping
  cases s.1.heap.copy input with
  | error f => exact ⟨Scene.suffix_visit o.workflow steady, List.suffix_refl _⟩
  | ok made =>
      obtain ⟨own, h⟩ := made
      have later := Scene.suffix_visit (s := { s.1 with heap := h }) o.workflow steady
      revert later
      dsimp only
      rcases Scene.visit o.workflow (o.task parameters) n input { s.1 with heap := h } with ⟨p, u⟩
      intro later
      unfold Scene.keepOutput
      cases p with
      | onward value chosen =>
          dsimp only
          cases u.heap.copy value <;> exact ⟨later, List.suffix_cons _ _⟩
      | _ => exact ⟨later, List.suffix_cons _ _⟩

/-- The steps of a run while copies are kept, in order, and where it ends. -/
def keeping (o : Order) (s : Scene) : List (NodeStep (Scene × List Kept) Value) × (Scene × List Kept) :=
  match o.outset? s with
  | none => ([], (o.carryOut s).2, [])
  | some b =>
    match Scene.copies b.payload [] b.scene.heap (o.workflow.triggers.map Node.id) with
    | (.error _, h) => ([], { b.scene with heap := h }, [])
    | (.ok pending, h) =>
      let g := o.keepingGuide (o.task b.parameters)
      (g.steps o.limit.toNat pending ({ b.scene with heap := h }, []),
        (g.walk o.limit.toNat pending ({ b.scene with heap := h }, [])).2)

/-- The copies show the records before every step and at the end, where all of the earlier ones are still there. -/
structure KeepsAll (steps : List (NodeStep (Scene × List Kept) Value)) (final : Scene × List Kept) : Prop where
  shown : List.Forall₂ (Kept.Shows final.1.heap) final.2 final.1.visits
  before : ∀ step ∈ steps, List.Forall₂ (Kept.Shows step.before.1.heap) step.before.2 step.before.1.visits
  added : ∀ step ∈ steps, Adds step.before final

theorem keeping_keepsAll (locals : o.registry.IsLocal) (clock : Clock) (transport : Http.Transport) :
    KeepsAll (o.keeping (Scene.start clock transport)).1 (o.keeping (Scene.start clock transport)).2 := by
  unfold keeping
  cases begun : o.outset? (Scene.start clock transport) with
  | none =>
      have none_yet : (o.carryOut (Scene.start clock transport)).2.visits = [] := visits_of_no_outset begun
      refine ⟨?_, List.forall_mem_nil _, List.forall_mem_nil _⟩
      dsimp only
      rw [none_yet]
      exact .nil
  | some b =>
      obtain ⟨pending, h, copied, ready⟩ := outset_ready begun
      have none_yet : b.scene.visits = [] := visits_of_outset begun
      dsimp only
      rw [copied]
      have separate : Scene.Separate b.parameters ({ b.scene with heap := h }, []) pending := by
        refine ⟨by simpa [Scene.waitingOf] using ready.poised, ?_⟩
        dsimp only
        rw [none_yet]
        exact .nil
      obtain ⟨shown, before⟩ := ((separate_invariant locals b.parameters).recording
        (fun _ _ separate => separate.shows)).steps ⟨separate, List.forall_mem_nil _⟩
      have rises := Guide.rises_invariant (g := o.keepingGuide (o.task b.parameters)) (R := Adds)
        (fun first second => ⟨first.1.trans second.1, first.2.trans second.2⟩)
        (adds_visitKeeping o b.parameters)
        fun output ids s => ⟨Scene.spread_visits output ids s.1 ▸ List.suffix_refl _, List.suffix_refl _⟩
      exact ⟨shown, fun step listed => before step (List.mem_reverse.mpr listed),
        fun step listed => rises.steps (List.forall_mem_nil _) step (List.mem_reverse.mpr listed)⟩

/-- What is recorded stays as it is: before every step of a run the records are the first ones of those that the run
ends with.  While handlers reach only what they are given, the copies that are kept of inputs and outputs show what is
recorded before every step and at the end, and they are never given up for others. -/
theorem conclude_keeps_records (o : Order) (pending : Run) (clock : Clock) (transport : Http.Transport) :
    (∀ step ∈ o.stepsOf (Scene.start clock transport),
      step.before.visits.reverse <+: (o.conclude pending (Scene.start clock transport)).1.visits) ∧
    (o.registry.IsLocal →
      KeepsAll (o.keeping (Scene.start clock transport)).1 (o.keeping (Scene.start clock transport)).2) := by
  refine ⟨fun step listed => ?_, fun locals => keeping_keepsAll locals clock transport⟩
  rw [conclude_visits]
  refine List.reverse_prefix.mpr ?_
  unfold stepsOf at listed
  cases begun : o.outset? (Scene.start clock transport) with
  | none =>
      rw [begun] at listed
      cases listed
  | some b =>
      rw [begun] at listed
      rw [carryOut_of_outset begun]
      refine walkWith_invariant b.payload b.scene (K := fun s => ∀ step ∈ s.2, step.before.visits <:+ s.1.visits)
        (Guide.rises_invariant (R := fun s t : Scene => s.visits <:+ t.visits) List.IsSuffix.trans
          (fun n input s => Scene.suffix_visit o.workflow (Act.steady_perform _ n input))
          fun output ids s => Scene.spread_visits output ids s ▸ List.suffix_refl _)
        (fun _ _ _ => List.forall_mem_nil _) (fun _ _ _ => List.forall_mem_nil _) step (List.mem_reverse.mpr listed)

/-- Two actions side by side that change their input in place change neither records nor copies. -/
theorem conclude_keeps_records_of_fork :
    let o : Order := { fork with registry := ⟨[("log", ⟨Sample.mutating, ""⟩)]⟩ }
    o.registry.IsLocal ∧ KeepsAll (o.keeping (Scene.start .start ⟨[], []⟩)).1 (o.keeping (Scene.start .start ⟨[], []⟩)).2 ∧
      (o.keeping (Scene.start .start ⟨[], []⟩)).2.2.length = 5 := by
  intro o
  have locals : o.registry.IsLocal := Sample.isLocal_of_mutating "log" ""
  exact ⟨locals, (conclude_keeps_records o (Run.pending "" "" 1 "" ⟨0⟩) .start ⟨[], []⟩).2 locals, by decide +kernel⟩

end Order

end WorkflowEngine
