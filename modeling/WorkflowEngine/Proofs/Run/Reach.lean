import WorkflowEngine.Proofs.Relocation.Fields
import WorkflowEngine.Proofs.Relocation.Walk
import WorkflowEngine.Proofs.Run.Origin
import WorkflowEngine.Proofs.Run.Record
import WorkflowEngine.Proofs.Walk.Termination

/-!
# What a run depends on

A run comes only to nodes within reach of the triggers, so nothing else in its definition has an influence on what it
does.  The parameters of all actions are put on the heap before the walk, those of nodes out of reach among them, so
runs of two definitions that look the same from their triggers work at different places.  Both follow the walk that is
given the parameters of nodes within reach alone, and so their records say the same.
-/

namespace WorkflowEngine

variable {reserved : Address → Prop}

/-! ## Before the walk -/

/-- The parameters of some of the nodes. -/
theorem parametersOf_filter (p : String → Bool) (nodes : List Node) :
    parametersOf (nodes.filter fun n => p n.id) = (parametersOf nodes).filter fun e => p e.1 := by
  unfold parametersOf
  rw [List.filter_filterMap, List.filterMap_filter]
  refine congrArg (List.filterMap · nodes) (funext fun n => ?_)
  cases n.action? with
  | none => simp
  | some c => simp [Option.filter_some]

/-- Parameters stand under different ids if nodes do. -/
theorem parametersOf_nodup {nodes : List Node} (distinct : (nodes.map Node.id).Nodup) :
    ((parametersOf nodes).map Prod.fst).Nodup := by
  refine distinct.sublist ?_
  unfold parametersOf
  induction nodes with
  | nil => exact .slnil
  | cons n rest ih =>
      have later := ih (List.nodup_cons.mp distinct).2
      cases action : n.action? with
      | none => simpa [List.filterMap_cons, action] using later.cons _
      | some c => simpa [List.filterMap_cons, action] using later

namespace Scene

variable {s t : Scene} {payload : Value}

/-- Parameters are put on the heap as fields under the ids of their nodes. -/
theorem loadParameters_eq_fields (done : List (String × Value)) (s : Scene) (nodes : List Node) :
    loadParameters done s nodes = ((s.heap.loadFields done (parametersOf nodes)).1,
      { s with heap := (s.heap.loadFields done (parametersOf nodes)).2 }) := by
  induction nodes generalizing done s with
  | nil => rfl
  | cons n rest ih =>
      unfold loadParameters
      split
      · rename_i c action
        rw [parametersOf_action action]
        exact ih _ _
      · rename_i other
        rw [parametersOf_other other]
        exact ih _ _

/-- The variables are made on a closed heap and leave it closed. -/
theorem seed_closed (closed : s.heap.IsClosed) (sound : s.heap.Sound reserved) (held : Held reserved s.heap payload)
    (bounds : s.heap.Bounds payload) (seeded : s.seed payload = .ok t) : t.heap.IsClosed ∧ t.heap.Bounds payload := by
  rcases seed_cases seeded with ⟨-, rfl⟩ | ⟨a, own, copied, named, -, taken, read, rfl⟩
  · exact ⟨closed, bounds⟩
  · obtain ⟨h, made, rfl⟩ := copy_eq taken
    obtain ⟨later, stillClosed, boundsOwn⟩ := closed.copy sound held bounds made
    have entries : h.Bounds (entriesOf h own) := by
      unfold entriesOf
      split
      · exact stillClosed.entries _
      · exact .nil
    have vars : h.Bounds (Cell.dict (named.map fun e => (.str e.1, e.2))) := by
      refine Heap.bounds_cell_dict_iff.mpr (Heap.bounds_list_iff.mpr fun e listed => ?_)
      obtain ⟨f, member, rfl⟩ := List.mem_map.mp listed
      obtain ⟨g, known, same⟩ := (variableEntries_spec read).2 f member
      refine Heap.bounds_pair_iff.mpr ⟨fun _ _ _ => rfl, ?_⟩
      exact same ▸ (Heap.bounds_pair_iff.mp (Heap.bounds_list_iff.mp entries g known)).2
    have final := stillClosed.write vars s.vars
    refine ⟨final, bounds.later (later.trans ?_)⟩
    exact ⟨by simp [Heap.write], Nat.le_refl _⟩

/-- A scene that is prepared for a walk: its heap is sound and closed, the copy of the input is free and names only what
is there, and no visit is taken. -/
structure IsPrepared (s : Scene) (payload : Value) : Prop where
  sound : s.Sound fun _ => False
  held : Held (fun _ => False) s.heap payload
  closed : s.heap.IsClosed
  bounds : s.heap.Bounds payload
  visits : s.visits = []

theorem IsPrepared.vars (prepared : s.IsPrepared payload) : s.vars < s.heap.cells.size := by
  obtain ⟨c, there, -⟩ := Heap.exists_cell? prepared.sound.vars.1
  exact Heap.lt_of_cell? there

/-- A run that is prepared at its start leads to such a scene. -/
theorem isPrepared_prepare {o : Order} {clock : Clock} {transport : Http.Transport}
    (prepared : (start clock transport).prepare o.input = (.ok payload, t)) : t.IsPrepared payload := by
  have sound := sound_start clock transport
  have closed : (start clock transport).heap.IsClosed := by
    have empty : Heap.empty.IsClosed := fun a c there => by simp [Heap.cell?, Heap.empty] at there
    exact (empty.alloc (c := .dict []) (Heap.bounds_cell_dict_iff.mpr .nil)).2
  obtain ⟨final, held, -, -⟩ := prepare_sound sound prepared
  obtain ⟨h, same⟩ := prepare_eq (start clock transport) o.input
  obtain ⟨h', loaded, heldInput, made, -, -, -, -⟩ := prepare_copies sound prepared
  obtain ⟨h'', made', sown⟩ := prepare_eq_ok prepared
  cases made.symm.trans made'
  obtain ⟨-, closedInput, boundsInput⟩ := closed.load o.given
  obtain ⟨-, closedCopy, boundsCopy⟩ := closedInput.copy loaded.heap heldInput boundsInput made
  have copy := Heap.copyOf_of_copy loaded.heap heldInput made
  obtain ⟨closedFinal, bounds⟩ := seed_closed closedCopy copy.grown.sound copy.held boundsCopy sown
  refine ⟨final, held, closedFinal, bounds, ?_⟩
  rw [prepared] at same
  replace same : t = _ := same
  rw [same]
  rfl

end Scene

/-! ## The walk within reach -/

namespace Workflow

open Classical in
/-- The nodes within reach of the triggers. -/
noncomputable def reachedNodes (w : Workflow) : List Node :=
  w.nodes.filter fun n => decide (w.Reached n.id)

open Classical in
/-- Definitions that look the same have the same nodes within reach, in some order. -/
theorem SameReach.nodes_perm {w w' : Workflow} (same : w.SameReach w') (distinct : w.nodeIds.Nodup)
    (distinct' : w'.nodeIds.Nodup) : w.reachedNodes.Perm (w'.nodes.filter fun n => decide (w.Reached n.id)) := by
  refine (List.perm_ext_iff_of_nodup (distinct.of_map.filter _) (distinct'.of_map.filter _)).mpr fun n => ?_
  simp only [List.mem_filter, decide_eq_true_eq]
  refine and_congr_left fun reached => ⟨fun listed => ?_, fun listed => ?_⟩
  · exact (mem_of_node? ((same.nodes n.id reached).trans (node?_of_mem distinct listed))).1
  · exact (mem_of_node? ((same.nodes n.id reached).symm.trans (node?_of_mem distinct' listed))).1

end Workflow

namespace Order

variable {o : Order} {w' : Workflow} {payload : Value} {s : Scene}

/-- The walk that is given the parameters of nodes within reach alone. -/
noncomputable def walkWithin (o : Order) (payload : Value) (s : Scene) : Ending RunFailure × Scene :=
  let (parameters, s) := Scene.loadParameters [] s o.workflow.reachedNodes
  o.walkWith (o.task parameters) payload s

open Classical in
/-- The walk of every definition that looks the same follows the walk within reach. -/
theorem moves_walkWithin (locals : o.registry.IsLocal) (blind : o.registry.IsBlind) (same : o.workflow.SameReach w')
    (distinct : o.workflow.nodeIds.Nodup) (distinct' : w'.nodeIds.Nodup) (prepared : s.IsPrepared payload)
    (log : List LogLine) :
    let walked := o.walkWithin payload s
    let walked' := walk { o with workflow := w' } payload { s with log := log }
    ∃ r : Relocation, walked'.1 = r.move walked.1 ∧ walked.2.Moves r walked'.2 := by
  dsimp only
  have perm : (parametersOf o.workflow.reachedNodes).Perm
      ((parametersOf w'.nodes).filter fun e => decide (o.workflow.Reached e.1)) := by
    rw [← parametersOf_filter fun id => decide (o.workflow.Reached id)]
    exact (same.nodes_perm distinct distinct').filterMap _
  have filled : 0 < s.heap.cells.size := Nat.lt_of_le_of_lt (Nat.zero_le _) prepared.vars
  obtain ⟨r, fixes, moves, moved⟩ := prepared.closed.exists_moves_of_filter filled
    (fun id => decide (o.workflow.Reached id)) perm (parametersOf_nodup distinct')
  obtain ⟨h, loaded, given, -, grown, supplies⟩ :=
    Scene.loadParameters_supplies prepared.sound.heap [] o.workflow.reachedNodes
  have settled : ({ s with heap := h } : Scene).Settled loaded (fun _ => False) [] :=
    ⟨prepared.sound.grown grown, supplied_of_supplies supplies, .nil⟩
  have held : Held (fun _ => False) h payload := Held.grown prepared.held grown
  rw [Scene.loadParameters_eq_fields] at given
  cases given
  have scenes : ({ s with heap := (s.heap.loadFields [] (parametersOf o.workflow.reachedNodes)).2 } : Scene).Moves r
      { s with heap := (s.heap.loadFields [] (parametersOf w'.nodes)).2, log := log } := by
    refine ⟨moves, rfl, rfl, (fixes.address s.vars prepared.vars).symm, ?_⟩
    exact prepared.visits ▸ rfl
  have walked := moves_walkWith locals blind same (fun id reached => moved id (decide_eq_true reached)) scenes settled held
  rw [prepared.bounds.move_eq fixes] at walked
  unfold walkWithin walk
  rw [Scene.loadParameters_eq_fields, Scene.loadParameters_eq_fields]
  exact ⟨r, walked⟩

end Order

/-! ## Records of runs -/

/-- What a record says about the course of its run, without marks: the visits in order, the variables, how the run ended,
and why it failed. -/
def Run.course (record : Run) : List Visit × Data × RunStatus × Option RunError :=
  (record.bare.visits, record.bare.vars, record.bare.status, record.bare.error)

namespace Order

variable {o : Order} {w' : Workflow} {clock : Clock} {transport : Http.Transport}

theorem outcome_move (o : Order) (w' : Workflow) (r : Relocation) (ending : Ending RunFailure) :
    outcome { o with workflow := w' } (r.move ending) = r.move (o.outcome ending) := by
  cases ending <;> rfl

/-- The course of a run depends neither on places nor on what else stood in its record when it began. -/
theorem settle_course {r : Relocation} {s s' : Scene} (moves : s.Moves r s') {pending pending' : Run}
    (error : pending'.error = pending.error) (outcome : Except RunFailure Unit) :
    (settle pending' (r.move outcome) s').1.course = (settle pending outcome s).1.course := by
  have bare : (settle pending' (r.move outcome) s').1.bare = (settle pending' outcome s).1.bare := settle_bare moves
  have same : (settle pending' (r.move outcome) s').1.course = (settle pending' outcome s).1.course := by
    rw [Run.course, bare]
    rfl
  rw [same]
  cases outcome with
  | ok done => exact congrArg (_, _, _, ·) error
  | error e => rfl

/-- A run of a valid definition that looks the same follows the walk within reach. -/
theorem carryOut_follows (locals : o.registry.IsLocal) (blind : o.registry.IsBlind) (same : o.workflow.SameReach w')
    (distinct : o.workflow.nodeIds.Nodup) (distinct' : w'.nodeIds.Nodup) {report : Report}
    (checked : w'.validate = .ok report) (valid : report.valid = true) {payload : Value} {t : Scene}
    (prepared : (Scene.start clock transport).prepare o.input = (.ok payload, t)) :
    let ended := carryOut { o with workflow := w' } (Scene.start clock transport)
    ∃ r : Relocation, ended.1 = r.move (o.outcome (o.walkWithin payload t).1) ∧ (o.walkWithin payload t).2.Moves r ended.2 := by
  dsimp only
  obtain ⟨told, reported, fine⟩ := report_of_valid (o := { o with workflow := w' }) checked valid
  have opened : ∃ log, opening { o with workflow := w' } told (t.note .info "Validating workflow structure") =
      { t with log := log } := by
    rw [opening, warn_eq]
    exact ⟨_, rfl⟩
  obtain ⟨log, opened⟩ := opened
  obtain ⟨r, ending, scenes⟩ :=
    moves_walkWithin locals blind same distinct distinct' (Scene.isPrepared_prepare prepared) log
  have ended : carryOut { o with workflow := w' } (Scene.start clock transport) =
      (outcome { o with workflow := w' } (walk { o with workflow := w' } payload { t with log := log }).1,
        (walk { o with workflow := w' } payload { t with log := log }).2) := by
    unfold carryOut
    rw [prepared]
    dsimp only
    rw [proceed_of_sound (Workflow.sound_of_valid checked valid) reported fine, opened]
  rw [ended, ending, outcome_move]
  exact ⟨r, rfl, scenes⟩

/-- Runs of valid definitions that look the same from their triggers take the same course. -/
theorem conclude_course (locals : o.registry.IsLocal) (blind : o.registry.IsBlind) (same : o.workflow.SameReach w')
    (distinct : o.workflow.nodeIds.Nodup) (distinct' : w'.nodeIds.Nodup) {report report' : Report}
    (checked : o.workflow.validate = .ok report) (valid : report.valid = true) (checked' : w'.validate = .ok report')
    (valid' : report'.valid = true) {pending pending' : Run} (error : pending'.error = pending.error) :
    (conclude { o with workflow := w' } pending' (Scene.start clock transport)).1.course =
      (o.conclude pending (Scene.start clock transport)).1.course := by
  rcases prepared : (Scene.start clock transport).prepare o.input with ⟨outcome, t⟩
  cases outcome with
  | error e =>
      have refused (w : Workflow) : carryOut { o with workflow := w } (Scene.start clock transport) = (.error e, t) := by
        rw [carryOut, prepared]
      rw [conclude_of_carryOut (refused w'), conclude_of_carryOut (refused o.workflow)]
      rfl
  | ok payload =>
      obtain ⟨r', ended', scenes'⟩ := carryOut_follows locals blind same distinct distinct' checked' valid' prepared
      obtain ⟨r, ended, scenes⟩ :=
        carryOut_follows locals blind (Workflow.SameReach.refl o.workflow) distinct distinct checked valid prepared
      rw [conclude, conclude, ended', settle_course scenes' error]
      replace ended : (o.carryOut (Scene.start clock transport)).1 = _ := ended
      rw [ended]
      exact (settle_course scenes rfl _).symm

/-- Every turn of a walk stays within reach. -/
theorem reached_invariant (o : Order) (parameters : List (String × Value)) :
    (o.guide (o.task parameters)).Invariant
      (fun pending s => (∀ e ∈ pending, o.workflow.Reached e.1) ∧ ∀ v ∈ s.visits, o.workflow.Reached v.nodeId)
      (fun s => ∀ v ∈ s.visits, o.workflow.Reached v.nodeId) := by
  have visits {id : String} {input : Value} {s t : Scene} {n : Node} {p : Passage RunFailure Value}
      (reached : o.workflow.Reached id) (before : ∀ v ∈ s.visits, o.workflow.Reached v.nodeId)
      (found : o.workflow.node? id = some n) (visited : Scene.visit o.workflow (o.task parameters) n input s = (p, t)) :
      ∀ v ∈ t.visits, o.workflow.Reached v.nodeId := by
    obtain ⟨-, rfl⟩ := Workflow.mem_of_node? found
    rcases (Scene.visited_of_visit visited).record (Act.steady_perform _ n input) with ⟨-, -, rfl⟩ | ⟨v, left, named, -⟩
    · exact before
    · exact left ▸ List.forall_mem_cons.mpr ⟨named ▸ reached, before⟩
  have spreads {output : Value} {ids : List String} {s t : Scene} {result : Except RunFailure (List (String × Value))}
      (before : ∀ v ∈ s.visits, o.workflow.Reached v.nodeId) (given : Scene.spread output ids s = (result, t)) :
      ∀ v ∈ t.visits, o.workflow.Reached v.nodeId := by
    have still := Scene.spread_visits output ids s
    rw [given] at still
    exact still ▸ before
  refine ⟨fun holds => holds.2, ?_, ?_, ?_, ?_⟩
  · rintro id input rest s n t ⟨within, before⟩ found visited
    obtain ⟨reached, others⟩ := List.forall_mem_cons.mp within
    exact ⟨others, visits reached before found visited⟩
  · rintro id input rest s n e t ⟨within, before⟩ found visited
    exact visits (within _ List.mem_cons_self) before found visited
  · rintro id input rest s n output chosen t e u ⟨within, before⟩ found visited given
    exact spreads (visits (within _ List.mem_cons_self) before found visited) given
  · rintro id input rest s n output chosen t inputs u ⟨within, before⟩ found visited given
    obtain ⟨reached, others⟩ := List.forall_mem_cons.mp within
    refine ⟨List.forall_mem_append.mpr ⟨fun e listed => ?_, others⟩, spreads (visits reached before found visited) given⟩
    obtain ⟨-, rfl⟩ := Workflow.mem_of_node? found
    have names := Scene.spread_ids given
    have handed : e.1 ∈ (o.guide (o.task parameters)).targets n chosen := names ▸ List.mem_map_of_mem listed
    exact (Act.reached_of_perform found reached visited).2 e.1 handed

/-- A run only visits nodes within reach. -/
theorem conclude_reached (o : Order) (pending : Run) (clock : Clock) (transport : Http.Transport) :
    ∀ v ∈ (o.conclude pending (Scene.start clock transport)).1.visits, o.workflow.Reached v.nodeId := by
  rw [conclude_visits]
  refine fun v listed => ?_
  have taken := List.mem_reverse.mp listed
  have fresh : (Scene.start clock transport).visits = [] := rfl
  cases begun : o.outset? (Scene.start clock transport) with
  | none =>
      rw [visits_of_no_outset begun, fresh] at taken
      cases taken
  | some b =>
      have unvisited : ∀ v ∈ b.scene.visits, o.workflow.Reached v.nodeId := by
        rw [visits_of_outset begun, fresh]
        exact fun _ listed => absurd listed List.not_mem_nil
      have keeps := (o.reached_invariant b.parameters).recording (P := fun _ => True) fun _ _ _ => trivial
      have final := walkWith_invariant b.payload b.scene keeps
        (fun pending h copied => ⟨⟨fun e member => ?_, unvisited⟩, fun _ _ => trivial⟩)
        (fun f h _ => ⟨unvisited, fun _ _ => trivial⟩)
      · rw [carryOut_of_outset begun] at taken
        exact final.1 v taken
      · have started : e.1 ∈ o.workflow.triggers.map Node.id := Scene.copies_ids copied ▸ List.mem_map_of_mem member
        obtain ⟨n, trigger, named⟩ := List.mem_map.mp started
        exact named ▸ .trigger trigger

/-- Runs of two valid definitions that look the same from their triggers take the same course.  So a run visits nodes
within reach only, none of which the check reports as unconnected, and edges behind nodes at which paths end have no
influence on it. -/
theorem course_within_reach (o : Order) (locals : o.registry.IsLocal) (blind : o.registry.IsBlind) {report : Report}
    (checked : o.workflow.validate = .ok report) (valid : report.valid = true) (distinct : o.workflow.nodeIds.Nodup)
    (pending : Run) (clock : Clock) (transport : Http.Transport) :
    let record := (o.conclude pending (Scene.start clock transport)).1
    let course w pending := (conclude { o with workflow := w } pending (Scene.start clock transport)).1.course
    (∀ w' report', w'.validate = .ok report' → report'.valid = true → w'.nodeIds.Nodup → o.workflow.SameReach w' →
      ∀ pending' : Run, pending'.error = pending.error → course w' pending' = record.course) ∧
    (∀ v ∈ record.visits, o.workflow.Reached v.nodeId) ∧
    (∀ warning ∈ report.warnings, warning.kind = .unreachableNode → ∀ v ∈ record.visits, warning.nodeId ≠ some v.nodeId) ∧
    ∀ edges report', Workflow.validate { o.workflow with edges := edges } = .ok report' → report'.valid = true →
      (∀ id, o.workflow.endsAt id = false →
        Workflow.outgoing { o.workflow with edges := edges } id = o.workflow.outgoing id) →
      course { o.workflow with edges := edges } pending = record.course := by
  have reached := o.conclude_reached pending clock transport
  refine ⟨fun w' report' checked' valid' distinct' same pending' error => ?_, reached, fun warning listed kind v visited about => ?_,
    fun edges report' checked' valid' same => ?_⟩
  · exact conclude_course locals blind same distinct distinct' checked valid checked' valid' error
  · exact Workflow.not_reached_of_warned distinct checked listed kind about (reached v visited)
  · exact conclude_course locals blind (Workflow.sameReach_of_edges same) distinct distinct checked valid checked' valid' rfl

/-- A definition that goes on behind its end, with an action that no edge touches. -/
def trailing : Workflow where
  id := "trailing"
  version := 1
  name := ""
  errorHandling := .stop
  nodes :=
    [⟨"apart", "", .action ⟨"set_fields", [("fields", .dict [(.str "b", .int 2)])], none⟩, none⟩, ⟨"start", "", .trigger, none⟩,
     ⟨"work", "", .action ⟨"set_fields", [("fields", .dict [(.str "a", .int 1)])], none⟩, none⟩, ⟨"last", "", .ending, none⟩,
     ⟨"behind", "", .ending, none⟩]
  edges := [⟨"1", "start", "work", none, none⟩, ⟨"2", "work", "last", none, none⟩, ⟨"3", "last", "behind", none, none⟩]

/-- The same without what lies out of reach. -/
def bounded : Workflow where
  id := "bounded"
  version := 1
  name := ""
  errorHandling := .stop
  nodes :=
    [⟨"start", "", .trigger, none⟩, ⟨"work", "", .action ⟨"set_fields", [("fields", .dict [(.str "a", .int 1)])], none⟩, none⟩,
     ⟨"last", "", .ending, none⟩]
  edges := [⟨"1", "start", "work", none, none⟩, ⟨"2", "work", "last", none, none⟩]

theorem sameReach_bounded : trailing.SameReach bounded := by
  have within (id : String) (reached : trailing.Reached id) : id ∈ ["start", "work", "last"] := by
    induction reached with
    | @trigger n starts =>
        have triggers : trailing.triggers = [⟨"start", "", .trigger, none⟩] := rfl
        rw [triggers, List.mem_singleton] at starts
        subst starts
        decide
    | @along e before onward listed _ =>
        simp only [trailing, List.mem_cons, List.not_mem_nil, or_false] at listed
        rcases listed with rfl | rfl | rfl
        · decide
        · decide
        · cases onward
  refine ⟨rfl, rfl, fun id reached => ?_, fun id reached onward => ?_⟩
  all_goals
    have among := within id reached
    simp only [List.mem_cons, List.not_mem_nil, or_false] at among
    rcases among with rfl | rfl | rfl
    all_goals first | rfl | cases onward

/-- The order to run a definition with an action that sets fields. -/
def orderFor (w : Workflow) : Order :=
  ⟨w, .null, false, Sample.registryOf ["set_fields"], 10, 0⟩

/-- A definition that goes on behind its end is run as one that stops there, and what no edge touches is left out. -/
theorem course_within_reach_trailing :
    let record (w : Workflow) :=
      ((orderFor w).conclude (Run.pending "run" w.id w.version "system" Clock.start.now) (Scene.start .start ⟨[], []⟩)).1
    (record bounded).course = (record trailing).course ∧ ∀ v ∈ (record trailing).visits, v.nodeId ≠ "apart" := by
  have checked : trailing.validate = .ok (.of []
      [⟨some "apart", none, .unreachableNode, "Node \"apart\" is not connected to the workflow",
        some "Connect this node or remove it"⟩,
       ⟨some "last", none, .bestPractice, "End node \"last\" has outgoing edges that are never followed",
        some "Remove the outgoing edges or change the node type"⟩]) := by cbv
  have checked' : bounded.validate = .ok (.of [] []) := by cbv
  obtain ⟨alike, -, unconnected, -⟩ := course_within_reach (orderFor trailing) (Sample.registryOf_local _)
    (Sample.registryOf_blind _) checked rfl (by decide) (Run.pending "run" trailing.id trailing.version "system" Clock.start.now)
    .start ⟨[], []⟩
  refine ⟨alike bounded _ checked' rfl (by decide) sameReach_bounded _ rfl, fun v visited same => ?_⟩
  exact unconnected _ List.mem_cons_self rfl v visited (congrArg some same.symm)

end Order

end WorkflowEngine
