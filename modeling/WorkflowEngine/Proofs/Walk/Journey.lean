import Mathlib.Data.Set.Card
import WorkflowEngine.Definition.Reader
import WorkflowEngine.Proofs.Cycle.Workflow
import WorkflowEngine.Proofs.Validation.Findings
import WorkflowEngine.Proofs.Walk.Route

/-!
# Journeys from the triggers

A journey begins at a trigger and takes edges one after the other, so that edges side by side make different
journeys.  It goes on from no node at which paths end.  In a graph without a cycle the journeys to a node can be
listed, and their number comes from the numbers at the nodes behind each edge.
-/

namespace WorkflowEngine

namespace Workflow

variable {w : Workflow} {u v goal : String} {path : List (Fin w.edges.length)}

/-- Paths end at the node with the id. -/
def endsAt (w : Workflow) (id : String) : Bool :=
  (w.node? id).any fun n => n.kind == .ending

/-- The edges at some places lead from one node to another, and no path ends before the last node. -/
inductive Leads (w : Workflow) (goal : String) : String → List (Fin w.edges.length) → Prop where
  | here : Leads w goal goal []
  | along {i : Fin w.edges.length} {path : List (Fin w.edges.length)} (onward : w.endsAt w.edges[i].source = false)
      (rest : Leads w goal w.edges[i].target path) : Leads w goal w.edges[i].source (i :: path)

/-- The journeys to a node: each begins at one of the triggers and takes some edges. -/
def journeys (w : Workflow) (goal : String) : Set (Fin w.triggers.length × List (Fin w.edges.length)) :=
  { j | w.Leads goal w.triggers[j.1].id j.2 }

/-- The places of the edges that leave a node, unless paths end there. -/
def exits (w : Workflow) (id : String) : List (Fin w.edges.length) :=
  if w.endsAt id then [] else (List.finRange w.edges.length).filter fun i => w.edges[i].source == id

theorem mem_exits_iff {i : Fin w.edges.length} : i ∈ w.exits u ↔ w.endsAt u = false ∧ w.edges[i].source = u := by
  unfold exits
  cases w.endsAt u <;> simp

theorem nodup_exits (w : Workflow) (id : String) : (w.exits id).Nodup := by
  unfold exits
  split
  · exact List.nodup_nil
  · exact (List.nodup_finRange _).filter _

/-- The exits of a node lead to its successors, in their order. -/
theorem targets_exits (w : Workflow) (id : String) :
    (w.exits id).map (fun i => w.edges[i].target) = if w.endsAt id then [] else w.successors id := by
  unfold exits
  split
  · rfl
  · have places : (List.finRange w.edges.length).map (fun i => w.edges[i]) = w.edges := List.map_getElem_finRange _
    rw [successors, outgoing]
    conv_rhs => rw [← places]
    rw [List.filter_map, List.map_map]
    rfl

/-- The paths to a node of at most a length, from where they begin. -/
def routes (w : Workflow) (goal : String) : Nat → String → List (List (Fin w.edges.length))
  | 0, id => if id = goal then [[]] else []
  | length + 1, id =>
    (if id = goal then [[]] else []) ++
      (w.exits id).flatMap fun i => (routes w goal length w.edges[i].target).map (i :: ·)

theorem nil_mem_here : path ∈ (if u = goal then [[]] else []) ↔ u = goal ∧ path = [] := by
  split
  · rename_i same
    simp [same]
  · rename_i other
    simp [other]

/-- They are all the paths up to that length. -/
theorem mem_routes_iff {length : Nat} : path ∈ w.routes goal length u ↔ w.Leads goal u path ∧ path.length ≤ length := by
  induction length generalizing u path with
  | zero =>
      rw [routes, nil_mem_here, Nat.le_zero, List.length_eq_zero_iff]
      constructor
      · rintro ⟨rfl, rfl⟩
        exact ⟨.here, rfl⟩
      · rintro ⟨leads, rfl⟩
        cases leads
        exact ⟨rfl, rfl⟩
  | succ length ih =>
      rw [routes, List.mem_append, nil_mem_here]
      constructor
      · rintro (⟨rfl, rfl⟩ | further)
        · exact ⟨.here, Nat.zero_le _⟩
        · obtain ⟨i, exit, rest⟩ := List.mem_flatMap.mp further
          obtain ⟨later, listed, rfl⟩ := List.mem_map.mp rest
          obtain ⟨leads, short⟩ := ih.mp listed
          obtain ⟨onward, rfl⟩ := mem_exits_iff.mp exit
          exact ⟨.along onward leads, Nat.succ_le_succ short⟩
      · rintro ⟨leads, short⟩
        cases leads with
        | here => exact .inl ⟨rfl, rfl⟩
        | @along i rest onward leads =>
            refine .inr (List.mem_flatMap.mpr ⟨i, mem_exits_iff.mpr ⟨onward, rfl⟩, List.mem_map_of_mem ?_⟩)
            exact ih.mpr ⟨leads, Nat.le_of_succ_le_succ short⟩

/-- No path is listed twice. -/
theorem nodup_routes (w : Workflow) (goal : String) (length : Nat) (id : String) : (w.routes goal length id).Nodup := by
  have here (id : String) : (if id = goal then [([] : List (Fin w.edges.length))] else []).Nodup := by
    split
    · exact List.nodup_singleton _
    · exact List.nodup_nil
  induction length generalizing id with
  | zero => exact here id
  | succ length ih =>
      rw [routes]
      refine List.nodup_append'.mpr ⟨here id, List.nodup_flatMap.mpr ⟨fun i _ => ?_, ?_⟩, ?_⟩
      · exact (ih _).map (List.cons_injective)
      · refine (w.nodup_exits id).imp fun apart => ?_
        intro path first second
        obtain ⟨p, -, rfl⟩ := List.mem_map.mp first
        obtain ⟨q, -, same⟩ := List.mem_map.mp second
        exact apart (List.cons.inj same).1.symm
      · intro path empty further
        obtain ⟨-, rfl⟩ := nil_mem_here.mp empty
        obtain ⟨i, -, rest⟩ := List.mem_flatMap.mp further
        obtain ⟨p, -, same⟩ := List.mem_map.mp rest
        cases same

/-- No path from a vertex has as many edges as there are vertices from there on in the topological order. -/
theorem Leads.length_lt {order : List String} (leads : w.Leads goal u path) (sorted : Topological w.successors order)
    (listed : u ∈ order) : path.length < order.length := by
  induction order generalizing u path with
  | nil => cases listed
  | cons first older ih =>
      rcases List.mem_cons.mp listed with rfl | later
      · cases leads with
        | here => exact Nat.zero_lt_succ _
        | @along i path onward rest =>
            have edge : w.edges[i].target ∈ w.successors w.edges[i].source :=
              mem_successors_iff.mpr ⟨_, List.getElem_mem i.isLt, rfl, rfl⟩
            exact Nat.succ_lt_succ (ih rest sorted.2 (sorted.1 _ edge))
      · exact Nat.lt_succ_of_lt (ih leads sorted.2 later)

/-- How many paths there are from one node to another, if there is no cycle. -/
def ways (w : Workflow) (goal id : String) : Nat :=
  (w.routes goal w.vertices.length id).length

/-- Without a cycle, what is listed up to the number of vertices are all paths from a vertex. -/
theorem mem_routes_iff_leads (acyclic : w.hasCycle = false) (known : u ∈ w.vertices) {length : Nat}
    (enough : w.vertices.length ≤ length) : path ∈ w.routes goal length u ↔ w.Leads goal u path := by
  obtain ⟨order, all, sorted⟩ := exists_topological acyclic
  rw [mem_routes_iff, and_iff_left_iff_imp]
  intro leads
  have short := leads.length_lt sorted (all.mem_iff.mpr known)
  rw [all.length_eq] at short
  exact Nat.le_trans (Nat.le_of_lt short) enough

/-- A path is empty, or it goes on from a successor of a node at which no path ends. -/
theorem ways_eq (acyclic : w.hasCycle = false) (known : u ∈ w.vertices) :
    w.ways goal u = (if u = goal then 1 else 0) + ((if w.endsAt u then [] else w.successors u).map (w.ways goal)).sum := by
  have same : (w.routes goal w.vertices.length u).Perm (w.routes goal (w.vertices.length + 1) u) := by
    refine (List.perm_ext_iff_of_nodup (nodup_routes ..) (nodup_routes ..)).mpr fun path => ?_
    rw [mem_routes_iff_leads acyclic known (Nat.le_refl _), mem_routes_iff_leads acyclic known (Nat.le_succ _)]
  have here : (if u = goal then [([] : List (Fin w.edges.length))] else []).length = if u = goal then 1 else 0 := by
    split <;> rfl
  rw [ways, same.length_eq, routes, List.length_append, here, List.length_flatMap, ← targets_exits, List.map_map]
  simp only [List.length_map]
  rfl

theorem mem_vertices_of_trigger {n : Node} (trigger : n ∈ w.triggers) : n.id ∈ w.vertices :=
  List.mem_eraseDups.mpr (List.mem_append_left _ (List.mem_map_of_mem (List.mem_of_mem_filter trigger)))

/-- Without a cycle there are finitely many journeys to a node: those from all triggers. -/
theorem ncard_journeys (acyclic : w.hasCycle = false) (goal : String) :
    (w.journeys goal).Finite ∧ (w.journeys goal).ncard = (w.triggers.map fun n => w.ways goal n.id).sum := by
  let listed := (List.finRange w.triggers.length).flatMap fun t =>
    (w.routes goal w.vertices.length w.triggers[t].id).map fun path => (t, path)
  have members : w.journeys goal = (listed.toFinset : Set _) := by
    ext ⟨t, path⟩
    have known := mem_vertices_of_trigger (List.getElem_mem t.isLt)
    simp [journeys, listed, mem_routes_iff_leads acyclic known (Nat.le_refl _)]
  have distinct : listed.Nodup := by
    refine List.nodup_flatMap.mpr ⟨fun t _ => (nodup_routes ..).map (Prod.mk_right_injective t), ?_⟩
    refine (List.nodup_finRange _).imp fun apart => ?_
    intro j first second
    obtain ⟨p, -, rfl⟩ := List.mem_map.mp first
    obtain ⟨q, -, same⟩ := List.mem_map.mp second
    exact apart (congrArg Prod.fst same).symm
  have count : listed.length = (w.triggers.map fun n => w.ways goal n.id).sum := by
    have places : (List.finRange w.triggers.length).map (fun t => w.triggers[t]) = w.triggers := List.map_getElem_finRange _
    conv_rhs => rw [← places, List.map_map]
    simp only [listed, List.length_flatMap, List.length_map]
    rfl
  rw [members]
  refine ⟨Finset.finite_toSet _, ?_⟩
  rw [Set.ncard_coe_finset, List.toFinset_card_of_nodup distinct, count]

end Workflow

end WorkflowEngine

/-!
## What can be reached

A node is within reach if edges lead to it from a trigger and no path ends before it.  Two definitions look the same from
their triggers if they have the same triggers and settings, and the same nodes within reach with the same edges behind
them, except behind nodes at which paths end.  Tasks send outputs only to what is within reach.
-/

namespace WorkflowEngine

namespace Workflow

variable {w w' : Workflow} {id : String}

/-- The ids to which edges lead from the triggers, where no path ends before. -/
inductive Reached (w : Workflow) : String → Prop where
  | trigger {n : Node} (starts : n ∈ w.triggers) : Reached w n.id
  | along {e : Edge} (before : Reached w e.source) (onward : w.endsAt e.source = false) (listed : e ∈ w.edges) :
      Reached w e.target

theorem Reached.successor {next : String} (before : w.Reached id) (onward : w.endsAt id = false)
    (follows : next ∈ w.successors id) : w.Reached next := by
  obtain ⟨e, leaves, rfl⟩ := List.mem_map.mp follows
  obtain ⟨listed, source⟩ := List.mem_filter.mp leaves
  obtain rfl : e.source = id := by simpa using source
  exact .along before onward listed

/-- Two definitions look the same from their triggers. -/
structure SameReach (w w' : Workflow) : Prop where
  triggers : w'.triggers = w.triggers
  settings : w'.errorHandling = w.errorHandling
  nodes : ∀ id, w.Reached id → w'.node? id = w.node? id
  edges : ∀ id, w.Reached id → w.endsAt id = false → w'.outgoing id = w.outgoing id

theorem SameReach.refl (w : Workflow) : w.SameReach w :=
  ⟨rfl, rfl, fun _ _ => rfl, fun _ _ _ => rfl⟩

/-- Edges behind nodes at which paths end do not show from the triggers. -/
theorem sameReach_of_edges {edges : List Edge}
    (same : ∀ id, w.endsAt id = false → ({ w with edges := edges } : Workflow).outgoing id = w.outgoing id) :
    w.SameReach { w with edges := edges } :=
  ⟨rfl, rfl, fun _ _ => rfl, fun id _ onward => same id onward⟩

/-- The check whether no id stands twice. -/
theorem areDistinct_iff {ids : List String} : areDistinct ids = true ↔ ids.Nodup := by
  induction ids with
  | nil => simp [areDistinct]
  | cons id rest ih => simp [areDistinct, ih]

/-- Where no id stands twice, every node is found under its id. -/
theorem node?_of_mem (distinct : w.nodeIds.Nodup) {n : Node} (listed : n ∈ w.nodes) : w.node? n.id = some n := by
  cases found : w.node? n.id with
  | none => exact absurd (List.mem_map_of_mem listed) (node?_eq_none_iff.mp found)
  | some m =>
      obtain ⟨member, same⟩ := mem_of_node? found
      exact congrArg some (List.inj_on_of_nodup_map distinct member listed same)

/-- A node that the check reports as unconnected is not within reach. -/
theorem not_reached_of_warned (distinct : w.nodeIds.Nodup) {r : Report} (checked : w.validate = .ok r)
    {warning : DefinitionWarning} (listed : warning ∈ r.warnings) (kind : warning.kind = .unreachableNode) {id : String}
    (about : warning.nodeId = some id) : ¬ w.Reached id := by
  obtain ⟨expressions, -, rfl⟩ := validate_eq_ok checked
  change warning ∈ w.connectionWarnings ++ w.endWarnings at listed
  rcases List.mem_append.mp listed with unconnected | behind
  · obtain ⟨n, member, told⟩ := List.mem_filterMap.mp unconnected
    split at told
    · rename_i loose
      cases told
      obtain rfl : n.id = id := Option.some.inj about
      simp only [Bool.and_eq_true, Bool.not_eq_true'] at loose
      generalize same : n.id = id
      rintro (⟨starts⟩ | ⟨before, onward, edge⟩)
      · rename_i t
        obtain ⟨there, trigger⟩ := List.mem_filter.mp starts
        obtain rfl : n = t := List.inj_on_of_nodup_map distinct member there same
        rw [trigger] at loose
        cases loose.1
      · rename_i e
        have touched : e.target ∈ w.edgeEnds := List.mem_flatMap.mpr ⟨e, edge, by simp⟩
        rw [same, List.contains_iff_mem.mpr touched] at loose
        cases loose.2
    · cases told
  · obtain ⟨n, -, told⟩ := List.mem_filterMap.mp behind
    split at told
    · cases told
      cases kind
    · cases told

end Workflow

namespace Act

/-- At a node at which paths end, the output goes nowhere. -/
theorem perform_ends (setting : Setting) {n : Node} (last : n.kind = .ending) (input : Value) :
    (perform setting n input).Yields fun product => product.2 = some [] := by
  unfold perform
  split
  case h_7 => exact yields_after fun _ => yields_pure rfl
  all_goals
    rename_i task
    rw [Node.kind, task] at last
    cases last

/-- Where the output of a node goes is within reach, if the node is. -/
theorem reached_of_perform {setting : Setting} {n : Node} {input : Value} {s t : Scene} {output : Value}
    {chosen : Option (List String)} (found : setting.workflow.node? n.id = some n) (before : setting.workflow.Reached n.id)
    (visited : Scene.visit setting.workflow (perform setting) n input s = (.onward output chosen, t)) :
    (n.kind = .ending → chosen = some []) ∧
      ∀ id ∈ chosen.getD (setting.workflow.successors n.id), setting.workflow.Reached id := by
  have ends : n.kind = .ending → chosen = some [] := fun last =>
    Scene.visit_yields (P := fun chosen => chosen = some []) (perform_ends setting last input) visited
  refine ⟨ends, fun id listed => ?_⟩
  have follows : id ∈ setting.workflow.successors n.id :=
    (Scene.visit_offers (perform_routes setting) visited).subset listed
  have onward : setting.workflow.endsAt n.id = false := by
    rw [Workflow.endsAt, found, Option.any_some]
    refine beq_eq_false_iff_ne.mpr fun last => ?_
    rw [ends last] at listed
    cases listed
  exact before.successor onward follows

end Act

end WorkflowEngine
