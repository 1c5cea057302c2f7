import Mathlib
import WorkflowEngine.Proofs.Cycle.Search

/-!
# Cycles of workflows

The edges of a workflow join the vertices of a directed graph.  The search is started with all of them,
so its answer does not depend on where the triggers are.  It takes at most two turns for a vertex and
one for an edge, and one more to answer.
-/

namespace WorkflowEngine

/-- The parts of the list stand once in the list that keeps one of each. -/
theorem nodup_eraseDups (names : List String) : names.eraseDups.Nodup := by
  induction names using WellFounded.induction (measure List.length).wf with
  | h names ih =>
      cases names with
      | nil => exact List.nodup_nil
      | cons name rest =>
          rw [List.eraseDups_cons]
          refine List.nodup_cons.mpr ⟨?_, ?_⟩
          · intro listed
            simpa using List.mem_eraseDups.mp listed
          · exact ih _ (Nat.lt_succ_of_le (List.length_filter_le _ rest))

/-- Names that are told apart occur no more often than there are places. -/
theorem sum_count_le {names : List String} (distinct : names.Nodup) (places : List String) :
    (names.map fun name => places.count name).sum ≤ places.length := by
  induction names generalizing places with
  | nil => exact Nat.zero_le _
  | cons name names ih =>
      -- The other names occur only in the places that this one leaves.
      let left := places.filter fun place => !(place == name)
      have others : names.map (fun other => places.count other) = names.map fun other => left.count other := by
        refine List.map_congr_left fun other listed => ?_
        have apart : other ≠ name := fun same => (List.nodup_cons.mp distinct).1 (same ▸ listed)
        exact (List.count_filter (by simpa using apart)).symm
      have parted : places.length = places.count name + left.length := by
        simpa [left, List.countP_eq_length_filter, List.count, Bool.beq_eq_decide_eq] using
          List.length_eq_countP_add_countP (fun place => place == name) (l := places)
      have bound := ih (List.nodup_cons.mp distinct).2 left
      rw [List.map_cons, List.sum_cons, others, parted]
      exact Nat.add_le_add_left bound _

namespace Workflow

/-- An edge leads from a vertex to another one. -/
def Joins (w : Workflow) (a b : String) : Prop :=
  ∃ e ∈ w.edges, e.source = a ∧ e.target = b

theorem mem_successors_iff {w : Workflow} {a b : String} : b ∈ w.successors a ↔ w.Joins a b := by
  simp only [successors, outgoing, Joins, List.mem_map, List.mem_filter, beq_iff_eq, and_assoc]

theorem mem_vertices_of_joins {w : Workflow} {a b : String} (joined : w.Joins a b) :
    a ∈ w.vertices ∧ b ∈ w.vertices := by
  obtain ⟨e, listed, rfl, rfl⟩ := joined
  constructor <;> refine List.mem_eraseDups.mpr (List.mem_append_right _ (List.mem_flatMap.mpr ⟨e, listed, ?_⟩))
  · exact List.mem_cons_self
  · exact List.mem_cons_of_mem _ List.mem_cons_self

/-- The directed graph of the edges has a cycle. -/
def HasDirectedCycle (w : Workflow) : Prop :=
  ∃ v, Relation.TransGen w.Joins v v

theorem cyclic_successors_iff (w : Workflow) : Cyclic w.successors ↔ w.HasDirectedCycle := by
  have same : (fun a b => b ∈ w.successors a) = w.Joins := by
    funext a b
    exact propext mem_successors_iff
  rw [Cyclic, HasDirectedCycle, same]

/-- The search answers whether there is a cycle. -/
theorem hasCycle_iff (w : Workflow) : w.hasCycle = true ↔ w.HasDirectedCycle := by
  rw [← cyclic_successors_iff]
  refine Search.closes_eq_true_iff (Search.invariant_start w.successors w.vertices) ?_ ?_
  · exact fun a b edge => (mem_vertices_of_joins (mem_successors_iff.mp edge)).1
  · exact fun a b edge => (mem_vertices_of_joins (mem_successors_iff.mp edge)).2

/-- Where the search finds no cycle, the vertices can be put in topological order. -/
theorem exists_topological {w : Workflow} (acyclic : w.hasCycle = false) :
    ∃ order : List String, order.Perm w.vertices ∧ Topological w.successors order := by
  refine Search.topological_of_closes (Search.invariant_start w.successors w.vertices) ?_ acyclic
  exact fun a _ b edge => (mem_vertices_of_joins (mem_successors_iff.mp edge)).2

theorem length_successors (w : Workflow) (v : String) :
    (w.successors v).length = (w.edges.map Edge.source).count v := by
  rw [successors, outgoing, List.length_map, List.count, List.countP_map, List.countP_eq_length_filter]
  rfl

/-- The turns that a search takes at most are bounded by the size of the graph. -/
theorem weight_search_le (w : Workflow) : w.search.weight w.successors ≤ w.edges.length + 2 * w.vertices.length := by
  have degrees := sum_count_le (nodup_eraseDups (w.nodeIds ++ w.edgeEnds)) (w.edges.map Edge.source)
  have each (vs : List String) : Search.whiteWeight w.successors vs =
      (vs.map fun v => (w.edges.map Edge.source).count v).sum + 2 * vs.length := by
    induction vs with
    | nil => rfl
    | cons v vs ih =>
        rw [Search.whiteWeight, List.map_cons, List.sum_cons, ih, length_successors, List.length_cons]
        omega
  rw [List.length_map] at degrees
  simp only [search, Search.weight, Trail.weight, each]
  exact Nat.add_le_add_right degrees _

/-- The search ends, within a number of turns linear in the size of the graph, and it answers yes exactly
when the edges form a directed cycle, wherever it is. -/
theorem hasCycle_decides (w : Workflow) :
    (∃ turns ≤ w.edges.length + 2 * w.vertices.length + 1,
      w.search.advance w.successors turns = .inr w.hasCycle) ∧
    (w.hasCycle = true ↔ ∃ v, Relation.TransGen w.Joins v v) := by
  obtain ⟨turns, bound, answered⟩ := Search.exists_advance_eq_closes w.successors w.search
  have light := w.weight_search_le
  exact ⟨⟨turns, by omega, answered⟩, w.hasCycle_iff⟩

end Workflow

end WorkflowEngine

/-!
## Paths without a cycle

The paths that begin at a vertex are counted up to a length.  In a graph without a cycle no path is longer
than there are vertices, so from that length on the count stays the same: one path that goes no further,
and the paths from each successor.
-/

namespace WorkflowEngine

variable {next : String → List String}

/-- How many paths of at most a length begin at a vertex. -/
def pathsWithin (next : String → List String) : Nat → String → Nat
  | 0, _ => 1
  | length + 1, v => 1 + ((next v).map (pathsWithin next length)).sum

/-- No path from a vertex is longer than the topological order behind it. -/
theorem pathsWithin_succ_eq {order : List String} (sorted : Topological next order) {v : String}
    (listed : v ∈ order) {length : Nat} (enough : order.length ≤ length) :
    pathsWithin next (length + 1) v = pathsWithin next length v := by
  induction order generalizing v length with
  | nil => cases listed
  | cons u older ih =>
      cases length with
      | zero => cases enough
      | succ length =>
          have shorter : older.length ≤ length := Nat.le_of_succ_le_succ enough
          rcases List.mem_cons.mp listed with rfl | later
          · have onward : (next v).map (pathsWithin next (length + 1)) = (next v).map (pathsWithin next length) :=
              List.map_congr_left fun w edge => ih sorted.2 (sorted.1 w edge) shorter
            rw [pathsWithin, onward, pathsWithin]
          · exact ih sorted.2 later (Nat.le_succ_of_le shorter)

namespace Workflow

/-- How many paths begin at a vertex, if there is no cycle. -/
def paths (w : Workflow) (v : String) : Nat :=
  pathsWithin w.successors w.vertices.length v

/-- Without a cycle a path ends where it begins, or it goes on from a successor. -/
theorem paths_eq {w : Workflow} (acyclic : w.hasCycle = false) {v : String} (known : v ∈ w.vertices) :
    w.paths v = 1 + ((w.successors v).map w.paths).sum := by
  obtain ⟨order, all, sorted⟩ := exists_topological acyclic
  have stable := pathsWithin_succ_eq sorted (all.mem_iff.mpr known) (Nat.le_of_eq all.length_eq)
  rw [paths, ← stable, pathsWithin]
  rfl

/-- How many paths begin at the triggers, if there is no cycle. -/
def pathBound (w : Workflow) : Nat :=
  (w.triggers.map fun n => w.paths n.id).sum

end Workflow

end WorkflowEngine
