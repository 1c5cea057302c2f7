import WorkflowEngine.Definition.Basic

/-!
# Walking a workflow

A walk visits nodes one after the other.  What is still to be visited stands on a list, the next node
first.  When a node passes something on, the nodes that come after it are put in front of the list, in
the order of the edges, so the walk goes into the depth.  How a node is visited is left open.
-/

namespace WorkflowEngine

/-- What a visit to a node comes to. -/
inductive Passage (ε α : Type) where
  /-- The path ends here, and the walk goes on elsewhere. -/
  | ended
  /-- The walk ends. -/
  | stopped (e : ε)
  /-- The output is passed on, to the given nodes or along all edges. -/
  | onward (output : α) (targets : Option (List String))
deriving Repr, Inhabited

/-- How a walk ends. -/
inductive Ending (ε : Type) where
  /-- Nothing is left to visit. -/
  | exhausted
  /-- A node is not there. -/
  | missing (id : String)
  /-- There are too many visits. -/
  | exceeded
  /-- A visit ends the walk, or its output cannot be passed on. -/
  | stopped (e : ε)
deriving Repr, DecidableEq, Inhabited

/-- What a walk does, with a state that visits may change. -/
structure Guide (σ ε α : Type) where
  workflow : Workflow
  /-- Visits a node with an input. -/
  visit : Node → α → σ → Passage ε α × σ
  /-- Makes one input for each of some nodes from an output. -/
  spread : α → List String → σ → Except ε (List (String × α)) × σ

namespace Guide

variable {σ ε α : Type}

/-- The nodes that come after a node. -/
def targets (g : Guide σ ε α) (n : Node) (chosen : Option (List String)) : List String :=
  chosen.getD (g.workflow.successors n.id)

/-- Visits what is pending, with a limit on the number of visits. -/
def walk (g : Guide σ ε α) (limit : Nat) (pending : List (String × α)) (s : σ) : Ending ε × σ :=
  match pending with
  | [] => (.exhausted, s)
  | (id, input) :: rest =>
    match g.workflow.node? id with
    | none => (.missing id, s)
    | some n =>
      match limit with
      | 0 => (.exceeded, s)
      | limit + 1 =>
        match g.visit n input s with
        | (.ended, s) => walk g limit rest s
        | (.stopped e, s) => (.stopped e, s)
        | (.onward output chosen, s) =>
          match g.spread output (g.targets n chosen) s with
          | (.error e, s) => (.stopped e, s)
          | (.ok inputs, s) => walk g limit (inputs ++ rest) s
termination_by structural limit

section Turns

variable {g : Guide σ ε α} {n : Node} {id : String} {limit : Nat} {input : α} {rest : List (String × α)} {s t u : σ}

theorem walk_nil (g : Guide σ ε α) (limit : Nat) (s : σ) : g.walk limit [] s = (.exhausted, s) := by
  cases limit <;> rfl

/-- A walk that comes to a node that is not there ends. -/
theorem walk_missing (absent : g.workflow.node? id = none) :
    g.walk limit ((id, input) :: rest) s = (.missing id, s) := by
  cases limit <;> rw [walk.eq_def] <;> simp only [absent]

/-- A walk that has used up its limit ends at the next node. -/
theorem walk_exceeded (found : g.workflow.node? id = some n) :
    g.walk 0 ((id, input) :: rest) s = (.exceeded, s) := by
  rw [walk.eq_def]
  simp only [found]

/-- A path that ends is left for the rest. -/
theorem walk_ended (found : g.workflow.node? id = some n) (visited : g.visit n input s = (.ended, t)) :
    g.walk (limit + 1) ((id, input) :: rest) s = g.walk limit rest t := by
  rw [walk.eq_def]
  simp only [found, visited]

/-- A visit may end the walk. -/
theorem walk_stopped {e : ε} (found : g.workflow.node? id = some n) (visited : g.visit n input s = (.stopped e, t)) :
    g.walk (limit + 1) ((id, input) :: rest) s = (.stopped e, t) := by
  rw [walk.eq_def]
  simp only [found, visited]

/-- An output that cannot be passed on ends the walk. -/
theorem walk_onward_error {output : α} {chosen : Option (List String)} {e : ε}
    (found : g.workflow.node? id = some n) (visited : g.visit n input s = (.onward output chosen, t))
    (given : g.spread output (g.targets n chosen) t = (.error e, u)) :
    g.walk (limit + 1) ((id, input) :: rest) s = (.stopped e, u) := by
  rw [walk.eq_def]
  simp only [found, visited, given]

/-- An output that is passed on puts the next nodes in front of the rest. -/
theorem walk_onward_ok {output : α} {chosen : Option (List String)} {inputs : List (String × α)}
    (found : g.workflow.node? id = some n) (visited : g.visit n input s = (.onward output chosen, t))
    (given : g.spread output (g.targets n chosen) t = (.ok inputs, u)) :
    g.walk (limit + 1) ((id, input) :: rest) s = g.walk limit (inputs ++ rest) u := by
  rw [walk.eq_def]
  simp only [found, visited, given]

end Turns

end Guide

end WorkflowEngine
