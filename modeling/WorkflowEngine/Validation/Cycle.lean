import WorkflowEngine.Definition.Basic

/-!
# Cycles

Whether the edges of a graph close a cycle is found by a walk in depth.  A vertex is white as long as
the walk has not come to it, grey while the walk is among its successors, and black after that.  The
trail holds the grey vertices, each with the successors still to be looked at.  An edge to a grey vertex
closes a cycle.
-/

namespace WorkflowEngine

/-- The grey vertices, the latest first, each with the successors still to be looked at. -/
abbrev Trail := List (String × List String)

namespace Trail

/-- The vertex is grey. -/
def holds (t : Trail) (v : String) : Bool :=
  t.any fun entry => entry.1 == v

/-- What is left to do on the trail. -/
def weight : Trail → Nat
  | [] => 0
  | (_, rest) :: below => rest.length + 1 + weight below

end Trail

/-- A search for a cycle under way, where the white vertices stand in the order in which walks start. -/
structure Search where
  white : List String
  trail : Trail
  black : List String
deriving Repr, DecidableEq, Inhabited

namespace Search

/-- One turn of the search: it goes on, or it says whether there is a cycle. -/
def step (next : String → List String) (s : Search) : Search ⊕ Bool :=
  match s.trail with
  | [] =>
    match s.white with
    | [] => .inr false
    | root :: white => .inl { s with white := white, trail := [(root, next root)] }
  | (v, []) :: below => .inl { s with trail := below, black := v :: s.black }
  | (v, w :: rest) :: below =>
    if Trail.holds ((v, rest) :: below) w then .inr true
    else if w ∈ s.white then
      .inl { s with white := s.white.erase w, trail := (w, next w) :: (v, rest) :: below }
    else .inl { s with trail := (v, rest) :: below }

/-- How many turns the white vertices still need. -/
def whiteWeight (next : String → List String) : List String → Nat
  | [] => 0
  | v :: rest => (next v).length + 2 + whiteWeight next rest

/-- How many turns a search still takes at most. -/
def weight (next : String → List String) (s : Search) : Nat :=
  whiteWeight next s.white + s.trail.weight

/-- A vertex that is no longer white takes its turns with it. -/
theorem whiteWeight_erase (next : String → List String) {v : String} {white : List String} (found : v ∈ white) :
    whiteWeight next (white.erase v) + ((next v).length + 2) = whiteWeight next white := by
  induction white with
  | nil => cases found
  | cons u white ih =>
    by_cases same : u = v
    · subst same
      rw [List.erase_cons_head, whiteWeight, Nat.add_comm]
    · have later : v ∈ white := by
        simpa [Ne.symm same] using found
      have apart : (u == v) = false := by simpa using same
      rw [List.erase_cons_tail (by simp [apart]), whiteWeight, whiteWeight, ← ih later]
      omega

/-- Every turn leaves fewer turns to take. -/
theorem weight_step_lt {next : String → List String} {s s' : Search} (moved : s.step next = .inl s') :
    s'.weight next < s.weight next := by
  obtain ⟨white, trail, black⟩ := s
  match trail, white with
  | [], [] => simp [step] at moved
  | [], root :: white =>
    simp only [step, Sum.inl.injEq] at moved
    subst moved
    simp only [weight, whiteWeight, Trail.weight]
    omega
  | (v, []) :: below, white =>
    simp only [step, Sum.inl.injEq] at moved
    subst moved
    simp [weight, Trail.weight]
  | (v, w :: rest) :: below, white =>
    simp only [step] at moved
    split at moved
    · cases moved
    · split at moved
      · rename_i found
        cases moved
        have lost := whiteWeight_erase next found
        simp only [weight, Trail.weight, List.length_cons]
        omega
      · cases moved
        simp [weight, Trail.weight]

/-- The search closes a cycle. -/
def closes (next : String → List String) (s : Search) : Bool :=
  match _moved : s.step next with
  | .inl s' => closes next s'
  | .inr found => found
termination_by s.weight next
decreasing_by exact weight_step_lt _moved

end Search

namespace Workflow

/-- The ends of the edges. -/
def edgeEnds (w : Workflow) : List String :=
  w.edges.flatMap fun e => [e.source, e.target]

/-- The vertices of the graph: the nodes, and whatever edges name besides them. -/
def vertices (w : Workflow) : List String :=
  (w.nodeIds ++ w.edgeEnds).eraseDups

/-- The search for a cycle before its first turn. -/
def search (w : Workflow) : Search :=
  ⟨w.vertices, [], []⟩

/-- The edges close a cycle. -/
def hasCycle (w : Workflow) : Bool :=
  w.search.closes w.successors

end Workflow

end WorkflowEngine
