import WorkflowEngine.Engine.Run

/-!
# The order of a walk

A walk with a list of what is pending goes the same way as the recursive exploration in depth: it takes
the same steps, on the same inputs and in the same states, and it ends in the same state for the same
reason.  The list is the stack of the recursion: what stands in front is explored before the rest.
-/

namespace WorkflowEngine

variable {σ ε α : Type}

/-- A step of a walk: the node, its input, and the state in which the step begins. -/
structure NodeStep (σ α : Type) where
  node : Node
  input : α
  before : σ

/-- How a part of a walk goes: what it leaves of the limit, unless the walk ends in it, the state it leads
to, and its steps in order. -/
structure Course (σ ε α : Type) (limit : Nat) where
  left : Except (Ending ε) { n : Nat // n ≤ limit }
  after : σ
  steps : List (NodeStep σ α)

namespace Course

/-- The course behind steps that are already taken, seen from a larger limit. -/
def behind {small large : Nat} (taken : List (NodeStep σ α)) (le : small ≤ large) (c : Course σ ε α small) :
    Course σ ε α large where
  left := c.left.map fun n => ⟨n.1, Nat.le_trans n.2 le⟩
  after := c.after
  steps := taken ++ c.steps

/-- How the walk ends if nothing comes after the course. -/
def ending {limit : Nat} (c : Course σ ε α limit) : Ending ε :=
  match c.left with
  | .ok _ => .exhausted
  | .error e => e

end Course

namespace Guide

mutual

/-- Visits a node and, unless it ends there, explores the nodes after it, one after the other, each with the
input that was made for it when the node was done. -/
def explore (g : Guide σ ε α) (limit : Nat) (id : String) (input : α) (s : σ) : Course σ ε α limit :=
  match g.workflow.node? id with
  | none => ⟨.error (.missing id), s, []⟩
  | some n =>
    match limit with
    | 0 => ⟨.error .exceeded, s, []⟩
    | limit + 1 =>
      match g.visit n input s with
      | (.ended, after) => ⟨.ok ⟨limit, Nat.le_succ limit⟩, after, [⟨n, input, s⟩]⟩
      | (.stopped e, after) => ⟨.error (.stopped e), after, [⟨n, input, s⟩]⟩
      | (.onward output chosen, after) =>
        match g.spread output (g.targets n chosen) after with
        | (.error e, after) => ⟨.error (.stopped e), after, [⟨n, input, s⟩]⟩
        | (.ok inputs, after) => (exploreAll g limit inputs after).behind [⟨n, input, s⟩] (Nat.le_succ limit)
termination_by (limit, 0)

/-- Explores nodes one after the other. -/
def exploreAll (g : Guide σ ε α) (limit : Nat) (inputs : List (String × α)) (s : σ) : Course σ ε α limit :=
  match inputs with
  | [] => ⟨.ok ⟨limit, Nat.le_refl limit⟩, s, []⟩
  | (id, input) :: rest =>
    match explore g limit id input s with
    | ⟨.error e, after, steps⟩ => ⟨.error e, after, steps⟩
    | ⟨.ok ⟨left, le⟩, after, steps⟩ => (exploreAll g left rest after).behind steps le
termination_by (limit, inputs.length + 1)
decreasing_by
  · exact Prod.Lex.right _ (Nat.succ_pos _)
  · rcases Nat.lt_or_eq_of_le le with less | same
    · exact Prod.Lex.left _ _ less
    · exact same ▸ Prod.Lex.right _ (by simp)

end

/-- The guide that keeps the steps of the walk as well, the latest first. -/
def recording (g : Guide σ ε α) : Guide (σ × List (NodeStep σ α)) ε α where
  workflow := g.workflow
  visit n input s := ((g.visit n input s.1).1, (g.visit n input s.1).2, ⟨n, input, s.1⟩ :: s.2)
  spread output ids s := ((g.spread output ids s.1).1, (g.spread output ids s.1).2, s.2)

section Recording

variable {g : Guide σ ε α} {n : Node} {input output : α} {s t : σ} {ids : List String}

theorem recording_visit {p : Passage ε α} (visited : g.visit n input s = (p, t)) (done : List (NodeStep σ α)) :
    g.recording.visit n input (s, done) = (p, t, ⟨n, input, s⟩ :: done) := by
  simp only [recording, visited]

theorem recording_spread {given : Except ε (List (String × α))} (spread : g.spread output ids s = (given, t))
    (done : List (NodeStep σ α)) : g.recording.spread output ids (s, done) = (given, t, done) := by
  simp only [recording, spread]

end Recording

/-- Keeping the steps does not change where a walk goes. -/
theorem walk_recording (g : Guide σ ε α) (limit : Nat) (pending : List (String × α)) (s : σ)
    (done : List (NodeStep σ α)) :
    ∃ taken, g.recording.walk limit pending (s, done) =
      ((g.walk limit pending s).1, (g.walk limit pending s).2, taken) := by
  induction limit, pending, s using walk.induct g generalizing done with
  | case1 limit s => exact ⟨done, by rw [walk_nil, walk_nil]⟩
  | case2 limit s id input rest absent =>
      exact ⟨done, by rw [walk_missing absent, walk_missing (g := g.recording) absent]⟩
  | case3 s id input rest n found =>
      exact ⟨done, by rw [walk_exceeded found, walk_exceeded (g := g.recording) found]⟩
  | case4 s id input rest n found limit t visited ih =>
      rw [walk_ended found visited, walk_ended (g := g.recording) found (recording_visit visited done)]
      exact ih _
  | case5 s id input rest n found limit e t visited =>
      rw [walk_stopped found visited, walk_stopped (g := g.recording) found (recording_visit visited done)]
      exact ⟨_, rfl⟩
  | case6 s id input rest n found limit output chosen t visited e u given =>
      rw [walk_onward_error found visited given, walk_onward_error (g := g.recording) found
        (recording_visit visited done) (recording_spread given _)]
      exact ⟨_, rfl⟩
  | case7 s id input rest n found limit output chosen t visited inputs u given ih =>
      rw [walk_onward_ok found visited given, walk_onward_ok (g := g.recording) found
        (recording_visit visited done) (recording_spread given _)]
      exact ih _

/-- The steps of a walk, in order. -/
def steps (g : Guide σ ε α) (limit : Nat) (pending : List (String × α)) (s : σ) : List (NodeStep σ α) :=
  (g.recording.walk limit pending (s, [])).2.2.reverse

end Guide

namespace Course

/-- What a walk that keeps its steps comes to when it goes on behind a course. -/
def resume {limit : Nat} (c : Course σ ε α limit) (g : Guide σ ε α) (rest : List (String × α))
    (done : List (NodeStep σ α)) : Ending ε × σ × List (NodeStep σ α) :=
  match c.left with
  | .error e => (e, c.after, c.steps.reverse ++ done)
  | .ok n => g.recording.walk n.1 rest (c.after, c.steps.reverse ++ done)

theorem resume_behind {small large : Nat} (taken : List (NodeStep σ α)) (le : small ≤ large)
    (c : Course σ ε α small) (g : Guide σ ε α) (rest : List (String × α)) (done : List (NodeStep σ α)) :
    (c.behind taken le).resume g rest done = c.resume g rest (taken.reverse ++ done) := by
  obtain ⟨left, after, steps⟩ := c
  cases left <;> simp [behind, resume, Except.map]

end Course

namespace Guide

/-- What stands in front of a list is explored as a whole before the rest is walked. -/
theorem recording_walk_append (g : Guide σ ε α) :
    (∀ limit id input s rest done, g.recording.walk limit ((id, input) :: rest) (s, done) =
      (g.explore limit id input s).resume g rest done) ∧
    (∀ limit inputs s rest done, g.recording.walk limit (inputs ++ rest) (s, done) =
      (g.exploreAll limit inputs s).resume g rest done) := by
  apply explore.mutual_induct g
    (fun limit id input s => ∀ rest done, g.recording.walk limit ((id, input) :: rest) (s, done) =
      (g.explore limit id input s).resume g rest done)
    (fun limit inputs s => ∀ rest done, g.recording.walk limit (inputs ++ rest) (s, done) =
      (g.exploreAll limit inputs s).resume g rest done)
  case case1 =>
      intro limit id input s absent rest done
      rw [explore, absent, walk_missing (g := g.recording) absent]
      rfl
  case case2 =>
      intro id input s n found rest done
      rw [explore, found, walk_exceeded (g := g.recording) found]
      rfl
  case case3 =>
      intro id input s n found limit t visited rest done
      rw [explore, found, walk_ended (g := g.recording) found (recording_visit visited done)]
      simp only [visited]
      rfl
  case case4 =>
      intro id input s n found limit e t visited rest done
      rw [explore, found, walk_stopped (g := g.recording) found (recording_visit visited done)]
      simp only [visited]
      rfl
  case case5 =>
      intro id input s n found limit output chosen t visited e u given rest done
      rw [explore, found, walk_onward_error (g := g.recording) found (recording_visit visited done)
        (recording_spread given _)]
      simp only [visited, given]
      rfl
  case case6 =>
      intro id input s n found limit output chosen t visited inputs u given ih rest done
      rw [explore, found, walk_onward_ok (g := g.recording) found (recording_visit visited done)
        (recording_spread given _), ih]
      simp only [visited, given, Course.resume_behind]
      rfl
  case case7 =>
      intro limit s rest done
      rw [exploreAll, List.nil_append]
      rfl
  case case8 =>
      intro limit s id input inputs e t steps explored ih rest done
      rw [exploreAll, explored, List.cons_append, ih, explored]
      rfl
  case case9 =>
      intro limit s id input inputs left le t steps explored ihFirst ihRest rest done
      rw [exploreAll, explored, List.cons_append, ihFirst, explored]
      simp only [Course.resume_behind, ← ihRest]
      rfl

/-- A walk is the exploration of what is pending: it has the same steps and the same end. -/
theorem walk_eq_exploreAll (g : Guide σ ε α) (limit : Nat) (pending : List (String × α)) (s : σ) :
    g.walk limit pending s = ((g.exploreAll limit pending s).ending, (g.exploreAll limit pending s).after) ∧
      g.steps limit pending s = (g.exploreAll limit pending s).steps := by
  have whole := (recording_walk_append g).2 limit pending s [] []
  rw [List.append_nil] at whole
  have resumed : (g.exploreAll limit pending s).resume g [] [] =
      ((g.exploreAll limit pending s).ending, (g.exploreAll limit pending s).after,
        (g.exploreAll limit pending s).steps.reverse) := by
    obtain ⟨left, after, taken⟩ := g.exploreAll limit pending s
    cases left with
    | error e => rw [Course.resume, List.append_nil]; rfl
    | ok n => rw [Course.resume]; simp only [walk_nil, List.append_nil]; rfl
  obtain ⟨taken, kept⟩ := walk_recording g limit pending s []
  rw [resumed] at whole
  rw [whole, Prod.mk.injEq, Prod.mk.injEq] at kept
  refine ⟨Prod.ext kept.1.symm kept.2.1.symm, ?_⟩
  rw [steps, whole, List.reverse_reverse]

end Guide

end WorkflowEngine

/-!
## The walk of a run

The walk of a run explores its triggers in the order of the definition, each with a copy of the input.
What a step at a node does to the scene is left open, so this holds of every behaviour of the nodes, and
of a definition that stops at a failure as well as of one that goes on.
-/

namespace WorkflowEngine.Order

/-- Explores the workflow from its triggers, each with a copy of the input, where nodes do the given tasks. -/
def explore (o : Order) (task : Node → Value → Act Product) (payload : Value) (s : Scene) :
    Course Scene RunFailure Value o.limit.toNat :=
  match Scene.copies payload [] s.heap (o.workflow.triggers.map Node.id) with
  | (.error f, h) => ⟨.error (.stopped (.ofFault f)), { s with heap := h }, []⟩
  | (.ok inputs, h) => (o.guide task).exploreAll o.limit.toNat inputs { s with heap := h }

/-- The steps of the walk, in order. -/
def steps (o : Order) (task : Node → Value → Act Product) (payload : Value) (s : Scene) :
    List (NodeStep Scene Value) :=
  match Scene.copies payload [] s.heap (o.workflow.triggers.map Node.id) with
  | (.error _, _) => []
  | (.ok pending, h) => (o.guide task).steps o.limit.toNat pending { s with heap := h }

/-- The walk with its list of what is pending takes the steps of the recursive exploration, on the same
inputs and in the same scenes, and it ends in the same scene for the same reason. -/
theorem walkWith_eq_explore (o : Order) (task : Node → Value → Act Product) (payload : Value) (s : Scene) :
    o.walkWith task payload s = ((o.explore task payload s).ending, (o.explore task payload s).after) ∧
      o.steps task payload s = (o.explore task payload s).steps := by
  rw [walkWith, explore, steps]
  rcases Scene.copies payload [] s.heap (o.workflow.triggers.map Node.id) with ⟨given, h⟩
  cases given with
  | error f => exact ⟨rfl, rfl⟩
  | ok inputs => exact (o.guide task).walk_eq_exploreAll o.limit.toNat inputs { s with heap := h }

end WorkflowEngine.Order
