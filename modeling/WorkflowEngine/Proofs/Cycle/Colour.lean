import Mathlib
import WorkflowEngine.Proofs.Cycle.Workflow

/-!
# The search in colours

The search for a cycle, told move by move.  Every vertex has a colour, walks begin at white vertices in
their order, and the stack holds the vertices under way, each with a cursor into the list of its
successors.  After any number of turns the sweep shows the state of the search, so both give the same
answer, and what holds of the one can be read off the other: the grey vertices are those on the stack,
which form a path, successors that were consumed are no longer white, and black vertices lead to black
ones alone.  No vertex is pushed twice.
-/

namespace WorkflowEngine

variable {next : String → List String} {vertices : List String}

/-- How far a sweep has come with a vertex. -/
inductive Colour where
  | white
  | grey
  | black
deriving Repr, DecidableEq, Inhabited

/-- A search for a cycle under way, told in colours. -/
structure Sweep where
  /-- Where walks may still begin. -/
  roots : List String
  colour : String → Colour
  /-- The vertices under way, the latest first, each with the number of its successors that were consumed. -/
  stack : List (String × Nat)
  /-- All vertices that were ever pushed, the latest first.  No turn looks at them. -/
  pushed : List String

/-- Every grey vertex but the first is a successor of the one that follows on the trail. -/
theorem Trail.Chained.isChain {trail : Trail} (chained : trail.Chained next) :
    (trail.map Prod.fst).IsChain fun upper lower => upper ∈ next lower := by
  induction trail with
  | nil => exact .nil
  | cons entry below ih =>
      cases below with
      | nil => exact .singleton _
      | cons lower below => exact .cons_cons chained.1 (ih chained.2)

namespace Sweep

/-- A vertex turns grey and goes onto the stack, with all of its successors ahead. -/
def push (s : Sweep) (v : String) : Sweep :=
  { s with colour := Function.update s.colour v .grey, stack := (v, 0) :: s.stack, pushed := v :: s.pushed }

/-- One turn: a walk begins at the next white root, or the vertex on top of the stack consumes its next
successor, or it has none left and turns black. -/
def step (next : String → List String) (s : Sweep) : Sweep ⊕ Bool :=
  match s.stack with
  | [] =>
    match s.roots.dropWhile fun v => s.colour v != .white with
    | [] => .inr false
    | root :: roots => .inl ({ s with roots := roots }.push root)
  | (v, taken) :: below =>
    match (next v)[taken]? with
    | none => .inl { s with colour := Function.update s.colour v .black, stack := below }
    | some w =>
      let s := { s with stack := (v, taken + 1) :: below }
      match s.colour w with
      | .grey => .inr true
      | .white => .inl (s.push w)
      | .black => .inl s

/-- The sweep after a number of turns, or its answer if it has given one by then. -/
def advance (next : String → List String) : Nat → Sweep → Sweep ⊕ Bool
  | 0, s => .inl s
  | turns + 1, s =>
    match s.step next with
    | .inl s' => advance next turns s'
    | .inr found => .inr found

/-- What holds at every turn of a sweep. -/
structure Invariant (next : String → List String) (s : Sweep) : Prop where
  /-- The grey vertices are those on the stack. -/
  grey : ∀ v, s.colour v = .grey ↔ v ∈ s.stack.map Prod.fst
  /-- An edge leads from every vertex on the stack to the one above it. -/
  joined : (s.stack.map Prod.fst).IsChain fun upper lower => upper ∈ next lower
  /-- Successors that were consumed are grey and on the stack, or black. -/
  consumed : ∀ entry ∈ s.stack, ∀ w ∈ (next entry.1).take entry.2,
    (s.colour w = .grey ∧ w ∈ s.stack.map Prod.fst) ∨ s.colour w = .black
  /-- The successors of black vertices are black. -/
  closed : ∀ v, s.colour v = .black → ∀ w ∈ next v, s.colour w = .black
  /-- No vertex was pushed twice. -/
  once : s.pushed.Nodup
  /-- The vertices that were pushed are those that are no longer white. -/
  entered : ∀ v, v ∈ s.pushed ↔ s.colour v ≠ .white

/-- A vertex on the stack with the successors ahead of its cursor. -/
def ahead (next : String → List String) (entry : String × Nat) : String × List String :=
  (entry.1, (next entry.1).drop entry.2)

/-- The sweep shows a search: its white roots, the successors ahead of its cursors, and its black vertices. -/
structure Shows (next : String → List String) (s : Sweep) (t : Search) : Prop where
  white : t.white = s.roots.filter fun v => s.colour v == .white
  trail : t.trail = s.stack.map (ahead next)
  black : ∀ v, v ∈ t.black ↔ s.colour v = .black

/-- The sweep keeps in step with a search. -/
structure InStep (next : String → List String) (vertices : List String) (s : Sweep) (t : Search) : Prop
    extends Shows next s t where
  kept : t.Invariant next vertices
  grey : ∀ v, s.colour v = .grey ↔ v ∈ s.stack.map Prod.fst
  consumed : ∀ entry ∈ s.stack, ∀ w ∈ (next entry.1).take entry.2, s.colour w ≠ .white
  once : s.pushed.Nodup
  entered : ∀ v, v ∈ s.pushed ↔ s.colour v ≠ .white

/-- Dropping what fails a test at the front loses nothing that passes it. -/
theorem filter_dropWhile_not {α : Type} (test : α → Bool) (l : List α) :
    (l.dropWhile fun a => !test a).filter test = l.filter test := by
  induction l with
  | nil => rfl
  | cons a l ih =>
      by_cases passed : test a = true
      · simp [passed]
      · simpa [passed] using ih

/-- Of vertices that are white once each, a vertex that turns grey is lost alone. -/
theorem filter_grey (colour : String → Colour) (u : String) {names : List String}
    (alone : (names.filter fun v => colour v == .white).Nodup) :
    (names.filter fun v => Function.update colour u .grey v == .white) =
      (names.filter fun v => colour v == .white).erase u := by
  rw [alone.erase_eq_filter, List.filter_filter]
  refine List.filter_congr fun v _ => ?_
  by_cases same : v = u
  · subst same
    simp
  · simp [same]

namespace InStep

variable {s : Sweep} {t : Search} {v w u : String} {taken : Nat} {below stack : List (String × Nat)}
  {roots : List String}

theorem names (both : InStep next vertices s t) : t.trail.map Prod.fst = s.stack.map Prod.fst := by
  rw [both.trail, List.map_map]
  rfl

/-- Every vertex has one place. -/
theorem nodup (both : InStep next vertices s t) (distinct : vertices.Nodup) :
    t.white.Nodup ∧ (s.stack.map Prod.fst).Nodup := by
  have all := both.kept.partition.nodup_iff.mpr distinct
  rw [List.nodup_append, List.nodup_append, both.names] at all
  exact ⟨all.1, all.2.1.1⟩

/-- White vertices are those at which walks may still begin. -/
theorem mem_white_iff (both : InStep next vertices s t) (known : v ∈ vertices) :
    v ∈ t.white ↔ s.colour v = .white := by
  constructor
  · intro pale
    rw [both.white, List.mem_filter] at pale
    exact beq_iff_eq.mp pale.2
  · intro pale
    have member := both.kept.partition.mem_iff.mpr known
    rw [both.names, List.mem_append, List.mem_append, ← both.grey, both.black, pale] at member
    simpa using member

/-- A white vertex is pushed onto a stack with the same vertices, where it may be what was consumed last. -/
theorem push (both : InStep next vertices s t) (pale : s.colour u = .white)
    (same : stack.map Prod.fst = s.stack.map Prod.fst)
    (eaten : ∀ entry ∈ stack, ∀ w ∈ (next entry.1).take entry.2, s.colour w ≠ .white ∨ w = u)
    {white : List String} (left : white = roots.filter fun v => Function.update s.colour u .grey v == .white)
    (kept : Search.Invariant next vertices
      ⟨white, (u, next u) :: stack.map (ahead next), t.black⟩) :
    InStep next vertices (Sweep.push { s with roots := roots, stack := stack } u)
      ⟨white, (u, next u) :: stack.map (ahead next), t.black⟩ where
  kept := kept
  white := left
  trail := rfl
  black := by
    intro v
    rw [both.black]
    by_cases top : v = u
    · subst top
      simp [Sweep.push, pale]
    · simp [Sweep.push, top]
  grey := by
    intro v
    have others := both.grey v
    by_cases top : v = u
    · subst top
      simp [Sweep.push]
    · rw [← same] at others
      simpa [Sweep.push, top] using others
  consumed := by
    intro entry listed w behind
    rcases List.mem_cons.mp listed with rfl | listed
    · cases behind
    · by_cases top : w = u
      · subst top
        simp [Sweep.push]
      · have dark := (eaten entry listed w behind).resolve_right top
        simpa [Sweep.push, top] using dark
  once := by
    refine List.nodup_cons.mpr ⟨fun again => ?_, both.once⟩
    exact (both.entered u).mp again pale
  entered := by
    intro v
    have others := both.entered v
    by_cases top : v = u
    · subst top
      simp [Sweep.push]
    · simpa [Sweep.push, top] using others

/-- Without a white root the search is over. -/
theorem finish (both : InStep next vertices s t) (empty : s.stack = [])
    (spent : (s.roots.dropWhile fun v => s.colour v != .white) = []) : t.step next = .inr false := by
  have white : t.white = [] := by
    rw [both.white, ← filter_dropWhile_not]
    exact (congrArg _ spent).trans rfl
  have trail : t.trail = [] := by rw [both.trail, empty]; rfl
  simp only [Search.step, trail, white]

/-- A successor ahead is a vertex. -/
theorem known (both : InStep next vertices s t) (closed : ∀ a ∈ vertices, ∀ b ∈ next a, b ∈ vertices)
    (top : s.stack = (v, taken) :: below) (coming : (next v)[taken]? = some w) : w ∈ vertices := by
  have under : v ∈ vertices := by
    refine both.kept.partition.mem_iff.mp (List.mem_append_right _ (List.mem_append_left _ ?_))
    rw [both.names, top]
    exact List.mem_cons_self
  exact closed v under w (List.mem_of_getElem? coming)

/-- What was consumed from a cursor that moves on over a vertex. -/
theorem consumed_succ (both : InStep next vertices s t) (top : s.stack = (v, taken) :: below)
    (coming : (next v)[taken]? = some w) :
    ∀ entry ∈ (v, taken + 1) :: below, ∀ u ∈ (next entry.1).take entry.2, s.colour u ≠ .white ∨ u = w := by
  intro entry listed u behind
  rcases List.mem_cons.mp listed with rfl | listed
  · rw [List.take_add_one, coming, List.mem_append] at behind
    rcases behind with before | now
    · exact .inl (both.consumed (v, taken) (by rw [top]; exact List.mem_cons_self) u before)
    · exact .inr (by simpa using now)
  · exact .inl (both.consumed entry (by rw [top]; exact List.mem_cons_of_mem _ listed) u behind)

/-- The trail where the cursor on top stands before a successor. -/
theorem trail_eq (both : InStep next vertices s t) (top : s.stack = (v, taken) :: below)
    (coming : (next v)[taken]? = some w) :
    t.trail = (v, w :: (next v).drop (taken + 1)) :: below.map (ahead next) := by
  obtain ⟨within, stands⟩ := List.getElem?_eq_some_iff.mp coming
  rw [both.trail, top, List.map_cons, ahead, List.drop_eq_getElem_cons within, stands]

/-- A cursor that moves on leaves the grey vertices on the trail. -/
theorem holds_iff_grey (both : InStep next vertices s t) (top : s.stack = (v, taken) :: below) (rest : List String) :
    Trail.holds ((v, rest) :: below.map (ahead next)) w = true ↔ s.colour w = .grey := by
  rw [Trail.holds_iff, both.grey, top, List.map_cons, List.map_cons, List.map_map]
  rfl

/-- A grey successor closes a cycle. -/
theorem close (both : InStep next vertices s t) (top : s.stack = (v, taken) :: below)
    (coming : (next v)[taken]? = some w) (mark : s.colour w = .grey) : t.step next = .inr true := by
  simp only [Search.step, both.trail_eq top coming]
  exact if_pos ((both.holds_iff_grey top _).mpr mark)

/-- A black successor is passed over. -/
theorem pass (both : InStep next vertices s t) (closed : ∀ a ∈ vertices, ∀ b ∈ next a, b ∈ vertices)
    (top : s.stack = (v, taken) :: below) (coming : (next v)[taken]? = some w) (dark : s.colour w = .black) :
    ∃ t', t.step next = .inl t' ∧ InStep next vertices { s with stack := (v, taken + 1) :: below } t' := by
  have gone : w ∉ t.white := by
    rw [both.mem_white_iff (both.known closed top coming), dark]
    exact Colour.noConfusion
  have moved : t.step next = .inl ⟨t.white, ((v, taken + 1) :: below).map (ahead next), t.black⟩ := by
    simp only [Search.step, both.trail_eq top coming]
    rw [if_neg (by simp [both.holds_iff_grey top, dark]), if_neg gone]
    rfl
  refine ⟨_, moved, ?_⟩
  exact {
    kept := both.kept.step closed moved
    white := both.white
    trail := rfl
    black := both.black
    grey := by
      intro u
      rw [both.grey, top]
      rfl
    consumed := by
      intro entry listed u behind
      rcases both.consumed_succ top coming entry listed u behind with old | rfl
      · exact old
      · rw [dark]
        exact Colour.noConfusion
    once := both.once
    entered := both.entered }

section Moves

variable (distinct : vertices.Nodup) (closed : ∀ a ∈ vertices, ∀ b ∈ next a, b ∈ vertices)

include distinct closed

/-- A walk begins at the next white root. -/
theorem begin (both : InStep next vertices s t) (empty : s.stack = []) {root : String}
    (found : (s.roots.dropWhile fun v => s.colour v != .white) = root :: roots) :
    ∃ t', t.step next = .inl t' ∧
      InStep next vertices (Sweep.push { s with roots := roots, stack := [] } root) t' := by
  have split : t.white = (root :: roots).filter fun v => s.colour v == .white := by
    rw [both.white, ← found]
    exact (filter_dropWhile_not _ _).symm
  have pale : s.colour root = .white := by
    have first := List.head?_dropWhile_not (fun v => s.colour v != .white) s.roots
    simpa [found] using first
  have trail : t.trail = [] := by rw [both.trail, empty]; rfl
  rw [List.filter_cons_of_pos (by simpa using pale)] at split
  have moved : t.step next = .inl ⟨roots.filter fun v => s.colour v == .white, [(root, next root)], t.black⟩ := by
    simp only [Search.step, trail, split]
  have alone := (both.nodup distinct).1
  rw [split, ← List.filter_cons_of_pos (by simpa using pale)] at alone
  have left : (roots.filter fun v => s.colour v == .white) =
      roots.filter fun v => Function.update s.colour root .grey v == .white := by
    have lost := filter_grey s.colour root alone
    rw [List.filter_cons_of_neg (by simp), List.filter_cons_of_pos (by simpa using pale),
      List.erase_cons_head] at lost
    exact lost.symm
  exact ⟨_, moved, both.push pale (by rw [empty]) (by simp) left (both.kept.step closed moved)⟩

/-- The vertex on top has no successor left and turns black. -/
theorem leave (both : InStep next vertices s t) (top : s.stack = (v, taken) :: below)
    (spent : (next v)[taken]? = none) :
    ∃ t', t.step next = .inl t' ∧
      InStep next vertices { s with colour := Function.update s.colour v .black, stack := below } t' := by
  have trail : t.trail = (v, []) :: below.map (ahead next) := by
    rw [both.trail, top, List.map_cons, ahead, List.drop_eq_nil_of_le (List.getElem?_eq_none_iff.mp spent)]
  have moved : t.step next = .inl ⟨t.white, below.map (ahead next), v :: t.black⟩ := by
    simp only [Search.step, trail]
  have apart : v ∉ below.map Prod.fst := by
    have alone := (both.nodup distinct).2
    rw [top] at alone
    exact (List.nodup_cons.mp alone).1
  have mark : s.colour v = .grey := (both.grey v).mpr (by rw [top]; exact List.mem_cons_self)
  -- The vertex was grey before, so the white vertices are the same as they were.
  have paler (u : String) : Function.update s.colour v .black u = .white ↔ s.colour u = .white := by
    by_cases same : u = v
    · subst same
      simp [mark]
    · simp [same]
  refine ⟨_, moved, ?_⟩
  exact {
    kept := both.kept.step closed moved
    trail := rfl
    white := by
      rw [both.white]
      refine List.filter_congr fun u _ => ?_
      rw [Bool.eq_iff_iff, beq_iff_eq, beq_iff_eq]
      exact (paler u).symm
    black := by
      intro u
      rw [List.mem_cons, both.black]
      by_cases same : u = v
      · simp [same]
      · simp [same]
    grey := by
      intro u
      have old := both.grey u
      rw [top, List.map_cons, List.mem_cons] at old
      by_cases same : u = v
      · subst same
        simpa using apart
      · simpa [same] using old
    consumed := by
      intro entry listed w behind
      rw [ne_eq, paler]
      exact both.consumed entry (by rw [top]; exact List.mem_cons_of_mem _ listed) w behind
    once := both.once
    entered := fun u => (both.entered u).trans (not_congr (paler u)).symm }

/-- A white successor is pushed. -/
theorem descend (both : InStep next vertices s t) (top : s.stack = (v, taken) :: below)
    (coming : (next v)[taken]? = some w) (pale : s.colour w = .white) :
    ∃ t', t.step next = .inl t' ∧
      InStep next vertices (Sweep.push { s with stack := (v, taken + 1) :: below } w) t' := by
  have found : w ∈ t.white := (both.mem_white_iff (both.known closed top coming)).mpr pale
  have moved : t.step next = .inl ⟨t.white.erase w, (w, next w) ::
      ((v, taken + 1) :: below).map (ahead next), t.black⟩ := by
    simp only [Search.step, both.trail_eq top coming]
    rw [if_neg (by simp [both.holds_iff_grey top, pale]), if_pos found]
    rfl
  have left : t.white.erase w = s.roots.filter fun v => Function.update s.colour w .grey v == .white := by
    have alone := (both.nodup distinct).1
    rw [both.white] at alone ⊢
    exact (filter_grey s.colour w alone).symm
  refine ⟨_, moved, both.push pale ?_ (both.consumed_succ top coming) left (both.kept.step closed moved)⟩
  rw [top]
  rfl

/-- In one turn the sweep and the search stay in step, or they give the same answer. -/
theorem step (both : InStep next vertices s t) :
    Sum.LiftRel (InStep next vertices) Eq (s.step next) (t.step next) := by
  unfold Sweep.step
  cases top : s.stack with
  | nil =>
      dsimp only
      cases found : s.roots.dropWhile fun v => s.colour v != .white with
      | nil =>
          rw [both.finish top found]
          exact .inr rfl
      | cons root roots =>
          obtain ⟨t', moved, after⟩ := both.begin distinct closed top found
          rw [moved]
          exact .inl after
  | cons entry below =>
      obtain ⟨v, taken⟩ := entry
      dsimp only
      cases coming : (next v)[taken]? with
      | none =>
          obtain ⟨t', moved, after⟩ := both.leave distinct closed top coming
          rw [moved]
          exact .inl after
      | some w =>
          dsimp only
          cases mark : s.colour w with
          | grey =>
              rw [both.close top coming mark]
              exact .inr rfl
          | white =>
              obtain ⟨t', moved, after⟩ := both.descend distinct closed top coming mark
              rw [moved]
              exact .inl after
          | black =>
              obtain ⟨t', moved, after⟩ := both.pass closed top coming mark
              rw [moved]
              exact .inl after

/-- So they do in any number of turns. -/
theorem advance (both : InStep next vertices s t) (turns : Nat) :
    Sum.LiftRel (InStep next vertices) Eq (s.advance next turns) (t.advance next turns) := by
  induction turns generalizing s t with
  | zero => exact .inl both
  | succ turns ih =>
      have moved := both.step distinct closed
      unfold Sweep.advance Search.advance
      generalize s.step next = left, t.step next = right at moved ⊢
      cases moved with
      | inl after => exact ih after
      | inr same => exact .inr same

end Moves

/-- What keeps in step with a search has its invariant in colours. -/
theorem invariant (both : InStep next vertices s t) : s.Invariant next where
  grey := both.grey
  joined := both.names ▸ both.kept.chained.isChain
  consumed := by
    intro entry listed w behind
    have known := both.consumed entry listed w behind
    cases mark : s.colour w with
    | white => exact absurd mark known
    | grey => exact .inl ⟨rfl, (both.grey w).mp mark⟩
    | black => exact .inr rfl
  closed := by
    intro v dark w edge
    rw [← both.black] at dark ⊢
    exact both.kept.sorted.closed dark edge
  once := both.once
  entered := both.entered

end InStep

/-- A sweep over vertices that are all white, and the search before its first turn. -/
theorem inStep_start (next : String → List String) (vertices : List String) :
    InStep next vertices ⟨vertices, fun _ => .white, [], []⟩ ⟨vertices, [], []⟩ where
  kept := Search.invariant_start next vertices
  white := (List.filter_eq_self.mpr fun _ _ => rfl).symm
  trail := rfl
  black := by simp
  grey := by simp
  consumed := by simp
  once := List.nodup_nil
  entered := by simp

end Sweep

namespace Search

/-- An answer that is given is the answer of the search. -/
theorem closes_of_advance {turns : Nat} {s : Search} {found : Bool} (answered : s.advance next turns = .inr found) :
    s.closes next = found := by
  induction turns generalizing s with
  | zero => cases answered
  | succ turns ih =>
      unfold advance at answered
      unfold closes
      cases moved : s.step next with
      | inl s' =>
          rw [moved] at answered
          exact ih answered
      | inr found =>
          rw [moved] at answered
          exact Sum.inr.inj answered

end Search

namespace Workflow

/-- The sweep for a cycle before its first turn. -/
def sweep (w : Workflow) : Sweep :=
  ⟨w.vertices, fun _ => .white, [], []⟩

/-- After any number of turns, the sweep and the search of a workflow are in step. -/
theorem sweep_inStep (w : Workflow) (turns : Nat) : Sum.LiftRel (Sweep.InStep w.successors w.vertices) Eq
    (w.sweep.advance w.successors turns) (w.search.advance w.successors turns) := by
  refine (Sweep.inStep_start w.successors w.vertices).advance (nodup_eraseDups _) ?_ turns
  exact fun a _ b edge => (mem_vertices_of_joins (mem_successors_iff.mp edge)).2

/-- After any number of turns, either the invariant holds and the sweep shows the search after as many turns,
or the sweep has given the answer whether there is a cycle; and it gives the answer within a number of turns
linear in the size of the graph. -/
theorem sweep_invariant (w : Workflow) :
    (∀ turns, match w.sweep.advance w.successors turns with
      | .inl s => s.Invariant w.successors ∧
          ∃ t, w.search.advance w.successors turns = .inl t ∧ s.Shows w.successors t
      | .inr found => found = w.hasCycle) ∧
    ∃ turns ≤ w.edges.length + 2 * w.vertices.length + 1,
      w.sweep.advance w.successors turns = .inr w.hasCycle := by
  refine ⟨fun turns => ?_, ?_⟩
  · have both := w.sweep_inStep turns
    have answers (found : Bool) : w.search.advance w.successors turns = .inr found → found = w.hasCycle :=
      fun answered => (Search.closes_of_advance answered).symm
    generalize w.sweep.advance w.successors turns = left, w.search.advance w.successors turns = right at both answers ⊢
    cases both with
    | inl both => exact ⟨both.invariant, _, rfl, both.toShows⟩
    | inr same => exact answers _ (congrArg _ same.symm)
  · obtain ⟨turns, bound, answered⟩ := Search.exists_advance_eq_closes w.successors w.search
    have light := w.weight_search_le
    have both := w.sweep_inStep turns
    rw [answered] at both
    refine ⟨turns, by omega, ?_⟩
    generalize w.sweep.advance w.successors turns = outcome at both
    cases both with
    | inr same => exact congrArg _ same

end Workflow

end WorkflowEngine
