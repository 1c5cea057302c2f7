import Mathlib.Logic.Relation
import WorkflowEngine.Validation.Cycle

/-!
# The search for a cycle

The invariant of the search: every vertex is white, grey or black, the grey vertices form a path, what
was looked at from a grey vertex is black or stands above it on the trail, and the black vertices stand
in topological order.  A search that starts with the vertices all white therefore answers yes exactly
when there is a cycle, and it answers within the number of turns that its weight gives.
-/

namespace WorkflowEngine

variable {next : String → List String} {vertices : List String}

/-- A vertex leads back to itself. -/
def Cyclic (next : String → List String) : Prop :=
  ∃ v, Relation.TransGen (fun a b => b ∈ next a) v v

/-- The successors of every vertex stand behind it. -/
def Topological (next : String → List String) : List String → Prop
  | [] => True
  | v :: older => (∀ w ∈ next v, w ∈ older) ∧ Topological next older

namespace Topological

/-- Successors of listed vertices are listed. -/
theorem closed {order : List String} (sorted : Topological next order) {v w : String}
    (listed : v ∈ order) (edge : w ∈ next v) : w ∈ order := by
  induction order with
  | nil => cases listed
  | cons u older ih =>
      rcases List.mem_cons.mp listed with rfl | later
      · exact List.mem_cons_of_mem _ (sorted.1 w edge)
      · exact List.mem_cons_of_mem _ (ih sorted.2 later)

/-- Whatever is reached from a listed vertex is listed. -/
theorem closed_transGen {order : List String} (sorted : Topological next order) {v w : String}
    (listed : v ∈ order) (path : Relation.TransGen (fun a b => b ∈ next a) v w) : w ∈ order := by
  induction path with
  | single edge => exact sorted.closed listed edge
  | tail _ edge ih => exact sorted.closed ih edge

/-- No listed vertex leads back to itself. -/
theorem irreflexive {order : List String} (sorted : Topological next order) {v : String}
    (listed : v ∈ order) : ¬ Relation.TransGen (fun a b => b ∈ next a) v v := by
  intro path
  induction order with
  | nil => cases listed
  | cons u older ih =>
      -- The way back leads through the vertices behind, which it never leaves again.
      have behind : v ∈ older := by
        rcases List.mem_cons.mp listed with rfl | later
        · obtain ⟨w, edge, rest⟩ := Relation.TransGen.head'_iff.mp path
          have start := sorted.1 w edge
          rcases Relation.reflTransGen_iff_eq_or_transGen.mp rest with same | rest
          · exact same ▸ start
          · exact sorted.2.closed_transGen start rest
        · exact later
      exact ih sorted.2 behind

end Topological

namespace Trail

/-- Every grey vertex but the first is a successor of the one below it. -/
def Chained (next : String → List String) : Trail → Prop
  | [] => True
  | [_] => True
  | (w, _) :: (v, rest) :: below => w ∈ next v ∧ Chained next ((v, rest) :: below)

/-- What was looked at from a grey vertex is black, or it is the vertex above. -/
def Settled (next : String → List String) (black : List String) : Option String → Trail → Prop
  | _, [] => True
  | above, (v, rest) :: below =>
      (∀ w ∈ next v, w ∈ rest ∨ w ∈ black ∨ above = some w) ∧ Settled next black (some v) below

theorem holds_iff {t : Trail} {v : String} : t.holds v = true ↔ v ∈ t.map Prod.fst := by
  simp [holds]

theorem Chained.below {entry : String × List String} {below : Trail}
    (chained : Chained next (entry :: below)) : Chained next below := by
  cases below with
  | nil => trivial
  | cons lower below => exact chained.2

/-- What is left at the top of the trail does not matter to its shape. -/
theorem Chained.retop {v : String} {rest rest' : List String} {below : Trail}
    (chained : Chained next ((v, rest) :: below)) : Chained next ((v, rest') :: below) := by
  cases below with
  | nil => trivial
  | cons lower below => exact chained

/-- Every grey vertex leads to the top of the trail. -/
theorem Chained.reaches {v : String} {rest : List String} {below : Trail}
    (chained : Chained next ((v, rest) :: below)) {u : String} (grey : u ∈ below.map Prod.fst) :
    Relation.TransGen (fun a b => b ∈ next a) u v := by
  induction below generalizing v rest with
  | nil => cases grey
  | cons lower below ih =>
      obtain ⟨v', rest'⟩ := lower
      have edge : v ∈ next v' := chained.1
      rcases List.mem_cons.mp grey with same | deeper
      · exact .single (same ▸ edge)
      · exact .tail (ih chained.2 deeper) edge

/-- More black vertices, and another vertex above, do no harm. -/
theorem Settled.mono {black black' : List String} {above above' : Option String} {t : Trail}
    (settled : Settled next black above t) (more : ∀ v ∈ black, v ∈ black')
    (kept : ∀ v, above = some v → v ∈ black' ∨ above' = some v) : Settled next black' above' t := by
  induction t generalizing above above' with
  | nil => trivial
  | cons entry below ih =>
      obtain ⟨v, rest⟩ := entry
      refine ⟨?_, ih settled.2 fun u same => .inr same⟩
      intro w edge
      rcases settled.1 w edge with left | dark | top
      · exact .inl left
      · exact .inr (.inl (more w dark))
      · exact .inr (kept w top)

end Trail

namespace Search

/-- What holds at every turn of a search over some vertices. -/
structure Invariant (next : String → List String) (vertices : List String) (s : Search) : Prop where
  /-- Every vertex is white, grey or black, and only one of these. -/
  partition : (s.white ++ (s.trail.map Prod.fst ++ s.black)).Perm vertices
  chained : s.trail.Chained next
  /-- What is still to be looked at are successors. -/
  ahead : ∀ entry ∈ s.trail, ∀ w ∈ entry.2, w ∈ next entry.1
  settled : s.trail.Settled next s.black none
  sorted : Topological next s.black

/-- A search that begins. -/
theorem invariant_start (next : String → List String) (vertices : List String) :
    Invariant next vertices ⟨vertices, [], []⟩ where
  partition := by simp
  chained := trivial
  ahead := by simp
  settled := trivial
  sorted := trivial

namespace Invariant

variable {white black : List String} {trail below : Trail} {v w root : String} {rest : List String}

/-- The walk comes to a vertex from outside. -/
theorem enter (inv : Invariant next vertices ⟨root :: white, [], black⟩) :
    Invariant next vertices ⟨white, [(root, next root)], black⟩ where
  partition := List.perm_middle.trans inv.partition
  chained := trivial
  ahead := by
    intro entry listed w edge
    rw [List.mem_singleton.mp listed] at edge ⊢
    exact edge
  settled := ⟨fun _ edge => .inl edge, trivial⟩
  sorted := inv.sorted

/-- The walk leaves a vertex all of whose successors it has looked at: they are black. -/
theorem leave (inv : Invariant next vertices ⟨white, (v, []) :: below, black⟩) :
    Invariant next vertices ⟨white, below, v :: black⟩ where
  partition := by
    refine List.Perm.trans ?_ inv.partition
    exact List.Perm.append_left white List.perm_middle
  chained := inv.chained.below
  ahead := fun entry listed => inv.ahead entry (List.mem_cons_of_mem _ listed)
  settled := by
    refine Trail.Settled.mono inv.settled.2 (fun _ dark => List.mem_cons_of_mem v dark) ?_
    intro u same
    exact .inl (Option.some.inj same ▸ List.mem_cons_self)
  sorted := by
    refine ⟨?_, inv.sorted⟩
    intro w edge
    rcases inv.settled.1 w edge with left | dark | top
    · cases left
    · exact dark
    · cases top

/-- The walk goes on to a white successor. -/
theorem descend (inv : Invariant next vertices ⟨white, (v, w :: rest) :: below, black⟩) (found : w ∈ white) :
    Invariant next vertices ⟨white.erase w, (w, next w) :: (v, rest) :: below, black⟩ where
  partition := by
    refine List.Perm.trans ?_ inv.partition
    refine List.perm_middle.trans ?_
    exact (List.perm_cons_erase found).symm.append_right (v :: below.map Prod.fst ++ black)
  chained := ⟨inv.ahead _ List.mem_cons_self w List.mem_cons_self, inv.chained.retop⟩
  ahead := by
    intro entry listed u edge
    rcases List.mem_cons.mp listed with rfl | listed
    · exact edge
    · rcases List.mem_cons.mp listed with rfl | listed
      · exact inv.ahead _ List.mem_cons_self u (List.mem_cons_of_mem _ edge)
      · exact inv.ahead entry (List.mem_cons_of_mem _ listed) u edge
  settled := by
    refine ⟨fun _ edge => .inl edge, ?_, inv.settled.2⟩
    intro u edge
    rcases inv.settled.1 u edge with left | dark | top
    · rcases List.mem_cons.mp left with rfl | left
      · exact .inr (.inr rfl)
      · exact .inl left
    · exact .inr (.inl dark)
    · cases top
  sorted := inv.sorted

/-- A successor that is neither grey nor white is black, and the walk passes over it. -/
theorem pass (inv : Invariant next vertices ⟨white, (v, w :: rest) :: below, black⟩) (known : w ∈ vertices)
    (colourless : w ∉ v :: below.map Prod.fst) (gone : w ∉ white) :
    Invariant next vertices ⟨white, (v, rest) :: below, black⟩ where
  partition := inv.partition
  chained := inv.chained.retop
  ahead := by
    intro entry listed u edge
    rcases List.mem_cons.mp listed with rfl | listed
    · exact inv.ahead _ List.mem_cons_self u (List.mem_cons_of_mem _ edge)
    · exact inv.ahead entry (List.mem_cons_of_mem _ listed) u edge
  settled := by
    refine ⟨?_, inv.settled.2⟩
    intro u edge
    rcases inv.settled.1 u edge with left | dark | top
    · rcases List.mem_cons.mp left with rfl | left
      · refine .inr (.inl ?_)
        have member := inv.partition.mem_iff.mpr known
        simp only [List.map_cons, List.mem_append] at member
        rcases member with pale | grey | dark
        · exact absurd pale gone
        · exact absurd grey colourless
        · exact dark
      · exact .inl left
    · exact .inr (.inl dark)
    · cases top
  sorted := inv.sorted

/-- The invariant is kept from turn to turn. -/
theorem step {s s' : Search} (inv : Invariant next vertices s)
    (closed : ∀ a ∈ vertices, ∀ b ∈ next a, b ∈ vertices) (moved : s.step next = .inl s') :
    Invariant next vertices s' := by
  obtain ⟨white, trail, black⟩ := s
  match trail, white with
  | [], [] => cases moved
  | [], root :: white =>
      cases moved
      exact inv.enter
  | (v, []) :: below, white =>
      cases moved
      exact inv.leave
  | (v, w :: rest) :: below, white =>
      simp only [Search.step] at moved
      split at moved
      · cases moved
      · rename_i pale
        split at moved
        · rename_i found
          cases moved
          exact inv.descend found
        · rename_i gone
          cases moved
          have grey : v ∈ vertices := inv.partition.mem_iff.mp (by simp)
          have edge := inv.ahead _ List.mem_cons_self w List.mem_cons_self
          refine inv.pass (closed v grey w edge) ?_ gone
          exact fun held => pale (Trail.holds_iff.mpr held)

/-- The answer yes is right: the grey vertices between the two ends close the cycle. -/
theorem cyclic_of_step {s : Search} (inv : Invariant next vertices s) (found : s.step next = .inr true) :
    Cyclic next := by
  obtain ⟨white, trail, black⟩ := s
  match trail, white with
  | [], [] => cases found
  | [], root :: white => cases found
  | (v, []) :: below, white => cases found
  | (v, w :: rest) :: below, white =>
      have edge : w ∈ next v := inv.ahead _ List.mem_cons_self w List.mem_cons_self
      simp only [Search.step] at found
      split at found
      · rename_i held
        rcases List.mem_cons.mp (Trail.holds_iff.mp held) with same | deeper
        · have loop : w = v := same
          rw [loop] at edge
          exact ⟨v, .single edge⟩
        · exact ⟨w, .tail (inv.chained.reaches deeper) edge⟩
      · split at found <;> cases found

/-- The answer no is given when all vertices are black. -/
theorem topological_of_step {s : Search} (inv : Invariant next vertices s) (found : s.step next = .inr false) :
    s.black.Perm vertices ∧ Topological next s.black := by
  obtain ⟨white, trail, black⟩ := s
  match trail, white with
  | [], [] => exact ⟨inv.partition, inv.sorted⟩
  | [], root :: white => cases found
  | (v, []) :: below, white => cases found
  | (v, w :: rest) :: below, white =>
      simp only [Search.step] at found
      split at found
      · cases found
      · split at found <;> cases found

end Invariant

/-- The search after a number of turns, or its answer if it has given one by then. -/
def advance (next : String → List String) : Nat → Search → Search ⊕ Bool
  | 0, s => .inl s
  | turns + 1, s =>
    match s.step next with
    | .inl s' => advance next turns s'
    | .inr found => .inr found

/-- The search gives its answer within the turns that its weight allows. -/
theorem exists_advance_eq_closes (next : String → List String) (s : Search) :
    ∃ turns ≤ s.weight next + 1, s.advance next turns = .inr (s.closes next) := by
  induction s using Search.closes.induct next with
  | case1 s s' moved ih =>
      obtain ⟨turns, bound, done⟩ := ih
      have lighter := weight_step_lt moved
      refine ⟨turns + 1, by omega, ?_⟩
      rw [closes, advance, moved]
      exact done
  | case2 s found answered =>
      refine ⟨1, Nat.le_add_left _ _, ?_⟩
      rw [closes, advance, answered]

/-- The answer yes means that there is a cycle. -/
theorem cyclic_of_closes {s : Search} (inv : Invariant next vertices s)
    (closed : ∀ a ∈ vertices, ∀ b ∈ next a, b ∈ vertices) (found : s.closes next = true) : Cyclic next := by
  induction s using Search.closes.induct next with
  | case1 s s' moved ih =>
      rw [closes, moved] at found
      exact ih (inv.step closed moved) found
  | case2 s answer answered =>
      rw [closes, answered] at found
      exact inv.cyclic_of_step (found ▸ answered)

/-- The answer no means that the vertices can be put in topological order. -/
theorem topological_of_closes {s : Search} (inv : Invariant next vertices s)
    (closed : ∀ a ∈ vertices, ∀ b ∈ next a, b ∈ vertices) (found : s.closes next = false) :
    ∃ order : List String, order.Perm vertices ∧ Topological next order := by
  induction s using Search.closes.induct next with
  | case1 s s' moved ih =>
      rw [closes, moved] at found
      exact ih (inv.step closed moved) found
  | case2 s answer answered =>
      rw [closes, answered] at found
      exact ⟨s.black, inv.topological_of_step (found ▸ answered)⟩

/-- A search in keeping with its invariant answers whether there is a cycle. -/
theorem closes_eq_true_iff {s : Search} (inv : Invariant next vertices s)
    (source : ∀ a, ∀ b ∈ next a, a ∈ vertices) (target : ∀ a, ∀ b ∈ next a, b ∈ vertices) :
    s.closes next = true ↔ Cyclic next := by
  constructor
  · exact cyclic_of_closes inv fun a _ => target a
  · rintro ⟨v, path⟩
    cases found : s.closes next with
    | true => rfl
    | false =>
        obtain ⟨order, all, sorted⟩ := topological_of_closes inv (fun a _ => target a) found
        obtain ⟨w, edge, -⟩ := Relation.TransGen.head'_iff.mp path
        exact absurd path (sorted.irreflexive (all.mem_iff.mpr (source v w edge)))

end Search

end WorkflowEngine
