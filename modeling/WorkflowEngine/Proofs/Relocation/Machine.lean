import WorkflowEngine.Proofs.Relocation.Data

/-!
# Evaluations that follow each other

An evaluation follows another one if from heaps that belong together it comes to moved values, or to faults that look
alike, and leaves heaps that belong together.  This is closed under sequence, so it is shown part by part.
-/

namespace WorkflowEngine

open Relocation (Fixes)

/-- Faults that look alike: they are of one class and say the same. -/
def Fault.Alike (f f' : Fault) : Prop :=
  f'.cls = f.cls ∧ f'.message = f.message

/-- An outcome and the moved one: faults need only look alike. -/
inductive Relocation.Answers (r : Relocation) {α : Type} [Movable α] : Except Fault α → Except Fault α → Prop where
  | ok (v : α) : Answers r (.ok v) (.ok (r.move v))
  | error {f f' : Fault} (alike : f.Alike f') : Answers r (.error f) (.error f')

/-- Machines whose heaps belong together. -/
structure Machine.Moves (r : Relocation) (m m' : Machine) : Prop where
  heap : m.heap.Moves r m'.heap
  steps : m'.steps = m.steps

namespace Eval

open Relocation (Answers)

variable {r : Relocation} {α β γ : Type} [Movable α] [Movable β] [Movable γ]

/-- From heaps that belong together the second evaluation comes to what the first one does, moved. -/
def Follows (r : Relocation) (e e' : Eval α) : Prop :=
  ∀ ⦃m m'⦄, m.Moves r m' → Answers r (e.exec m).1 (e'.exec m').1 ∧ (e.exec m).2.Moves r (e'.exec m').2

theorem follows_pure {v v' : α} (moved : v' = r.move v) : Follows r (pure v) (pure v') :=
  fun _ _ moves => ⟨moved ▸ .ok v, moves⟩

theorem follows_fail_of_alike {f f' : Fault} (alike : f.Alike f') : Follows r (fail f : Eval α) (fail f') :=
  fun _ _ moves => ⟨.error alike, moves⟩

theorem follows_fail (f : Fault) : Follows r (fail f : Eval α) (fail f) :=
  follows_fail_of_alike ⟨rfl, rfl⟩

theorem follows_lift {outcome outcome' : Except Fault α} (moved : outcome' = r.move outcome) :
    Follows r (lift outcome) (lift outcome') := by
  subst moved
  cases outcome with
  | ok v => exact follows_pure rfl
  | error f => exact follows_fail f

theorem follows_lift_fixed [Fixes α] (outcome : Except Fault α) : Follows r (lift outcome) (lift outcome) :=
  follows_lift (r.move_fixed outcome).symm

theorem follows_bind {e e' : Eval α} {k k' : α → Eval β} (first : Follows r e e')
    (rest : ∀ v, Follows r (k v) (k' (r.move v))) : Follows r (e >>= k) (e' >>= k') := by
  intro m m' moves
  obtain ⟨answers, later⟩ := first moves
  rw [exec_bind, exec_bind]
  rcases ran : e.exec m with ⟨outcome, t⟩
  rcases ran' : e'.exec m' with ⟨outcome', t'⟩
  rw [ran, ran'] at answers later
  cases answers with
  | ok v => exact rest v later
  | error alike => exact ⟨.error alike, later⟩

/-- What follows a value that stays is given the same value. -/
theorem follows_bind_fixed [Fixes α] {e e' : Eval α} {k k' : α → Eval β} (first : Follows r e e')
    (rest : ∀ v, Follows r (k v) (k' v)) : Follows r (e >>= k) (e' >>= k') :=
  follows_bind first fun v => (r.move_fixed v).symm ▸ rest v

/-- The heaps that are looked at belong together. -/
theorem follows_heap {k k' : Heap → Eval α} (rest : ∀ h h', h.Moves r h' → Follows r (k h) (k' h')) :
    Follows r (heap >>= k) (heap >>= k') :=
  fun m m' moves => rest m.heap m'.heap moves.heap moves

theorem follows_items (a : Address) : Follows r (items a) (items (r.address a)) :=
  follows_heap fun _ _ moves => follows_pure (moves.items a)

theorem follows_entries (a : Address) : Follows r (entries a) (entries (r.address a)) :=
  follows_heap fun _ _ moves => follows_pure (moves.entries a)

theorem follows_view (v : Value) : Follows r (view v) (view (r.move v)) :=
  follows_heap fun _ _ moves => follows_pure (moves.view v)

/-- What is done on a condition only is followed where the condition is the same. -/
theorem follows_when {c : Prop} [Decidable c] {e e' : Eval Unit} {k k' : Unit → Eval α} (first : Follows r e e')
    (rest : ∀ v, Follows r (k v) (k' v)) : Follows r (if c then e >>= k else k ()) (if c then e' >>= k' else k' ()) := by
  split
  · exact follows_bind_fixed first rest
  · exact rest ()

theorem follows_foldlM {step step' : β → γ → Eval β}
    (follows : ∀ b x, Follows r (step b x) (step' (r.move b) (r.move x))) (b : β) (xs : List γ) :
    Follows r (xs.foldlM step b) ((r.move xs).foldlM step' (r.move b)) := by
  induction xs generalizing b with
  | nil => exact follows_pure rfl
  | cons x rest ih =>
      rw [r.move_cons, List.foldlM_cons, List.foldlM_cons]
      exact follows_bind (follows b x) ih

theorem follows_write (a : Address) (c : Cell) : Follows r (write a c) (write (r.address a) (r.move c)) :=
  fun _ _ moves => ⟨.ok (), moves.heap.write a c, moves.steps⟩

/-- Containers are put at places that belong together, and named alike. -/
theorem follows_alloc (c : Cell) {k : Address → Value} (named : ∀ a, k (r.address a) = r.move (k a)) :
    Follows r (do return k (← alloc c)) (do return k (← alloc (r.move c))) := by
  intro m m' moves
  obtain ⟨place, later⟩ := moves.heap.alloc c
  have answers : Answers r (.ok (k (m.heap.alloc c).1)) (.ok (k (m'.heap.alloc (r.move c)).1)) := by
    rw [place, named]
    exact .ok _
  exact ⟨answers, later, moves.steps⟩

theorem follows_newList (values : List Value) : Follows r (newList values) (newList (r.move values)) :=
  follows_alloc (.list values) fun _ => rfl

theorem follows_newTuple (values : List Value) : Follows r (newTuple values) (newTuple (r.move values)) :=
  follows_alloc (.tuple values) fun _ => rfl

theorem follows_newSet (values : List Value) : Follows r (newSet values) (newSet (r.move values)) :=
  follows_alloc (.set values) fun _ => rfl

theorem follows_newDict (entries : List (Value × Value)) : Follows r (newDict entries) (newDict (r.move entries)) :=
  follows_alloc (.dict entries) fun _ => rfl

theorem follows_load (d : Data) : Follows r (load d) (load d) := by
  intro m m' moves
  obtain ⟨value, later⟩ := moves.heap.load d
  have answers : Answers r (.ok (m.heap.load d).1) (.ok (m'.heap.load d).1) := by
    rw [value]
    exact .ok _
  exact ⟨answers, later, moves.steps⟩

theorem follows_float (x : Float) : Follows r (float x) (float x) := by
  unfold float
  split
  · intro m m' moves
    obtain ⟨mark, later⟩ := moves.heap.freshMark
    have answers : Answers r (.ok (Value.nan m.heap.freshMark.1)) (.ok (.nan m'.heap.freshMark.1)) := by
      rw [mark]
      exact .ok (Value.nan m.heap.freshMark.1)
    exact ⟨answers, later, moves.steps⟩
  · exact follows_pure rfl

theorem follows_number (x : Number) : Follows r (number x) (number x) := by
  cases x with
  | int i => exact follows_pure rfl
  | float x => exact follows_float x
  | complex re im => exact follows_pure rfl

end Eval

end WorkflowEngine
