import WorkflowEngine.Value.Machine

/-!
# What an evaluation leaves as it is

An evaluation keeps the containers below an address if it changes none of them, whether it ends in a value
or in a fault.  Reading and putting containers at fresh addresses keep all that were there before, and
changing a container keeps those below it.  Keeping is closed under sequence, so that the parts of an
evaluation can be looked at one by one.
-/

namespace WorkflowEngine

namespace Heap

/-- The containers below an address stand unchanged on a later heap. -/
structure Keeps (n : Nat) (h h' : Heap) : Prop where
  room : n ≤ h'.cells.size
  same : ∀ a < n, h'.cell? a = h.cell? a

variable {n : Nat} {h h' h'' : Heap}

theorem keeps_refl (room : n ≤ h.cells.size) : Keeps n h h :=
  ⟨room, fun _ _ => rfl⟩

theorem Keeps.trans (first : Keeps n h h') (second : Keeps n h' h'') : Keeps n h h'' where
  room := second.room
  same := fun a below => (second.same a below).trans (first.same a below)

theorem keeps_alloc (room : n ≤ h.cells.size) (c : Cell) : Keeps n h (h.alloc c).2 where
  room := by
    simp only [alloc, Array.size_push]
    omega
  same := fun _ below => cell?_alloc_of_lt c (Nat.lt_of_lt_of_le below room)

theorem keeps_write (room : n ≤ h.cells.size) {a : Address} (above : n ≤ a) (c : Cell) :
    Keeps n h (h.write a c) where
  room := by simpa [write] using room
  same := fun b below => cell?_write_of_ne c (Nat.ne_of_gt (Nat.lt_of_lt_of_le below above))

end Heap

namespace Eval

variable {n : Nat} {α β : Type}

/-- The evaluation keeps the containers below an address, where there are that many. -/
def Keeps (n : Nat) (e : Eval α) : Prop :=
  ∀ m : Machine, n ≤ m.heap.cells.size → m.heap.Keeps n (e.exec m).2.heap

theorem keeps_pure (v : α) : Keeps n (pure v) :=
  fun _ room => Heap.keeps_refl room

theorem keeps_fail (f : Fault) : Keeps n (fail f : Eval α) :=
  fun _ room => Heap.keeps_refl room

theorem keeps_lift (outcome : Except Fault α) : Keeps n (lift outcome) := by
  cases outcome with
  | ok v => exact keeps_pure v
  | error f => exact keeps_fail f

theorem keeps_heap : Keeps n heap :=
  fun _ room => Heap.keeps_refl room

/-- Two evaluations that keep the containers keep them one after the other. -/
theorem keeps_bind {e : Eval α} {k : α → Eval β} (first : Keeps n e) (second : ∀ v, Keeps n (k v)) :
    Keeps n (e >>= k) := by
  intro m room
  have kept := first m room
  rw [exec_bind]
  rcases ran : e.exec m with ⟨outcome, m'⟩
  rw [ran] at kept
  cases outcome with
  | ok v => exact kept.trans (second v m' kept.room)
  | error f => exact kept

/-- A part that is evaluated on a condition only keeps the containers with what follows it. -/
theorem keeps_when {c : Prop} [Decidable c] {e : Eval Unit} {k : Unit → Eval α} (first : Keeps n e)
    (rest : ∀ v, Keeps n (k v)) : Keeps n (if c then e >>= k else k ()) := by
  split
  · exact keeps_bind first rest
  · exact rest ()

/-- A walk over a list keeps the containers if every step does. -/
theorem keeps_foldlM {step : β → α → Eval β} (keeps : ∀ b x, Keeps n (step b x)) (items : List α) (b : β) :
    Keeps n (items.foldlM step b) := by
  induction items generalizing b with
  | nil => exact keeps_pure b
  | cons x rest ih =>
      rw [List.foldlM_cons]
      exact keeps_bind (keeps b x) ih

theorem keeps_alloc (c : Cell) : Keeps n (alloc c) :=
  fun _ room => Heap.keeps_alloc room c

theorem keeps_write {a : Address} (above : n ≤ a) (c : Cell) : Keeps n (write a c) :=
  fun _ room => Heap.keeps_write room above c

theorem keeps_freshMark : Keeps n (onHeap Heap.freshMark) :=
  fun _ room => ⟨room, fun _ _ => rfl⟩

theorem keeps_view (v : Value) : Keeps n (view v) := by
  unfold view
  exact keeps_bind keeps_heap fun h => keeps_pure _

theorem keeps_items (a : Address) : Keeps n (items a) := by
  unfold items
  exact keeps_bind keeps_heap fun h => keeps_pure _

theorem keeps_entries (a : Address) : Keeps n (entries a) := by
  unfold entries
  exact keeps_bind keeps_heap fun h => keeps_pure _

theorem keeps_newList (values : List Value) : Keeps n (newList values) := by
  unfold newList
  exact keeps_bind (keeps_alloc _) fun a => keeps_pure _

theorem keeps_newTuple (values : List Value) : Keeps n (newTuple values) := by
  unfold newTuple
  exact keeps_bind (keeps_alloc _) fun a => keeps_pure _

theorem keeps_newSet (values : List Value) : Keeps n (newSet values) := by
  unfold newSet
  exact keeps_bind (keeps_alloc _) fun a => keeps_pure _

theorem keeps_newDict (entries : List (Value × Value)) : Keeps n (newDict entries) := by
  unfold newDict
  exact keeps_bind (keeps_alloc _) fun a => keeps_pure _

theorem keeps_float (x : Float) : Keeps n (float x) := by
  unfold float
  split
  · exact keeps_bind keeps_freshMark fun mark => keeps_pure _
  · exact keeps_pure _

theorem keeps_number (x : Number) : Keeps n (number x) := by
  cases x with
  | int i => exact keeps_pure _
  | float x => exact keeps_float x
  | complex re im => exact keeps_pure _

end Eval

end WorkflowEngine
