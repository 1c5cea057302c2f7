import WorkflowEngine.Proofs.Region.Basic

/-!
# What an evaluation spares

An evaluation that begins on a sound heap spares the reserved containers if it leaves them as they are, leaves
the heap sound, and yields a free value.  One that only reads leaves the whole heap as it is.  Both are closed
under sequence, where what follows begins on the heap that the first part has led to.
-/

namespace WorkflowEngine.Eval

variable {reserved : Address → Prop} {h : Heap} {α β : Type} [Naming α] [Naming β]

/-- The evaluation leaves the heap as it is and yields a free value. -/
def Reads (reserved : Address → Prop) (h : Heap) (e : Eval α) : Prop :=
  ∀ steps, h.Sound reserved →
    (e.exec ⟨h, steps⟩).2.heap = h ∧ ∀ v, (e.exec ⟨h, steps⟩).1 = .ok v → Held reserved h v

/-- The evaluation leaves the reserved containers as they are and yields a free value. -/
def Spares (reserved : Address → Prop) (h : Heap) (e : Eval α) : Prop :=
  ∀ steps, h.Sound reserved →
    h.Grown reserved (e.exec ⟨h, steps⟩).2.heap ∧
      ∀ v, (e.exec ⟨h, steps⟩).1 = .ok v → Held reserved (e.exec ⟨h, steps⟩).2.heap v

theorem Reads.spares {e : Eval α} (reads : Reads reserved h e) : Spares reserved h e := by
  intro steps sound
  obtain ⟨same, held⟩ := reads steps sound
  rw [same]
  exact ⟨.refl sound, held⟩

theorem reads_pure {v : α} (held : Held reserved h v) : Reads reserved h (pure v) := by
  intro steps sound
  refine ⟨rfl, fun w yields => ?_⟩
  cases yields
  exact held

theorem reads_fail (f : Fault) : Reads reserved h (fail f : Eval α) :=
  fun _ _ => ⟨rfl, fun _ yields => nomatch yields⟩

theorem reads_lift {outcome : Except Fault α} (held : ∀ v, outcome = .ok v → Held reserved h v) :
    Reads reserved h (lift outcome) := by
  cases outcome with
  | ok v => exact reads_pure (held v rfl)
  | error f => exact reads_fail f

/-- What names no containers is free. -/
theorem reads_plain {e : Eval α} (plain : ∀ v : α, Held reserved h v) (same : ∀ m, (e.exec m).2.heap = m.heap) :
    Reads reserved h e :=
  fun steps _ => ⟨same ⟨h, steps⟩, fun v _ => plain v⟩

theorem reads_bind {e : Eval α} {k : α → Eval β} (first : Reads reserved h e)
    (rest : ∀ v, Held reserved h v → Reads reserved h (k v)) : Reads reserved h (e >>= k) := by
  intro steps sound
  obtain ⟨same, held⟩ := first steps sound
  rw [exec_bind]
  rcases ran : e.exec ⟨h, steps⟩ with ⟨outcome, ⟨h', steps'⟩⟩
  rw [ran] at same held
  cases same
  cases outcome with
  | error f => exact ⟨rfl, fun _ yields => nomatch yields⟩
  | ok v => exact rest v (held v rfl) steps' sound

theorem spares_pure {v : α} (held : Held reserved h v) : Spares reserved h (pure v) :=
  (reads_pure held).spares

theorem spares_fail (f : Fault) : Spares reserved h (fail f : Eval α) :=
  (reads_fail f).spares

/-- What follows an evaluation begins on a later heap. -/
theorem spares_bind {e : Eval α} {k : α → Eval β} (first : Spares reserved h e)
    (rest : ∀ h' v, h.Grown reserved h' → Held reserved h' v → Spares reserved h' (k v)) :
    Spares reserved h (e >>= k) := by
  intro steps sound
  obtain ⟨grown, held⟩ := first steps sound
  rw [exec_bind]
  rcases ran : e.exec ⟨h, steps⟩ with ⟨outcome, ⟨h', steps'⟩⟩
  rw [ran] at grown held
  cases outcome with
  | error f => exact ⟨grown, fun _ yields => nomatch yields⟩
  | ok v =>
      obtain ⟨later, final⟩ := rest h' v grown (held v rfl) steps' grown.sound
      exact ⟨grown.trans later, final⟩

/-- What follows an evaluation that only reads begins on the same heap. -/
theorem spares_read {e : Eval α} {k : α → Eval β} (first : Reads reserved h e)
    (rest : ∀ v, Held reserved h v → Spares reserved h (k v)) : Spares reserved h (e >>= k) := by
  intro steps sound
  obtain ⟨same, held⟩ := first steps sound
  rw [exec_bind]
  rcases ran : e.exec ⟨h, steps⟩ with ⟨outcome, ⟨h', steps'⟩⟩
  rw [ran] at same held
  cases same
  cases outcome with
  | error f => exact ⟨.refl sound, fun _ yields => nomatch yields⟩
  | ok v => exact rest v (held v rfl) steps' sound

/-- The heap that is looked at is the present one, which is sound. -/
theorem reads_heap {k : Heap → Eval β} (rest : h.Sound reserved → Reads reserved h (k h)) :
    Reads reserved h (heap >>= k) := by
  intro steps sound
  exact rest sound steps sound

theorem spares_heap {k : Heap → Eval β} (rest : h.Sound reserved → Spares reserved h (k h)) :
    Spares reserved h (heap >>= k) := by
  intro steps sound
  exact rest sound steps sound

theorem reads_items {a : Address} (free : ¬ reserved a) : Reads reserved h (items a) := by
  unfold items
  exact reads_heap fun sound => reads_pure (sound.items free)

theorem reads_entries {a : Address} (free : ¬ reserved a) : Reads reserved h (entries a) := by
  unfold entries
  exact reads_heap fun sound => reads_pure (sound.entries free)

theorem reads_view (v : Value) : Reads reserved h (view v) := by
  unfold view
  exact reads_heap fun _ => reads_pure trivial

/-- A part that is evaluated on a condition only is read before what follows it. -/
theorem reads_when {c : Prop} [Decidable c] {e : Eval Unit} {k : Unit → Eval α} (first : Reads reserved h e)
    (rest : ∀ v, Reads reserved h (k v)) : Reads reserved h (if c then e >>= k else k ()) := by
  split
  · exact reads_bind first fun v _ => rest v
  · exact rest ()

/-- A walk over a list of free members only reads if every step does. -/
theorem reads_foldlM {γ : Type} [Naming γ] {step : β → γ → Eval β}
    (reads : ∀ b x, Held reserved h b → Held reserved h x → Reads reserved h (step b x)) {xs : List γ}
    (members : Held reserved h xs) {b : β} (held : Held reserved h b) : Reads reserved h (xs.foldlM step b) := by
  induction xs generalizing b with
  | nil => exact reads_pure held
  | cons x rest ih =>
      rw [List.foldlM_cons]
      obtain ⟨first, others⟩ := List.forall_mem_cons.mp members
      exact reads_bind (reads b x held first) fun b' held' => ih others held'

theorem spares_write {a : Address} {c : Cell} (free : h.Free reserved c.kind a) (held : Held reserved h c) :
    Spares reserved h (write a c) :=
  fun _ sound => ⟨sound.write free held, fun _ _ => trivial⟩

/-- A container is put at a fresh address, and named as what it is. -/
theorem spares_alloc {c : Cell} {k : Address → Value} (held : Held reserved h c)
    (named : ∀ h' a, Heap.Free reserved h' c.kind a → Held reserved h' (k a)) :
    Spares reserved h (do return k (← alloc c)) := by
  intro steps sound
  obtain ⟨grown, free⟩ := sound.alloc held
  refine ⟨grown, fun v yields => ?_⟩
  cases yields
  exact named _ _ free

theorem spares_newList {values : List Value} (held : Held reserved h values) : Spares reserved h (newList values) :=
  spares_alloc (c := .list values) held fun _ _ free => free

theorem spares_newTuple {values : List Value} (held : Held reserved h values) : Spares reserved h (newTuple values) :=
  spares_alloc (c := .tuple values) held fun _ _ free => free

theorem spares_newSet {values : List Value} (held : Held reserved h values) : Spares reserved h (newSet values) :=
  spares_alloc (c := .set values) held fun _ _ free => free

theorem spares_newDict {entries : List (Value × Value)} (held : Held reserved h entries) :
    Spares reserved h (newDict entries) :=
  spares_alloc (c := .dict entries) held fun _ _ free => free

theorem spares_float (x : Float) : Spares reserved h (float x) := by
  unfold float
  split
  · intro steps sound
    refine ⟨sound.freshMark, fun v yields => ?_⟩
    cases yields
    trivial
  · exact spares_pure trivial

theorem spares_number (x : Number) : Spares reserved h (number x) := by
  cases x with
  | int i => exact spares_pure trivial
  | float x => exact spares_float x
  | complex re im => exact spares_pure trivial

end WorkflowEngine.Eval
