import WorkflowEngine.Proofs.Run.Origin

/-!
# What a run leaves of the definition

The parameters of an action stand on the heap as one dictionary for all visits of its node, so what a handler
is given of them, and may hand on, is the definition itself.  A run leaves them as they are written where no
parameter is a container: nothing of the definition can then be reached but by a new dictionary.
-/

namespace WorkflowEngine

/-- The data has no parts. -/
def Data.IsPlain : Data → Prop
  | .list _ => False
  | .tuple _ => False
  | .set _ => False
  | .dict _ => False
  | _ => True

/-- The value has no parts and names no container. -/
def Value.IsBare (v : Value) : Prop :=
  v.IsPlain ∧ v.All fun _ _ => False

namespace Heap

variable {reserved : Address → Prop} {h h' : Heap}

/-- At the address there is a dictionary whose keys and values have no parts. -/
def IsFlat (h : Heap) (a : Address) : Prop :=
  ∃ entries, h.cell? a = some (.dict entries) ∧ ∀ e ∈ entries, e.1.IsBare ∧ e.2.IsBare

theorem IsFlat.of_keeps {n : Nat} {a : Address} (flat : h.IsFlat a) (kept : h.Keeps n h') (below : a < n) : h'.IsFlat a := by
  obtain ⟨entries, there, bare⟩ := flat
  exact ⟨entries, (kept.same a below).trans there, bare⟩

end Heap

namespace Scene

variable {s : Scene}

end Scene

namespace Heap

variable {part : Address → Prop} {h h' : Heap}

/-- Flat dictionaries may be given to handlers while they are reserved themselves. -/
theorem IsFlat.offers {reserved : Address → Prop} {a : Address} (flat : h.IsFlat a) : Offers reserved h (.dict a) := by
  obtain ⟨entries, there, bare⟩ := flat
  refine .inr ⟨a, rfl, ?_⟩
  rw [Heap.entries, there]
  intro e listed
  exact ⟨(bare e listed).1.2.mono fun _ _ none => absurd none id, (bare e listed).2.2.mono fun _ _ none => absurd none id⟩

end Heap

namespace Order

variable {o : Order}

/-- A scene of a walk that set out with flat parameters: what is pending and the variables are free of them, and
they are as they were. -/
structure Spared (b : Outset) (part : Address → Prop) (pending : List (String × Value)) (s : Scene) : Prop where
  sound : s.Sound part
  held : ∀ e ∈ pending, Held part s.heap e.2
  same : ∀ a, part a → s.heap.cell? a = b.scene.heap.cell? a

section Turns

variable {b : Outset} {part : Address → Prop} {pending : List (String × Value)} {s t : Scene}

theorem Spared.grown (spared : Spared b part pending s) (vars : t.vars = s.vars) (grown : s.heap.Grown part t.heap) :
    Spared b part pending t where
  sound := ⟨grown.sound, vars ▸ Held.grown spared.sound.vars grown⟩
  held e listed := Held.grown (spared.held e listed) grown
  same a inside := (grown.same a inside).trans (spared.same a inside)

/-- Flat parameters may be given to handlers as long as they are as they were. -/
theorem Spared.offers (spared : Spared b part pending s) (flat : ∀ a, part a → b.scene.heap.IsFlat a)
    (placed : ∀ e ∈ b.parameters, ∃ a, e.2 = .dict a ∧ part a) (id : String) (v : Value)
    (found : b.parameters.lookup id = some v) : Offers part s.heap v := by
  obtain ⟨front, back, listed, -⟩ := List.lookup_eq_some_iff.mp found
  obtain ⟨a, same, inside⟩ := placed (id, v) (listed ▸ List.mem_append_right _ List.mem_cons_self)
  obtain ⟨entries, there, bare⟩ := flat a inside
  change v = .dict a at same
  subst same
  exact Heap.IsFlat.offers ⟨entries, (spared.same a inside).trans there, bare⟩

end Turns

end Order

end WorkflowEngine
