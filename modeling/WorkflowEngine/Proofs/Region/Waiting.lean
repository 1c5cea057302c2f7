import WorkflowEngine.Engine.Visit
import WorkflowEngine.Proofs.Region.Copy

/-!
# Values that wait

Values that wait for their turn keep showing the same data while others are worked on: each stands in a part of
the heap of its own, and all these parts are reserved.  When a value gets its turn its part is no longer
reserved, and it may be worked on.  A copy that is made for later comes with a part of its own.
-/

namespace WorkflowEngine

variable {reserved others : Address → Prop} {h h' : Heap}

/-- What is free of more is free of less. -/
theorem Held.fewer {α : Type} [Naming α] {x : α} (fewer : ∀ a, others a → reserved a) (held : Held reserved h x) :
    Held others h x :=
  Naming.mono (fun _ a free => ⟨free.1, fun kept => free.2 (fewer a kept)⟩) held

/-- A heap that grows while much is reserved grows as it may while less is. -/
theorem Heap.Grown.fewer (grown : h.Grown reserved h') (fewer : ∀ a, others a → reserved a) (sound : h.Sound others) :
    h.Grown others h' where
  kinds := grown.kinds
  same a kept := grown.same a (fewer a kept)
  sound := by
    refine ⟨fun a kept => grown.sound.there a (fewer a kept), fun a c there free => ?_⟩
    by_cases kept : reserved a
    · have held := sound.held a c (grown.same a kept ▸ there) free
      exact Naming.mono (fun k b known => ⟨grown.kinds b k known.1, known.2⟩) held
    · exact Held.fewer fewer (grown.sound.held a c there kept)

/-- Making copies of a free value spares what is reserved, whatever it comes to, and the copies are free. -/
theorem Scene.grown_copies {v : Value} (sound : h.Sound reserved) (held : Held reserved h v)
    (done : List (String × Value)) (before : ∀ e ∈ done, Held reserved h e.2) (ids : List String) :
    h.Grown reserved (Scene.copies v done h ids).2 ∧
      ∀ inputs, (Scene.copies v done h ids).1 = .ok inputs → ∀ e ∈ inputs, Held reserved (Scene.copies v done h ids).2 e.2 := by
  induction ids generalizing h done with
  | nil =>
      refine ⟨.refl sound, fun inputs made e listed => ?_⟩
      cases made
      exact before e (List.mem_reverse.mp listed)
  | cons id rest ih =>
      unfold Scene.copies
      split
      · exact ⟨.refl sound, nofun⟩
      · rename_i fresh h1 taken
        have copy := Heap.copyOf_of_copy sound held taken
        obtain ⟨grown, all⟩ := ih copy.grown.sound (Held.grown held copy.grown) ((id, fresh) :: done)
          (List.forall_mem_cons.mpr ⟨copy.held, fun e listed => Held.grown (before e listed) copy.grown⟩)
        exact ⟨copy.grown.trans grown, all⟩

/-- The values wait while containers are reserved: each stands in a part that is reserved, and is free as soon as
only what the values behind it need is reserved. -/
inductive Waiting (h : Heap) : (Address → Prop) → List Value → Prop where
  | nil {reserved : Address → Prop} : Waiting h reserved []
  | cons {reserved others part : Address → Prop} {v : Value} {rest : List Value} (fewer : ∀ a, others a → reserved a)
      (sound : h.Sound others) (held : Held others h v) (inside : ∀ a, part a → reserved a) (enclosed : h.Enclosed part)
      (within : v.Mirrors (Within part) v) (waiting : Waiting h others rest) : Waiting h reserved (v :: rest)

namespace Waiting

variable {values front back : List Value} {v w : Value}

/-- Values wait on while the heap grows, and show the same data. -/
theorem grown (waiting : Waiting h reserved values) (grown : h.Grown reserved h') :
    Waiting h' reserved values ∧ ∀ v ∈ values, h'.view v = h.view v := by
  induction waiting with
  | nil => exact ⟨.nil, fun _ listed => absurd listed List.not_mem_nil⟩
  | cons fewer sound held inside enclosed within _ ih =>
      rename_i reserved others part v rest waiting
      have same : ∀ a, part a → h'.cell? a = h.cell? a := fun a there => grown.same a (inside a there)
      have less := grown.fewer fewer sound
      obtain ⟨later, views⟩ := ih less
      refine ⟨.cons fewer less.sound (Held.grown held less) inside (enclosed.of_same same) within later, ?_⟩
      exact List.forall_mem_cons.mpr ⟨((enclosed.mirrored same).view within).symm, views⟩

/-- A copy of a free value is put between the values that wait. -/
theorem insert (waiting : Waiting h reserved (front ++ back)) (sound : h.Sound reserved) (held : Held reserved h v)
    (copied : h.copy v = .ok (w, h')) :
    Waiting h' (fun a => reserved a ∨ h.Fresh h' a) (front ++ w :: back) := by
  induction front generalizing reserved with
  | nil =>
      have copy := Heap.copyOf_of_copy sound held copied
      exact .cons (fun _ kept => .inl kept) copy.grown.sound copy.held (fun _ fresh => .inr fresh) copy.enclosed
        copy.within (waiting.grown copy.grown).1
  | cons x rest ih =>
      cases waiting with
      | @cons _ others part _ _ fewer soundOthers heldX inside enclosed within waiting =>
          have copy := Heap.copyOf_of_copy soundOthers (held.fewer fewer) copied
          have same : ∀ a, part a → h'.cell? a = h.cell? a := by
            intro a there
            obtain ⟨c, known, -⟩ := enclosed a there
            exact copy.kept.same a (Heap.lt_of_cell? known)
          exact .cons (fun a kept => kept.imp (fewer a) id) (soundOthers.apart copy.kept) (copy.kept.held_apart heldX)
            (fun a there => .inl (inside a there)) (enclosed.of_same same) within
            (ih waiting soundOthers (held.fewer fewer))

/-- Copies of a free value are put in front of the values that wait, one for each of some nodes. -/
theorem copies {ids : List String} (done : List (String × Value)) (back : List Value) {inputs : List (String × Value)}
    (waiting : Waiting h reserved (done.reverse.map Prod.snd ++ back)) (sound : h.Sound reserved) (held : Held reserved h v)
    (copied : Scene.copies v done h ids = (.ok inputs, h')) :
    ∃ more : Address → Prop, h'.Sound more ∧ Waiting h' more (inputs.map Prod.snd ++ back) ∧ h.Grown reserved h' ∧
      (∀ x : Value, Held reserved h x → Held more h' x) ∧
      ∃ made, inputs = done.reverse ++ made ∧ made.map Prod.fst = ids ∧ ∀ e ∈ made, h'.view e.2 = h.view v := by
  induction ids generalizing reserved h done with
  | nil =>
      cases copied
      exact ⟨reserved, sound, waiting, .refl sound, fun _ held => held, [], (List.append_nil _).symm, rfl,
        fun _ listed => absurd listed List.not_mem_nil⟩
  | cons id rest ih =>
      rw [Scene.copies] at copied
      split at copied
      · cases copied
      · rename_i fresh h1 taken
        have copy := Heap.copyOf_of_copy sound held taken
        have joined := waiting.insert sound held taken
        rw [show done.reverse.map Prod.snd ++ fresh :: back = ((id, fresh) :: done).reverse.map Prod.snd ++ back by
          simp] at joined
        obtain ⟨more, soundMore, all, grown, still, made, rfl, ids, views⟩ :=
          ih _ joined (sound.apart copy.kept) (copy.kept.held_apart held) copied
        have grownLess : h1.Grown reserved h' := grown.fewer (fun _ kept => .inl kept) copy.grown.sound
        refine ⟨more, soundMore, all, copy.grown.trans grownLess, fun x heldX => still x (copy.kept.held_apart heldX),
          (id, fresh) :: made, by simp, by rw [List.map_cons, ids], ?_⟩
        have shown : h'.view fresh = h.view v :=
          ((joined.grown grown).2 fresh (by simp)).trans copy.view
        exact List.forall_mem_cons.mpr ⟨shown, fun e listed => (views e listed).trans copy.still⟩

end Waiting

end WorkflowEngine
