import WorkflowEngine.Proofs.Region.Copy
import WorkflowEngine.Proofs.Region.Task
import WorkflowEngine.Proofs.Run.Course
import WorkflowEngine.Proofs.Run.Keys

/-!
# The heap on which a run begins

A run puts its input on the heap, takes a copy of it, and makes variables of a further copy.  The parameters of
actions are put beside them.  All of this goes on on a sound heap, and the copy that the run works with shows
the input in a part of the heap that nothing else has to do with.
-/

namespace WorkflowEngine

variable {reserved : Address → Prop} {h h' : Heap}

/-- Variables that are made of free entries are free. -/
theorem Held.variableEntries {entries : List (Value × Value)} {named : List (String × Value)}
    (held : Held reserved h entries) (read : variableEntries h' entries = .ok named) : Held reserved h named := by
  intro e listed
  obtain ⟨f, member, same⟩ := (variableEntries_spec read).2 e listed
  exact ⟨trivial, same ▸ (held f member).2⟩

namespace Scene

variable {s t : Scene}

/-- The heap is sound, and the variables are free. -/
structure Sound (reserved : Address → Prop) (s : Scene) : Prop where
  heap : s.heap.Sound reserved
  vars : Held reserved s.heap (Value.dict s.vars)

/-- The scene stays sound while its heap grows. -/
theorem Sound.grown (sound : s.Sound reserved) (grown : s.heap.Grown reserved h) :
    ({ s with heap := h } : Scene).Sound reserved :=
  ⟨grown.sound, Held.grown sound.vars grown⟩

theorem sound_start (clock : Clock) (transport : Http.Transport) : (start clock transport).Sound fun _ => False := by
  have sound : Heap.empty.Sound fun _ => False := ⟨fun _ kept => absurd kept id, fun a c there _ => by simp [Heap.cell?, Heap.empty] at there⟩
  obtain ⟨grown, free⟩ := sound.alloc (c := .dict []) Held.nil
  exact ⟨grown.sound, free⟩

/-- A value that stands in a part of the heap of its own. -/
structure Apart (s : Scene) (part : Address → Prop) (v : Value) : Prop where
  enclosed : s.heap.Enclosed part
  within : v.Mirrors (Within part) v
  vars : ¬ part s.vars

/-- Whatever keeps the part of a value keeps what the value shows. -/
theorem Apart.of_same {part : Address → Prop} {v : Value} (apart : s.Apart part v) (vars : t.vars = s.vars)
    (same : ∀ a, part a → t.heap.cell? a = s.heap.cell? a) :
    t.Apart part v ∧ t.heap.view v = s.heap.view v :=
  ⟨⟨apart.enclosed.of_same same, apart.within, vars ▸ apart.vars⟩,
    ((apart.enclosed.mirrored same).view apart.within).symm⟩

/-- The variables are made of a copy of the input, which itself stays as it is. -/
theorem seed_sound {payload : Value} {part : Address → Prop} (sound : s.Sound reserved)
    (held : Held reserved s.heap payload) (apart : s.Apart part payload) (seeded : s.seed payload = .ok t) :
    t.Sound reserved ∧ Held reserved t.heap payload ∧ t.Apart part payload ∧
      t.heap.view payload = s.heap.view payload := by
  rcases seed_cases seeded with ⟨-, rfl⟩ | ⟨a, own, copied, named, -, taken, read, rfl⟩
  · exact ⟨sound, held, apart, rfl⟩
  · obtain ⟨h, made, rfl⟩ := copy_eq taken
    have copy := Heap.copyOf_of_copy sound.heap held made
    have soundCopy := sound.grown copy.grown
    have entries : Held reserved h (entriesOf h own) := by
      unfold entriesOf
      split
      · exact copy.grown.sound.entries copy.held.2
      · exact Held.nil
    have heldNamed := Held.variableEntries entries read
    have heldVars : Held reserved h (named.map fun e => (Value.str e.1, e.2)) :=
      heldNamed.map fun e heldEntry => ⟨trivial, heldEntry.2⟩
    have grown := soundCopy.heap.write (c := .dict _) soundCopy.vars heldVars
    have same : ∀ a, part a → (h.write s.vars (.dict (named.map fun e => (Value.str e.1, e.2)))).cell? a = s.heap.cell? a := by
      intro a inside
      obtain ⟨c, there, -⟩ := apart.enclosed a inside
      have elsewhere : s.vars ≠ a := by
        rintro rfl
        exact apart.vars inside
      rw [Heap.cell?_write_of_ne _ elsewhere]
      exact copy.kept.same a (Heap.lt_of_cell? there)
    obtain ⟨still, view⟩ := apart.of_same (t := { s with heap := h.write s.vars (.dict (named.map fun e => (Value.str e.1, e.2))) })
      rfl same
    exact ⟨soundCopy.grown grown, Held.grown (Held.grown held copy.grown) grown, still, view⟩

end Scene

/-- What a run is given: an empty dictionary where there is no input. -/
def Order.given (o : Order) : Data :=
  match o.input with
  | .null => .dict []
  | d => d

namespace Scene

variable {s t : Scene}

/-- A run that is prepared works with a copy of the input, of which its variables are made. -/
theorem prepare_eq_ok {o : Order} {payload : Value} (prepared : s.prepare o.input = (.ok payload, t)) :
    ∃ h, (s.load o.given).2.heap.copy (s.load o.given).1 = .ok (payload, h) ∧
      ({ s with heap := h } : Scene).seed payload = .ok t := by
  unfold prepare at prepared
  extract_lets refuse given at prepared
  have told : given = o.given := rfl
  rw [told] at prepared
  split at prepared
  rename_i v loaded made
  obtain rfl : v = (s.load o.given).1 := by rw [made]
  obtain rfl : loaded = (s.load o.given).2 := by rw [made]
  split at prepared
  · cases prepared
  · rename_i own copied taken
    split at prepared
    · rename_i seeded sown
      cases prepared
      obtain ⟨h, copied, rfl⟩ := copy_eq taken
      exact ⟨h, copied, sown⟩
    · cases prepared

/-- The copy of the input is made on a sound heap, and it stands apart and shows the same when the variables are
made. -/
theorem prepare_copies {o : Order} {payload : Value} (sound : s.Sound reserved) (prepared : s.prepare o.input = (.ok payload, t)) :
    ∃ h, (s.load o.given).2.Sound reserved ∧ Held reserved (s.load o.given).2.heap (s.load o.given).1 ∧
      (s.load o.given).2.heap.copy (s.load o.given).1 = .ok (payload, h) ∧ t.Sound reserved ∧
      Held reserved t.heap payload ∧ (∃ part, t.Apart part payload) ∧ t.heap.view payload = h.view payload := by
  obtain ⟨h, made, sown⟩ := prepare_eq_ok prepared
  obtain ⟨grown, held⟩ := sound.heap.load o.given
  have loaded := sound.grown grown
  have copy := Heap.copyOf_of_copy loaded.heap held made
  have vars : ¬ (s.load o.given).2.heap.Fresh h s.vars := by
    intro fresh
    obtain ⟨c, there, -⟩ := Heap.exists_cell? loaded.vars.1
    exact Nat.not_lt_of_le fresh.1 (Heap.lt_of_cell? there)
  obtain ⟨final, heldFinal, apart, view⟩ :=
    seed_sound (loaded.grown copy.grown) copy.held ⟨copy.enclosed, copy.within, vars⟩ sown
  exact ⟨h, loaded, held, made, final, heldFinal, ⟨_, apart⟩, view⟩

/-- Preparing a run leads to a sound scene, where the copy of the input stands apart and shows the input. -/
theorem prepare_sound {o : Order} {payload : Value} (sound : s.Sound reserved) (prepared : s.prepare o.input = (.ok payload, t)) :
    t.Sound reserved ∧ Held reserved t.heap payload ∧
      (∃ part, t.Apart part payload) ∧ (t.heap.view payload).grounded = o.given.grounded := by
  obtain ⟨h, loaded, held, made, final, heldFinal, apart, view⟩ := prepare_copies sound prepared
  have copy := Heap.copyOf_of_copy loaded.heap held made
  refine ⟨final, heldFinal, apart, ?_⟩
  rw [view]
  exact (congrArg _ copy.view).trans (s.heap.load_shows o.given).2.view

end Scene

/-- What an action node is to do. -/
def Node.action? (n : Node) : Option ActionConfig :=
  match n.task with
  | .action c => some c
  | _ => none

/-- The parameters of actions under the ids of their nodes, in the order of the definition. -/
def parametersOf (nodes : List Node) : List (String × Data) :=
  nodes.filterMap fun n => n.action?.map fun c => (n.id, .ofFields c.parameters)

theorem parametersOf_action {n : Node} {c : ActionConfig} (action : n.task = .action c) (rest : List Node) :
    parametersOf (n :: rest) = (n.id, .ofFields c.parameters) :: parametersOf rest :=
  List.filterMap_cons_some (by simp [Node.action?, action])

theorem parametersOf_other {n : Node} (other : ∀ c, n.task = .action c → False) (rest : List Node) :
    parametersOf (n :: rest) = parametersOf rest := by
  refine List.filterMap_cons_none ?_
  unfold Node.action?
  split
  · exact absurd ‹_› (other _)
  · rfl

/-- A free dictionary that shows the parameters of an action. -/
structure Supplies (reserved : Address → Prop) (h : Heap) (written : String × Data) (loaded : String × Value) : Prop where
  id : loaded.1 = written.1
  shows_ : h.Shows loaded.2 written.2
  dict : ∃ a, loaded.2 = .dict a
  held : Held reserved h loaded.2

namespace Scene

variable {s : Scene}

/-- The parameters of all actions are put on the heap. -/
theorem loadParameters_supplies (sound : s.heap.Sound reserved) (done : List (String × Value)) (nodes : List Node) :
    ∃ h loaded, loadParameters done s nodes = (done.reverse ++ loaded, { s with heap := h }) ∧
      s.heap.Keeps s.heap.cells.size h ∧ s.heap.Grown reserved h ∧
      List.Forall₂ (Supplies reserved h) (parametersOf nodes) loaded := by
  induction nodes generalizing done s with
  | nil =>
      exact ⟨s.heap, [], by rw [loadParameters, List.append_nil], Heap.keeps_refl (Nat.le_refl _), .refl sound, .nil⟩
  | cons n rest ih =>
      unfold loadParameters
      split
      · rename_i c action
        obtain ⟨kept, shown⟩ := s.heap.load_shows (.ofFields c.parameters)
        obtain ⟨grown, held⟩ := sound.load (.ofFields c.parameters)
        obtain ⟨h, loaded, made, later, grownLater, supplied⟩ :=
          ih (s := { s with heap := (s.heap.load (.ofFields c.parameters)).2 }) grown.sound
            ((n.id, (s.heap.load (.ofFields c.parameters)).1) :: done)
        have first : Supplies reserved h (n.id, .ofFields c.parameters) (n.id, (s.heap.load (.ofFields c.parameters)).1) :=
          ⟨rfl, shown.later later, ⟨_, rfl⟩, Held.grown held grownLater⟩
        refine ⟨h, (n.id, (s.heap.load (.ofFields c.parameters)).1) :: loaded, ?_, kept.later later,
          grown.trans grownLater, parametersOf_action action rest ▸ .cons first supplied⟩
        rw [List.reverse_cons, List.append_assoc] at made
        exact made
      · rename_i other
        rw [parametersOf_other other]
        exact ih sound done

end Scene

namespace Order

variable {o : Order}

/-- A walk sets out in a sound scene without visits, with a free copy that shows the input, and with the parameters
as the definition has them. -/
structure Outset.IsSound (o : Order) (b : Outset) : Prop where
  scene : b.scene.Sound fun _ => False
  payload : Held (fun _ => False) b.scene.heap b.payload
  parameters : List.Forall₂ (Supplies (fun _ => False) b.scene.heap) (parametersOf o.workflow.nodes) b.parameters
  input : (b.scene.heap.view b.payload).grounded = o.given.grounded
  visits : b.scene.visits = []

/-- A walk sets out where its run was prepared, with the parameters beside what was there. -/
theorem outset_prepared {clock : Clock} {transport : Http.Transport} {b : Outset}
    (begun : o.outset? (Scene.start clock transport) = some b) :
    ∃ t, (Scene.start clock transport).prepare o.input = (.ok b.payload, t) ∧ (b.scene.Sound fun _ => False) ∧
      Held (fun _ => False) b.scene.heap b.payload ∧
      List.Forall₂ (Supplies (fun _ => False) b.scene.heap) (parametersOf o.workflow.nodes) b.parameters ∧
      b.scene.heap.view b.payload = t.heap.view b.payload := by
  obtain ⟨t, log, prepared, -, loading⟩ := outset?_eq_some begun
  obtain ⟨sound, held, ⟨part, apart⟩, -⟩ := Scene.prepare_sound (Scene.sound_start clock transport) prepared
  obtain ⟨h, loaded, made, kept, grown, supplied⟩ :=
    Scene.loadParameters_supplies (s := { t with log := log }) sound.heap [] o.workflow.nodes
  rw [loading] at made
  obtain ⟨payload, parameters, scene⟩ := b
  cases made
  have same : ∀ a, part a → h.cell? a = t.heap.cell? a := by
    intro a inside
    obtain ⟨c, there, -⟩ := apart.enclosed a inside
    exact kept.same a (Heap.lt_of_cell? there)
  exact ⟨t, prepared, ⟨grown.sound, Held.grown sound.vars grown⟩, Held.grown held grown, supplied,
    (apart.of_same (t := { t with heap := h }) rfl same).2⟩

theorem outset_isSound {clock : Clock} {transport : Http.Transport} {b : Outset}
    (begun : o.outset? (Scene.start clock transport) = some b) : b.IsSound o := by
  obtain ⟨t, prepared, sound, held, supplied, view⟩ := outset_prepared begun
  obtain ⟨-, -, -, shown⟩ := Scene.prepare_sound (Scene.sound_start clock transport) prepared
  exact ⟨sound, held, supplied, (congrArg _ view).trans shown, visits_of_outset begun⟩

end Order

end WorkflowEngine
