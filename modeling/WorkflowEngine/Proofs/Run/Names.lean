import WorkflowEngine.Proofs.Run.Opening

/-!
# What the variables hold

The variables stand on the heap as one dictionary with different texts for keys.  What it holds shows the same
data among the variables as it does alone, as long as it does not lead back to them.  A run begins with the
entries of its input, or without any.
-/

namespace WorkflowEngine

namespace Heap

variable {part part' : Address → Prop} {h h' : Heap} {a : Address} {v : Value} {named : List (String × Value)}
  {name : String}

/-- A value that lies in an enclosed part shows the same data inside a container outside of it. -/
theorem Enclosed.viewIn_inside (enclosed : h.Enclosed part) (outside : ¬ part a) (looks : v.Mirrors (Within part) v) :
    h.viewIn (h.cells.size + 1) [a] v = h.view v := by
  have apart : ∀ {x y}, Within part x y → x ∉ [a] ∧ y ∉ ([] : List Address) := by
    rintro x _ ⟨-, inside⟩
    exact ⟨fun listed => outside (List.mem_singleton.mp listed ▸ inside), List.not_mem_nil⟩
  have underway : Underway (Within part) h h (h.cells.size + 1) (h.cells.size + 2) [] [] [a] [] :=
    ⟨.nil, apart, .nil, .nil, by simp, by simp⟩
  exact (enclosed.mirrored fun _ _ => rfl).viewIn underway looks

/-- Two enclosed parts together are enclosed. -/
theorem Enclosed.union (enclosed : h.Enclosed part) (enclosed' : h.Enclosed part') :
    h.Enclosed fun a => part a ∨ part' a := by
  intro a inside
  rcases inside with inside | inside
  · obtain ⟨c, there, looks⟩ := enclosed a inside
    exact ⟨c, there, looks.mono fun related => ⟨related.1, .inl related.2⟩⟩
  · obtain ⟨c, there, looks⟩ := enclosed' a inside
    exact ⟨c, there, looks.mono fun related => ⟨related.1, .inr related.2⟩⟩

/-- The cell of a dictionary with texts for keys. -/
def record (named : List (String × Value)) : Cell :=
  .dict (named.map fun e => (.str e.1, e.2))

theorem entries_of_record (there : h.cell? a = some (record named)) :
    h.entries a = named.map fun e => (.str e.1, e.2) := by
  rw [Heap.entries, there]
  rfl

/-- Texts are told apart as they are, so setting the entry under one sets the first under it. -/
theorem setEntry_record (h : Heap) (nodup : (named.map Prod.fst).Nodup) :
    h.setEntry (named.map fun e => (.str e.1, e.2)) (.str name) v =
      (Reading.setKey name v named).map fun e => (.str e.1, e.2) := by
  have same (a : String) : h.sameKey (.str a) (.str name) = (a == name) := rfl
  induction named with
  | nil => rfl
  | cons e rest ih =>
      obtain ⟨fresh, nodup⟩ := List.nodup_cons.mp nodup
      have later := ih nodup
      unfold Heap.setEntry at later ⊢
      unfold Reading.setKey
      simp only [List.map_cons, List.any_cons, same]
      by_cases hit : e.1 = name
      · subst hit
        have others : (rest.map fun f => (Value.str f.1, f.2)).map
            (fun f => if h.sameKey f.1 (.str e.1) then (f.1, v) else f) = rest.map fun f => (Value.str f.1, f.2) := by
          rw [List.map_map]
          refine List.map_congr_left fun f listed => ?_
          have apart : (f.1 == e.1) = false :=
            beq_eq_false_iff_ne.mpr fun equal => fresh (equal ▸ List.mem_map_of_mem listed)
          simp only [Function.comp_apply, same, apart, Bool.false_eq_true, if_false]
        simp only [beq_self_eq_true, Bool.true_or, if_true, others, List.map_cons]
      · have miss : (e.1 == name) = false := beq_eq_false_iff_ne.mpr hit
        simp only [miss, Bool.false_or, Bool.false_eq_true, if_false, List.map_cons, ← later]
        split <;> simp

end Heap

namespace Scene

variable {s t : Scene} {named : List (String × Value)} {part part' : Address → Prop}

/-- All that the variables hold stands in a part of the heap that does not lead to them. -/
structure Contained (s : Scene) (part : Address → Prop) : Prop where
  enclosed : s.heap.Enclosed part
  outside : ¬ part s.vars
  within : ∀ e ∈ s.heap.entries s.vars, e.2.Mirrors (Within part) e.2

/-- The variables under their names, which are different. -/
structure Names (s : Scene) (named : List (String × Value)) : Prop where
  cell : s.heap.cell? s.vars = some (Heap.record named)
  nodup : (named.map Prod.fst).Nodup

/-- What the variables show one by one. -/
def shown (s : Scene) (named : List (String × Value)) : List (String × Data) :=
  named.map fun e => (e.1, s.heap.view e.2)

theorem Contained.value (contained : s.Contained part) (names : s.Names named) {e : String × Value} (listed : e ∈ named) :
    e.2.Mirrors (Within part) e.2 :=
  contained.within (.str e.1, e.2) (Heap.entries_of_record names.cell ▸ List.mem_map_of_mem listed)

/-- The data of the variables is what they show one by one. -/
theorem Names.variablesData (names : s.Names named) (contained : s.Contained part) :
    s.variablesData = .ofFields (s.shown named) := by
  unfold Scene.variablesData Scene.shown Heap.view Data.ofFields
  rw [Heap.viewIn, Value.outline]
  simp only [List.idxOf?_nil, Heap.entries_of_record names.cell, List.map_map]
  refine congrArg Data.dict (List.map_congr_left fun e listed => ?_)
  exact Prod.ext rfl (contained.enclosed.viewIn_inside contained.outside (contained.value names listed))

/-- Where the variables and what they hold are as they were, they show the same data. -/
theorem Names.of_same (names : s.Names named) (contained : s.Contained part) (vars : t.vars = s.vars)
    (same : ∀ a, a = s.vars ∨ part a → t.heap.cell? a = s.heap.cell? a) :
    t.Names named ∧ t.Contained part ∧ t.shown named = s.shown named := by
  have parts : ∀ a, part a → t.heap.cell? a = s.heap.cell? a := fun a inside => same a (.inr inside)
  have cell : t.heap.cell? t.vars = some (Heap.record named) := by
    rw [vars, same s.vars (.inl rfl)]
    exact names.cell
  refine ⟨⟨cell, names.nodup⟩, ⟨contained.enclosed.of_same parts, vars ▸ contained.outside, ?_⟩, ?_⟩
  · rw [Heap.entries_of_record cell, ← Heap.entries_of_record names.cell]
    exact contained.within
  · refine List.map_congr_left fun e listed => ?_
    rw [(contained.enclosed.mirrored parts).view (contained.value names listed)]

/-- Where nothing that was there has changed, the variables show the same data. -/
theorem Names.of_keeps (names : s.Names named) (contained : s.Contained part) (vars : t.vars = s.vars)
    (kept : s.heap.Keeps s.heap.cells.size t.heap) :
    t.Names named ∧ t.Contained part ∧ t.shown named = s.shown named := by
  refine names.of_same contained vars fun a inside => ?_
  rcases inside with rfl | inside
  · exact kept.same _ (Heap.lt_of_cell? names.cell)
  · obtain ⟨c, there, -⟩ := contained.enclosed a inside
    exact kept.same a (Heap.lt_of_cell? there)

/-- The variables are named by what is written for them, if that stands in a part that does not lead to them. -/
theorem names_of_cell (cell : t.heap.cell? t.vars = some (Heap.record named)) (nodup : (named.map Prod.fst).Nodup)
    (enclosed : t.heap.Enclosed part) (outside : ¬ part t.vars)
    (within : ∀ e ∈ named, e.2.Mirrors (Within part) e.2) : t.Names named ∧ t.Contained part := by
  refine ⟨⟨cell, nodup⟩, enclosed, outside, ?_⟩
  rw [Heap.entries_of_record cell]
  intro e listed
  obtain ⟨f, member, rfl⟩ := List.mem_map.mp listed
  exact within f member

/-- A variable is given a value that does not lead to the variables. -/
theorem Names.give {name : String} {v : Value} (names : s.Names named) (contained : s.Contained part)
    (apart : s.Apart part' v) (vars : t.vars = s.vars) (heap : t.heap = (s.assign name v).heap) :
    t.Names (Reading.setKey name v named) ∧ t.Contained (fun a => part a ∨ part' a) ∧
      t.heap.view v = s.heap.view v ∧
      t.shown (Reading.setKey name v named) = Reading.setKey name (t.heap.view v) (s.shown named) := by
  have written : t.heap = s.heap.write s.vars (Heap.record (Reading.setKey name v named)) := by
    rw [heap, assign, Heap.entries_of_record names.cell, Heap.setEntry_record s.heap names.nodup]
    rfl
  have outside : ¬ (part s.vars ∨ part' s.vars) := fun inside => inside.elim contained.outside apart.vars
  have same : ∀ a, part a ∨ part' a → t.heap.cell? a = s.heap.cell? a := by
    intro a inside
    have elsewhere : s.vars ≠ a := by
      rintro rfl
      exact outside inside
    rw [written, Heap.cell?_write_of_ne _ elsewhere]
  have cell : t.heap.cell? t.vars = some (Heap.record (Reading.setKey name v named)) := by
    rw [vars, written, Heap.cell?_write, if_pos ⟨rfl, Heap.lt_of_cell? names.cell⟩]
  have view : t.heap.view v = s.heap.view v :=
    ((apart.enclosed.mirrored fun a inside => same a (.inr inside)).view apart.within).symm
  have within : ∀ e ∈ Reading.setKey name v named, e.2.Mirrors (Within fun a => part a ∨ part' a) e.2 := by
    intro e listed
    rcases Reading.mem_setKey listed with old | rfl
    · exact (contained.value names old).mono fun related => ⟨related.1, .inl related.2⟩
    · exact apart.within.mono fun related => ⟨related.1, .inr related.2⟩
  have kept : s.shown named = t.shown named := by
    refine List.map_congr_left fun e listed => ?_
    rw [(contained.enclosed.mirrored fun a inside => same a (.inl inside)).view (contained.value names listed)]
  obtain ⟨given, containedLast⟩ := names_of_cell cell (Reading.nodup_setKey names.nodup)
    ((contained.enclosed.union apart.enclosed).of_same same) (vars ▸ outside) within
  refine ⟨given, containedLast, view, ?_⟩
  rw [kept]
  exact Reading.map_setKey t.heap.view

end Scene

/-- A field that a value is listed under, and shows the data of. -/
def ShowsField (h : Heap) (e : String × Value) (field : String × Data) : Prop :=
  e.1 = field.1 ∧ (h.view e.2).grounded = field.2.grounded

namespace Heap

variable {reserved : Address → Prop} {h h' : Heap} {v w : Value} {fields : List (String × Data)}

/-- The value is a dictionary that shows fields one by one. -/
def Lists (h : Heap) (v : Value) (fields : List (String × Data)) : Prop :=
  ∃ a named, v = .dict a ∧ h.cell? a = some (record named) ∧ List.Forall₂ (ShowsField h) named fields

/-- Where values show fields one by one, they show the same as a whole. -/
theorem grounded_ofFields {named : List (String × Value)} (shown : List.Forall₂ (ShowsField h) named fields) :
    (Data.ofFields (named.map fun e => (e.1, h.view e.2))).grounded = (Data.ofFields fields).grounded := by
  simp only [Data.ofFields, Data.grounded, Data.groundedEntries_eq_map, List.map_map]
  refine congrArg Data.dict (map_eq_of_forall₂ shown fun e field shows_ => ?_)
  exact Prod.ext (congrArg Data.str shows_.1) shows_.2

theorem names_of_forall₂ {named : List (String × Value)} (shown : List.Forall₂ (ShowsField h) named fields) :
    named.map Prod.fst = fields.map Prod.fst :=
  map_eq_of_forall₂ shown fun _ _ shows_ => shows_.1

theorem loadEntries_fields (h : Heap) (done : List (Value × Value)) (fields : List (String × Data)) :
    ∃ named : List (String × Value),
      (h.loadEntries done (fields.map fun p => (.str p.1, p.2))).1 = done.reverse ++ named.map (fun e => (.str e.1, e.2)) ∧
        List.Forall₂ (fun e p => e.1 = p.1 ∧ (h.loadEntries done (fields.map fun p => (.str p.1, p.2))).2.Shows e.2 p.2)
          named fields := by
  induction fields generalizing h done with
  | nil => exact ⟨[], (List.append_nil _).symm, .nil⟩
  | cons p rest ih =>
      obtain ⟨-, first⟩ := h.load_shows p.2
      obtain ⟨named, loaded, shown⟩ := ih (h.load p.2).2 ((.str p.1, (h.load p.2).1) :: done)
      obtain ⟨kept, -⟩ := loadEntries_shows (h.load p.2).2 ((.str p.1, (h.load p.2).1) :: done)
        (rest.map fun p => (.str p.1, p.2))
      rw [List.reverse_cons, List.append_assoc] at loaded
      exact ⟨(p.1, (h.load p.2).1) :: named, loaded, .cons ⟨rfl, first.later kept⟩ shown⟩

/-- A dictionary with texts for keys is put on the heap with its fields. -/
theorem load_lists (h : Heap) (fields : List (String × Data)) :
    (h.load (.ofFields fields)).2.Lists (h.load (.ofFields fields)).1 fields := by
  obtain ⟨named, loaded, shown⟩ := h.loadEntries_fields [] fields
  have put := cell?_alloc (h.loadEntries [] (fields.map fun p => (.str p.1, p.2))).2
    (.dict (h.loadEntries [] (fields.map fun p => (.str p.1, p.2))).1)
  refine ⟨_, named, rfl, put.trans (congrArg (fun entries => some (Cell.dict entries)) loaded), ?_⟩
  have later := keeps_alloc (Nat.le_refl _) (h := (h.loadEntries [] (fields.map fun p => (.str p.1, p.2))).2)
    (.dict (h.loadEntries [] (fields.map fun p => (.str p.1, p.2))).1)
  exact shown.imp fun e p both => ⟨both.1, (both.2.later later).view⟩

/-- A copy of a dictionary shows the same fields. -/
theorem CopyOf.lists (copy : CopyOf reserved h v h' w) (lists : h.Lists v fields) : h'.Lists w fields := by
  obtain ⟨m, mirrored, looks⟩ := copy.mirrors
  obtain ⟨a, named, rfl, there, shown⟩ := lists
  cases looks with
  | plain plain => exact absurd plain id
  | @dict _ b related =>
      obtain ⟨c, d, source, target, same⟩ := mirrored.cells related
      obtain rfl : c = record named := Option.some.inj (source.symm.trans there)
      cases same with
      | @dict _ ys entries =>
          have parts : ∃ named', ys = List.map (fun e => (Value.str e.1, e.2)) named' ∧
              List.Forall₂ (ShowsField h') named' fields := by
            clear there source target
            induction shown generalizing ys with
            | nil =>
                cases entries
                exact ⟨[], rfl, .nil⟩
            | @cons e field _ _ first _ ih =>
                cases entries with
                | @cons _ f _ _ both rest =>
                    obtain ⟨key, item⟩ := both
                    obtain ⟨named', rfl, others⟩ := ih rest
                    obtain ⟨k, x⟩ := f
                    cases key
                    refine ⟨(e.1, x) :: named', rfl, .cons ⟨first.1, ?_⟩ others⟩
                    rw [← mirrored.view item]
                    exact first.2
          obtain ⟨named', rfl, others⟩ := parts
          exact ⟨b, named', rfl, target, others⟩

end Heap

namespace Scene

variable {reserved : Address → Prop} {s t : Scene} {payload : Value}

theorem names_start (clock : Clock) (transport : Http.Transport) :
    (start clock transport).Names [] ∧ (start clock transport).Contained fun _ => False :=
  ⟨⟨Heap.cell?_alloc Heap.empty (.dict []), List.nodup_nil⟩, nofun, id, nofun⟩

/-- Variables that hold nothing lead to nothing. -/
theorem Names.contained (names : s.Names []) : s.Contained fun _ => False := by
  refine ⟨nofun, id, ?_⟩
  rw [Heap.entries_of_record names.cell]
  exact nofun

/-- The entries of a copy are made of what is new. -/
theorem entriesOf_within {h : Heap} {own : Value} (copy : Heap.CopyOf reserved s.heap payload h own) :
    ∀ e ∈ entriesOf h own, e.2.Mirrors (Within (s.heap.Fresh h)) e.2 := by
  intro e listed
  unfold entriesOf at listed
  split at listed
  · rename_i b
    have inside : s.heap.Fresh h b := by
      cases copy.within with
      | dict related => exact related.2
      | plain plain => exact absurd plain id
    exact (List.forall₂_same.mp ((copy.enclosed.mirrored fun _ _ => rfl).entries ⟨rfl, inside⟩) e listed).2
  · cases listed

/-- The entries of a copy of a dictionary with different texts for keys are named as the dictionary lists them. -/
theorem entriesOf_lists {h : Heap} {own : Value} {named : List (String × Value)} {fields : List (String × Data)}
    (copy : Heap.CopyOf reserved s.heap payload h own) (read : variableEntries h (entriesOf h own) = .ok named)
    (different : (fields.map Prod.fst).Nodup) (lists : s.heap.Lists payload fields) :
    List.Forall₂ (ShowsField h) named fields := by
  obtain ⟨b, texts, rfl, there, shown⟩ := copy.lists lists
  have entries : entriesOf h (.dict b) = texts.map fun e => (.str e.1, e.2) := Heap.entries_of_record there
  have merged := variableEntries_texts h texts (Heap.names_of_forall₂ shown ▸ different)
  rw [← entries] at merged
  exact Reading.ok.inj (merged.symm.trans read) ▸ shown

/-- The variables are made of a further copy of the input, which does not lead to them. -/
theorem seed_names (sound : s.Sound reserved) (held : Held reserved s.heap payload) (names : s.Names [])
    (seeded : s.seed payload = .ok t) :
    ∃ named part, t.Names named ∧ t.Contained part ∧ ((∀ a, payload ≠ .dict a) → named = []) ∧
      ∀ fields : List (String × Data), (fields.map Prod.fst).Nodup → s.heap.Lists payload fields →
        List.Forall₂ (ShowsField t.heap) named fields := by
  rcases seed_cases seeded with ⟨other, rfl⟩ | ⟨a, own, copied, named, rfl, taken, read, rfl⟩
  · refine ⟨[], _, names, names.contained, fun _ => rfl, fun fields _ lists => ?_⟩
    obtain ⟨a, -, same, -⟩ := lists
    exact absurd same (other a)
  · obtain ⟨h, made, rfl⟩ := copy_eq taken
    have copy := Heap.copyOf_of_copy sound.heap held made
    have below : s.vars < s.heap.cells.size := Heap.lt_of_cell? names.cell
    have outside : ¬ s.heap.Fresh h s.vars := fun fresh => Nat.not_lt_of_le fresh.1 below
    obtain ⟨nodup, values⟩ := variableEntries_spec read
    have cell : (h.write s.vars (Heap.record named)).cell? s.vars = some (Heap.record named) := by
      rw [Heap.cell?_write, if_pos ⟨rfl, Nat.lt_of_lt_of_le below copy.kept.room⟩]
    have same : ∀ a, s.heap.Fresh h a → (h.write s.vars (Heap.record named)).cell? a = h.cell? a := by
      intro a fresh
      have elsewhere : s.vars ≠ a := by
        rintro rfl
        exact outside fresh
      exact Heap.cell?_write_of_ne _ elsewhere
    have within : ∀ e ∈ named, e.2.Mirrors (Within (s.heap.Fresh h)) e.2 := by
      intro e listed
      obtain ⟨f, inside, equal⟩ := values e listed
      exact equal ▸ entriesOf_within copy f inside
    obtain ⟨given, contained⟩ := names_of_cell (t := { s with heap := h.write s.vars (Heap.record named) }) cell nodup
      (copy.enclosed.of_same same) outside within
    refine ⟨named, _, given, contained, fun other => absurd rfl (other a), fun fields different lists => ?_⟩
    obtain ⟨length, all⟩ := List.forall₂_iff_zip.mp (entriesOf_lists copy read different lists)
    refine List.forall₂_iff_zip.mpr ⟨length, fun {e field} listed => ⟨(all listed).1, ?_⟩⟩
    have view := (copy.enclosed.mirrored same).view (within e (List.of_mem_zip listed).1)
    exact (congrArg _ view.symm).trans (all listed).2

end Scene

/-- The fields that the variables have first: those of the input, if it is accepted and a dictionary, and else none. -/
structure Order.Opens (o : Order) (s : Scene) (fields : List (String × Data)) : Prop where
  refused : ∀ e t, s.prepare o.input = (.error e, t) → fields = []
  other : (∀ entries, o.given ≠ .dict entries) → fields = []
  entries : ∀ payload t given, s.prepare o.input = (.ok payload, t) → (given.map Prod.fst).Nodup →
    o.given = .ofFields given → (Data.ofFields fields).grounded = (Data.ofFields given).grounded

namespace Scene

variable {reserved : Address → Prop} {s t : Scene} {payload : Value} {o : Order}

theorem prepare_error {e : RunFailure} (refused : s.prepare o.input = (.error e, t)) : t = s := by
  unfold prepare at refused
  dsimp only at refused
  split at refused
  · cases refused
    rfl
  · split at refused
    · cases refused
    · cases refused
      rfl

/-- A run that is prepared has the fields of its input for variables. -/
theorem prepare_names (sound : s.Sound reserved) (names : s.Names []) (prepared : s.prepare o.input = (.ok payload, t)) :
    ∃ named part, t.Names named ∧ t.Contained part ∧ o.Opens s (t.shown named) := by
  obtain ⟨h, made, sown⟩ := prepare_eq_ok prepared
  obtain ⟨grown, held⟩ := sound.heap.load o.given
  obtain ⟨kept, shown⟩ := s.heap.load_shows o.given
  have copy := Heap.copyOf_of_copy grown.sound held made
  obtain ⟨again, -, -⟩ := names.of_keeps (t := { s with heap := h }) names.contained rfl (kept.later copy.kept)
  obtain ⟨named, part, final, contained, none, made⟩ :=
    seed_names (sound.grown (grown.trans copy.grown)) copy.held again sown
  refine ⟨named, part, final, contained, ⟨fun e u refused => ?_, fun other => ?_, ?_⟩⟩
  · rw [prepared] at refused
    cases refused
  · have view : (h.view payload).grounded = o.given.grounded := (congrArg _ copy.view).trans shown.view
    have empty : named = [] := by
      refine none fun a same => ?_
      subst same
      cases given : o.given with
      | dict entries => exact other entries given
      | _ =>
          rw [given] at view
          cases view
    rw [empty]
    rfl
  · intro payload' u given prepared' different same
    have loaded : (s.heap.load o.given).2.Lists (s.heap.load o.given).1 given := same ▸ s.heap.load_lists given
    exact Heap.grounded_ofFields (made given different (copy.lists loaded))

end Scene

namespace Order

variable {o : Order} {clock : Clock} {transport : Http.Transport}

/-- A walk sets out with the fields of the input for variables. -/
theorem outset_names {b : Outset} (begun : o.outset? (Scene.start clock transport) = some b) :
    ∃ named part, b.scene.Names named ∧ b.scene.Contained part ∧
      o.Opens (Scene.start clock transport) (b.scene.shown named) := by
  obtain ⟨t, log, prepared, -, loading⟩ := outset?_eq_some begun
  have sound := Scene.sound_start clock transport
  obtain ⟨named, part, names, contained, opens⟩ := Scene.prepare_names sound (Scene.names_start clock transport).1 prepared
  obtain ⟨heap, -, -, -⟩ := Scene.prepare_sound sound prepared
  obtain ⟨h, loaded, made, kept, -, -⟩ :=
    Scene.loadParameters_supplies (s := { t with log := log }) heap.heap [] o.workflow.nodes
  rw [loading] at made
  have scene : b.scene = { t with log := log, heap := h } := congrArg Prod.snd made
  obtain ⟨final, apart, shown⟩ := names.of_keeps (t := b.scene) contained (by rw [scene]) (by rw [scene]; exact kept)
  exact ⟨named, part, final, apart, shown ▸ opens⟩

/-- A run whose walk does not set out ends with the fields of the input for variables. -/
theorem names_of_no_outset (closed : o.outset? (Scene.start clock transport) = none) :
    ∃ fields, (o.carryOut (Scene.start clock transport)).2.variablesData = .ofFields fields ∧
      o.Opens (Scene.start clock transport) fields := by
  obtain ⟨names, contained⟩ := Scene.names_start clock transport
  rcases carryOut_of_no_outset closed with ⟨e, refused⟩ | ⟨payload, t, prepared, ended⟩
  · rw [Scene.prepare_error refused]
    refine ⟨[], names.variablesData contained, fun _ _ _ => rfl, fun _ => rfl, ?_⟩
    intro payload t given prepared
    rw [refused] at prepared
    cases prepared
  · obtain ⟨named, part, final, apart, opens⟩ := Scene.prepare_names (Scene.sound_start clock transport) names prepared
    rw [ended]
    exact ⟨t.shown named, final.variablesData apart, opens⟩

end Order

end WorkflowEngine
