import WorkflowEngine.Proofs.Frame.Machine
import WorkflowEngine.Proofs.Region.Mirror

/-!
# Data on the heap

Data that is put on the heap takes fresh containers only, and its value shows it again.  Two things are lost on
the way: missing numbers are told apart anew, and what is no value on a heap of its own counts as nothing.
-/

namespace WorkflowEngine

namespace Data

mutual

/-- The data as a heap takes it over, with all missing numbers alike. -/
def grounded : Data → Data
  | .nan _ => .nan 0
  | .list items => .list (groundedItems items)
  | .tuple items => .tuple (groundedItems items)
  | .set items => .set (groundedItems items)
  | .dict entries => .dict (groundedEntries entries)
  | .method _ _ _ => .null
  | .slice _ _ _ => .null
  | .cycle _ => .null
  | d => d

/-- The items as a heap takes them over. -/
def groundedItems : List Data → List Data
  | [] => []
  | item :: rest => grounded item :: groundedItems rest

/-- The entries as a heap takes them over. -/
def groundedEntries : List (Data × Data) → List (Data × Data)
  | [] => []
  | (key, item) :: rest => (grounded key, grounded item) :: groundedEntries rest

end

theorem groundedItems_eq_map (items : List Data) : groundedItems items = items.map grounded := by
  induction items with
  | nil => rfl
  | cons item rest ih => rw [groundedItems, ih, List.map_cons]

theorem groundedEntries_eq_map (entries : List (Data × Data)) :
    groundedEntries entries = entries.map fun e => (e.1.grounded, e.2.grounded) := by
  induction entries with
  | nil => rfl
  | cons e rest ih => rw [groundedEntries, ih, List.map_cons]

end Data

namespace Heap

variable {h h' h'' : Heap} {v : Value} {d : Data}

/-- On the heap, and wherever it is kept, the value shows the data as a heap takes it over, under any path of
containers that came later. -/
def Shows (h : Heap) (v : Value) (d : Data) : Prop :=
  ∀ h' fuel path, h.Keeps h.cells.size h' → h.cells.size < fuel → (∀ a ∈ path, h.cells.size ≤ a) →
    (h'.viewIn fuel path v).grounded = d.grounded

theorem Keeps.lower {n n' : Nat} (kept : h.Keeps n h') (le : n' ≤ n) : h.Keeps n' h' :=
  ⟨Nat.le_trans le kept.room, fun a below => kept.same a (Nat.lt_of_lt_of_le below le)⟩

theorem Keeps.later (first : h.Keeps h.cells.size h') (second : h'.Keeps h'.cells.size h'') :
    h.Keeps h.cells.size h'' :=
  first.trans (second.lower first.room)

theorem Shows.later (shows_ : h.Shows v d) (kept : h.Keeps h.cells.size h') : h'.Shows v d :=
  fun h'' fuel path later enough above =>
    shows_ h'' fuel path (kept.later later) (Nat.lt_of_le_of_lt kept.room enough)
      fun a listed => Nat.le_trans kept.room (above a listed)

theorem Shows.view (shows_ : h.Shows v d) : (h.view v).grounded = d.grounded :=
  shows_ h _ [] (keeps_refl (Nat.le_refl _)) (by omega) fun _ listed => absurd listed List.not_mem_nil

/-- A value without parts shows itself. -/
theorem shows_plain {shown : Data} (plain : ∀ h fuel path, Heap.viewIn h (fuel + 1) path v = shown)
    (same : shown.grounded = d.grounded) : h.Shows v d := by
  intro h' fuel path _ enough _
  obtain ⟨fuel, rfl⟩ := Nat.exists_eq_add_of_lt enough
  rw [plain, same]

/-- A container that is put behind its parts is looked at under a path that it is not on. -/
theorem shows_alloc {c : Cell}
    (inner : ∀ h' fuel path, h'.cell? h.cells.size = some c → h.Keeps h.cells.size h' → h.cells.size < fuel →
      path.idxOf? h.cells.size = none → (∀ a ∈ h.cells.size :: path, h.cells.size ≤ a) →
      (h'.viewIn (fuel + 1) path v).grounded = d.grounded) : (h.alloc c).2.Shows v d := by
  intro h' fuel path kept enough above
  obtain ⟨fuel, rfl⟩ := Nat.exists_eq_add_of_lt (Nat.lt_of_le_of_lt (Nat.zero_le _) enough)
  have size : (h.alloc c).2.cells.size = h.cells.size + 1 := by simp [Heap.alloc]
  rw [size] at kept enough above
  rw [Nat.zero_add] at enough ⊢
  refine inner h' fuel path ?_ ?_ (Nat.lt_of_succ_lt_succ enough) ?_ fun a listed => ?_
  · exact (kept.same _ (Nat.lt_succ_self _)).trans (cell?_alloc h c)
  · exact (keeps_alloc (Nat.le_refl _) c).trans (kept.lower (Nat.le_succ _))
  · rw [List.idxOf?_eq_none_iff]
    intro listed
    exact Nat.not_succ_le_self _ (above _ listed)
  · rcases List.mem_cons.mp listed with rfl | old
    · exact Nat.le_refl _
    · exact Nat.le_of_succ_le (above a old)

/-- A list, a tuple or a set shows its items. -/
theorem shows_items {values : List Value} {items : List Data} {c : Cell} (name : Address → Value)
    (form : List Data → Data) (shown : List.Forall₂ h.Shows values items)
    (parts : ∀ {h' : Heap} {a}, h'.cell? a = some c → h'.items a = values)
    (viewed : ∀ h' fuel path a, Heap.viewIn h' (fuel + 1) path (name a) =
      match path.idxOf? a with
      | some index => .cycle (index + 1)
      | none => form ((h'.items a).map (h'.viewIn fuel (a :: path))))
    (formed : ∀ items, (form items).grounded = form (Data.groundedItems items)) :
    (h.alloc c).2.Shows (name (h.alloc c).1) (form items) := by
  refine shows_alloc fun h' fuel path put older enough fresh later => ?_
  rw [viewed, show (h.alloc c).1 = h.cells.size from rfl, fresh, parts put]
  simp only [formed, Data.groundedItems_eq_map, List.map_map]
  refine congrArg form (map_eq_of_forall₂ shown fun v d shows_ => ?_)
  exact shows_ h' fuel _ older enough later

/-- A list, a tuple or a set that is filled with what was put on the heap shows it. -/
theorem shows_filled {items : List Data} (make : List Value → Cell) (name : Address → Value) (form : List Data → Data)
    (loads : h.Keeps h.cells.size (h.loadItems [] items).2 ∧
      ∃ values, (h.loadItems [] items).1 = [].reverse ++ values ∧ List.Forall₂ (h.loadItems [] items).2.Shows values items)
    (parts : ∀ {h' : Heap} {a values}, h'.cell? a = some (make values) → h'.items a = values)
    (viewed : ∀ h' fuel path a, Heap.viewIn h' (fuel + 1) path (name a) =
      match path.idxOf? a with
      | some index => .cycle (index + 1)
      | none => form ((h'.items a).map (h'.viewIn fuel (a :: path))))
    (formed : ∀ items, (form items).grounded = form (Data.groundedItems items)) :
    let filled := (h.loadItems [] items).2.alloc (make (h.loadItems [] items).1)
    h.Keeps h.cells.size filled.2 ∧ filled.2.Shows (name filled.1) (form items) := by
  intro filled
  obtain ⟨kept, values, loaded, shown⟩ := loads
  refine ⟨kept.later (keeps_alloc (Nat.le_refl _) _), ?_⟩
  exact shows_items name form shown (fun put => (parts put).trans loaded) viewed formed

/-- A dictionary shows its entries. -/
theorem shows_dict {values : List (Value × Value)} {entries : List (Data × Data)}
    (shown : List.Forall₂ (fun e p => h.Shows e.1 p.1 ∧ h.Shows e.2 p.2) values entries) :
    (h.alloc (.dict values)).2.Shows (.dict (h.alloc (.dict values)).1) (.dict entries) := by
  refine shows_alloc fun h' fuel path put older enough fresh later => ?_
  have parts : h'.entries h.cells.size = values := by rw [Heap.entries, put]
  rw [viewIn, Value.outline, show (h.alloc (.dict values)).1 = h.cells.size from rfl, fresh, parts]
  simp only [Data.grounded, Data.groundedEntries_eq_map, List.map_map]
  refine congrArg Data.dict (map_eq_of_forall₂ shown fun e p both => ?_)
  exact Prod.ext (both.1 h' fuel _ older enough later) (both.2 h' fuel _ older enough later)

mutual

/-- Data that is put on the heap keeps what was there and is shown by its value. -/
theorem load_shows (h : Heap) (d : Data) : h.Keeps h.cells.size (h.load d).2 ∧ (h.load d).2.Shows (h.load d).1 d := by
  have still : h.Keeps h.cells.size h := keeps_refl (Nat.le_refl _)
  cases d with
  | list items =>
      rw [Heap.load]
      exact shows_filled .list .list .list (loadItems_shows h [] items) (fun put => by rw [Heap.items, put])
        (fun _ _ _ _ => rfl) fun _ => rfl
  | tuple items =>
      rw [Heap.load]
      exact shows_filled .tuple .tuple .tuple (loadItems_shows h [] items) (fun put => by rw [Heap.items, put])
        (fun _ _ _ _ => rfl) fun _ => rfl
  | set items =>
      rw [Heap.load]
      exact shows_filled .set .set .set (loadItems_shows h [] items) (fun put => by rw [Heap.items, put])
        (fun _ _ _ _ => rfl) fun _ => rfl
  | dict entries =>
      obtain ⟨kept, values, loaded, shown⟩ := loadEntries_shows h [] entries
      rw [Heap.load]
      rcases ran : h.loadEntries [] entries with ⟨values, later⟩
      rw [ran] at kept loaded shown
      subst loaded
      exact ⟨kept.later (keeps_alloc (Nat.le_refl _) _), shows_dict shown⟩
  | nan mark => exact ⟨⟨Nat.le_refl _, fun _ _ => rfl⟩, shows_plain (fun _ _ _ => rfl) rfl⟩
  | _ => exact ⟨still, shows_plain (fun _ _ _ => rfl) rfl⟩

theorem loadItems_shows (h : Heap) (done : List Value) (items : List Data) :
    h.Keeps h.cells.size (h.loadItems done items).2 ∧ ∃ values, (h.loadItems done items).1 = done.reverse ++ values ∧
      List.Forall₂ (h.loadItems done items).2.Shows values items := by
  cases items with
  | nil => exact ⟨keeps_refl (Nat.le_refl _), [], (List.append_nil _).symm, .nil⟩
  | cons item rest =>
      obtain ⟨kept, shown⟩ := load_shows h item
      obtain ⟨later, values, loaded, others⟩ := loadItems_shows (h.load item).2 ((h.load item).1 :: done) rest
      rw [Heap.loadItems]
      exact ⟨kept.later later, _ :: values, by simpa using loaded, .cons (shown.later later) others⟩

theorem loadEntries_shows (h : Heap) (done : List (Value × Value)) (entries : List (Data × Data)) :
    h.Keeps h.cells.size (h.loadEntries done entries).2 ∧
      ∃ values, (h.loadEntries done entries).1 = done.reverse ++ values ∧
        List.Forall₂ (fun e p => (h.loadEntries done entries).2.Shows e.1 p.1 ∧
          (h.loadEntries done entries).2.Shows e.2 p.2) values entries := by
  rcases entries with _ | ⟨⟨key, item⟩, rest⟩
  · exact ⟨keeps_refl (Nat.le_refl _), [], (List.append_nil _).symm, .nil⟩
  · obtain ⟨keptKey, shownKey⟩ := load_shows h key
    obtain ⟨kept, shown⟩ := load_shows (h.load key).2 item
    obtain ⟨later, values, loaded, others⟩ :=
      loadEntries_shows ((h.load key).2.load item).2 (((h.load key).1, ((h.load key).2.load item).1) :: done) rest
    rw [Heap.loadEntries]
    refine ⟨(keptKey.later kept).later later, _ :: values, by simpa using loaded, .cons ⟨?_, ?_⟩ others⟩
    · exact shownKey.later (kept.later later)
    · exact shown.later later

end

section Free

variable {reserved : Address → Prop}

mutual

/-- Data that is put on the heap is free. -/
theorem Sound.load {h : Heap} (sound : h.Sound reserved) (d : Data) :
    h.Grown reserved (h.load d).2 ∧ Held reserved (h.load d).2 (h.load d).1 := by
  cases d with
  | nan mark => exact ⟨sound.freshMark, trivial⟩
  | list items =>
      obtain ⟨grown, held⟩ := sound.loadItems Held.nil items
      obtain ⟨last, free⟩ := grown.sound.alloc (c := .list _) held
      exact ⟨grown.trans last, free⟩
  | tuple items =>
      obtain ⟨grown, held⟩ := sound.loadItems Held.nil items
      obtain ⟨last, free⟩ := grown.sound.alloc (c := .tuple _) held
      exact ⟨grown.trans last, free⟩
  | set items =>
      obtain ⟨grown, held⟩ := sound.loadItems Held.nil items
      obtain ⟨last, free⟩ := grown.sound.alloc (c := .set _) held
      exact ⟨grown.trans last, free⟩
  | dict entries =>
      obtain ⟨grown, held⟩ := sound.loadEntries Held.nil entries
      obtain ⟨last, free⟩ := grown.sound.alloc (c := .dict _) held
      exact ⟨grown.trans last, free⟩
  | _ => exact ⟨.refl sound, trivial⟩

theorem Sound.loadItems {h : Heap} (sound : h.Sound reserved) {done : List Value} (before : Held reserved h done)
    (items : List Data) :
    h.Grown reserved (h.loadItems done items).2 ∧ Held reserved (h.loadItems done items).2 (h.loadItems done items).1 := by
  cases items with
  | nil => exact ⟨.refl sound, before.reverse⟩
  | cons item rest =>
      obtain ⟨grown, held⟩ := sound.load item
      obtain ⟨later, all⟩ := grown.sound.loadItems (Held.cons held (before.grown grown)) rest
      exact ⟨grown.trans later, all⟩

theorem Sound.loadEntries {h : Heap} (sound : h.Sound reserved) {done : List (Value × Value)} (before : Held reserved h done)
    (entries : List (Data × Data)) :
    h.Grown reserved (h.loadEntries done entries).2 ∧
      Held reserved (h.loadEntries done entries).2 (h.loadEntries done entries).1 := by
  rcases entries with _ | ⟨⟨key, item⟩, rest⟩
  · exact ⟨.refl sound, before.reverse⟩
  · obtain ⟨grown, heldKey⟩ := sound.load key
    obtain ⟨later, held⟩ := grown.sound.load item
    have both := grown.trans later
    have pair : Held reserved _ ((h.load key).1, ((h.load key).2.load item).1) := ⟨Held.grown heldKey later, held⟩
    obtain ⟨last, all⟩ := both.sound.loadEntries (Held.cons pair (before.grown both)) rest
    exact ⟨both.trans last, all⟩

end

end Free

end Heap

end WorkflowEngine
