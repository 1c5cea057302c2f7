import Mathlib.Data.List.Nodup
import WorkflowEngine.Proofs.Frame.Machine
import WorkflowEngine.Proofs.Region.Mirror

/-!
# Copies mirror what they are copies of

Copying a value leaves the heap that was there as it is and puts a copy of each container that is reached at a
fresh address.  While the copy is under way, some of the fresh containers still wait for their parts; each one
that is done mirrors the container that it is a copy of.  In the end all of them do, so the copy shows the same
data, and it shares no container with what was there.
-/

namespace WorkflowEngine

variable {reserved : Address → Prop} {h : Heap} {α β : Type}

theorem Cell.Mirrors.kind_eq {m : Address → Address → Prop} {c d : Cell} (mirrors : c.Mirrors m d) : d.kind = c.kind := by
  cases mirrors <;> rfl

theorem Heap.kind?_write {c : Cell} {a : Address} (there : h.kind? a = some c.kind) (b : Address) :
    (h.write a c).kind? b = h.kind? b := by
  rw [kind?, cell?_write]
  split
  · rename_i same
    rw [← same.1, there]
    rfl
  · rfl

namespace Copying

variable {c c' c'' : Copying} {a b : Address}

/-- The copy of an entry of a dictionary. -/
def entry (fuel : Nat) (c : Copying) (e : Value × Value) : Except Fault ((Value × Value) × Copying) :=
  match value fuel c e.1 with
  | .error f => .error f
  | .ok (key, c) =>
    match value fuel c e.2 with
    | .error f => .error f
    | .ok (item, c) => .ok ((key, item), c)

/-- An entry that is copied is copied key first. -/
theorem entry_eq_ok {fuel : Nat} {e f : Value × Value} (copied : entry fuel c e = .ok (f, c'')) :
    ∃ c', value fuel c e.1 = .ok (f.1, c') ∧ value fuel c' e.2 = .ok (f.2, c'') := by
  unfold entry at copied
  split at copied
  · cases copied
  · rename_i key c' madeKey
    split at copied
    · cases copied
    · rename_i item c'' madeItem
      cases copied
      exact ⟨c', madeKey, madeItem⟩

theorem value_dict (fuel : Nat) (c : Copying) (a : Address) :
    value (fuel + 1) c (.dict a) =
      match c.copies.lookup a with
      | some fresh => .ok (.dict fresh, c)
      | none =>
        match each (entry fuel) (c.reserve a (.dict [])).2 [] ((c.reserve a (.dict [])).2.heap.entries a) with
        | .error f => .error f
        | .ok (entries, c') =>
          .ok (.dict c.heap.cells.size, { c' with heap := c'.heap.write c.heap.cells.size (.dict entries) }) :=
  rfl

/-- One container is the copy of the other. -/
def Copied (c : Copying) (a b : Address) : Prop :=
  (a, b) ∈ c.copies

/-- The copy of a container has its parts. -/
def Done (h : Heap) (c : Copying) (a b : Address) : Prop :=
  ∃ x y, h.cell? a = some x ∧ c.heap.cell? b = some y ∧ x.Mirrors c.Copied y

/-- A copy under way from a heap: what was there is as it was, and what is fresh are copies of free containers,
one for one and of the same kinds. -/
structure Valid (reserved : Address → Prop) (h : Heap) (c : Copying) : Prop where
  room : h.cells.size ≤ c.heap.cells.size
  same : ∀ a < h.cells.size, c.heap.cell? a = h.cell? a
  sources : (c.copies.map Prod.fst).Nodup
  targets : (c.copies.map Prod.snd).Nodup
  kinds : ∀ {a b}, c.Copied a b → h.cells.size ≤ b ∧ ∃ k, h.Free reserved k a ∧ c.heap.kind? b = some k
  all : ∀ b, h.cells.size ≤ b → b < c.heap.cells.size → ∃ a, c.Copied a b

/-- A later stage of a copy, where all containers that were reached since then are done. -/
structure Extends (h : Heap) (c c' : Copying) : Prop where
  room : c.heap.cells.size ≤ c'.heap.cells.size
  before : ∀ b < c.heap.cells.size, c'.heap.cell? b = c.heap.cell? b
  copies : c.copies <:+ c'.copies
  done : ∀ {a b}, c'.Copied a b → c.Copied a b ∨ c'.Done h a b

namespace Valid

theorem unique (valid : Valid reserved h c) : Relator.BiUnique c.Copied := by
  constructor
  · intro a a' b first second
    exact congrArg Prod.fst (List.inj_on_of_nodup_map valid.targets first second rfl)
  · intro a b b' first second
    exact congrArg Prod.snd (List.inj_on_of_nodup_map valid.sources first second rfl)

theorem lt_of_copied (valid : Valid reserved h c) (copied : c.Copied a b) : b < c.heap.cells.size := by
  obtain ⟨-, k, -, there⟩ := valid.kinds copied
  obtain ⟨x, cell, -⟩ := Heap.exists_cell? there
  exact Heap.lt_of_cell? cell

/-- There are no more copies than there were containers. -/
theorem length_le (valid : Valid reserved h c) : c.copies.length ≤ h.cells.size := by
  have length : (c.copies.map Prod.fst).length = c.copies.length := List.length_map _
  rw [← length]
  refine Heap.length_le_of_nodup valid.sources fun a listed => ?_
  obtain ⟨⟨a, b⟩, copied, rfl⟩ := List.mem_map.mp listed
  obtain ⟨-, k, free, -⟩ := valid.kinds copied
  obtain ⟨x, cell, -⟩ := Heap.exists_cell? free.1
  exact Heap.lt_of_cell? cell

/-- The copy of a free container is reserved at a fresh address. -/
theorem reserve (valid : Valid reserved h c) (empty : Cell) (free : h.Free reserved empty.kind a)
    (unmet : c.copies.lookup a = none) : Valid reserved h (c.reserve a empty).2 where
  room := by
    have room := valid.room
    simp only [Copying.reserve, Heap.alloc, Array.size_push]
    omega
  same b below := by
    rw [← valid.same b below]
    exact Heap.cell?_alloc_of_lt empty (Nat.lt_of_lt_of_le below valid.room)
  sources := by
    refine List.nodup_cons.mpr ⟨fun listed => ?_, valid.sources⟩
    obtain ⟨⟨a', b⟩, copied, rfl⟩ := List.mem_map.mp listed
    exact absurd (List.lookup_eq_none_iff.mp unmet _ copied) (by simp)
  targets := by
    refine List.nodup_cons.mpr ⟨fun listed => ?_, valid.targets⟩
    obtain ⟨⟨a', b⟩, copied, same⟩ := List.mem_map.mp listed
    exact absurd (valid.lt_of_copied copied) (Nat.not_lt_of_le (Nat.le_of_eq same.symm))
  kinds {x y} copied := by
    rcases List.mem_cons.mp copied with same | old
    · cases same
      exact ⟨valid.room, _, free, Heap.kind?_of_cell? (Heap.cell?_alloc c.heap empty)⟩
    · obtain ⟨above, k, freeOld, there⟩ := valid.kinds old
      refine ⟨above, k, freeOld, ?_⟩
      rw [← there, Heap.kind?, Heap.kind?]
      exact congrArg _ (Heap.cell?_alloc_of_lt empty (valid.lt_of_copied old))
  all b above below := by
    rcases Nat.lt_or_eq_of_le (Nat.lt_succ_iff.mp (by simpa [Copying.reserve, Heap.alloc] using below)) with less | rfl
    · obtain ⟨x, copied⟩ := valid.all b above less
      exact ⟨x, List.mem_cons_of_mem _ copied⟩
    · exact ⟨a, List.mem_cons_self⟩

/-- A copy is given its parts. -/
theorem write (valid : Valid reserved h c) {y : Cell} (there : c.heap.kind? b = some y.kind) (fresh : h.cells.size ≤ b) :
    Valid reserved h { c with heap := c.heap.write b y } where
  room := by simpa [Heap.write] using valid.room
  same a below := by
    rw [← valid.same a below]
    exact Heap.cell?_write_of_ne y (Nat.ne_of_gt (Nat.lt_of_lt_of_le below fresh))
  sources := valid.sources
  targets := valid.targets
  kinds {x z} copied := by
    obtain ⟨above, k, free, known⟩ := valid.kinds copied
    exact ⟨above, k, free, (Heap.kind?_write there z).trans known⟩
  all z above below := valid.all z above (by simpa [Heap.write] using below)

end Valid

theorem Extends.refl : Extends h c c :=
  ⟨Nat.le_refl _, fun _ _ => rfl, List.suffix_rfl, fun copied => .inl copied⟩

theorem Extends.copied (later : Extends h c c') (copied : c.Copied a b) : c'.Copied a b :=
  later.copies.subset copied

/-- There is fuel for the containers that are left. -/
theorem Extends.enough (later : Extends h c c') {fuel : Nat} (enough : h.cells.size < fuel + c.copies.length) :
    h.cells.size < fuel + c'.copies.length :=
  Nat.lt_of_lt_of_le enough (Nat.add_le_add_left later.copies.length_le fuel)

/-- What is done stays done. -/
theorem Extends.still_done (later : Extends h c c') (done : c.Done h a b) : c'.Done h a b := by
  obtain ⟨x, y, there, copy, looks⟩ := done
  exact ⟨x, y, there, (later.before b (Heap.lt_of_cell? copy)).trans copy, looks.mono later.copied⟩

theorem Extends.trans (first : Extends h c c') (second : Extends h c' c'') : Extends h c c'' where
  room := Nat.le_trans first.room second.room
  before b below := (second.before b (Nat.lt_of_lt_of_le below first.room)).trans (first.before b below)
  copies := first.copies.trans second.copies
  done {a b} copied := by
    rcases second.done copied with old | done
    · rcases first.done old with older | done
      · exact .inl older
      · exact .inr (second.still_done done)
    · exact .inr done

/-- A way of copying parts comes from a stage of a copy to a later one and yields a part that mirrors the given
one, as long as there is fuel for all containers that are not copied yet. -/
def Copies (reserved : Address → Prop) (h : Heap) (fuel : Nat) (R : (Address → Address → Prop) → α → β → Prop)
    (step : Copying → α → Except Fault (β × Copying)) (x : α) : Prop :=
  ∀ ⦃c c' y⦄, Valid reserved h c → h.cells.size < fuel + c.copies.length → step c x = .ok (y, c') →
    Valid reserved h c' ∧ Extends h c c' ∧ R c'.Copied x y

/-- If all parts are copied then so is the list of them. -/
theorem copies_each {fuel : Nat} {R : (Address → Address → Prop) → α → β → Prop}
    (mono : ∀ {m m' : Address → Address → Prop} {x y}, (∀ {a b}, m a b → m' a b) → R m x y → R m' x y)
    {step : Copying → α → Except Fault (β × Copying)} {xs : List α} (copies : ∀ x ∈ xs, Copies reserved h fuel R step x)
    {done ys : List β} (valid : Valid reserved h c) (enough : h.cells.size < fuel + c.copies.length)
    (copied : each step c done xs = .ok (ys, c')) :
    Valid reserved h c' ∧ Extends h c c' ∧ ∃ zs, ys = done.reverse ++ zs ∧ List.Forall₂ (R c'.Copied) xs zs := by
  induction xs generalizing c done with
  | nil =>
      cases copied
      exact ⟨valid, .refl, [], by simp, .nil⟩
  | cons x rest ih =>
      obtain ⟨first, others⟩ := List.forall_mem_cons.mp copies
      rw [each] at copied
      split at copied
      · cases copied
      · rename_i y c1 made
        obtain ⟨valid1, later1, looks⟩ := first valid enough made
        obtain ⟨valid2, later2, zs, rfl, mirrored⟩ := ih others valid1 (later1.enough enough) copied
        exact ⟨valid2, later1.trans later2, y :: zs, by simp, .cons (mono later2.copied looks) mirrored⟩

/-- A container that is met for the first time: its copy is reserved, its parts are copied, and it is given
them. -/
theorem close {x y : Cell} (empty : Cell) (valid : Valid reserved h c) (free : h.Free reserved empty.kind a)
    (unmet : c.copies.lookup a = none) (there : h.cell? a = some x) (valid' : Valid reserved h c')
    (later : Extends h (c.reserve a empty).2 c') (looks : x.Mirrors c'.Copied y) :
    let closed : Copying := { c' with heap := c'.heap.write c.heap.cells.size y }
    Valid reserved h closed ∧ Extends h c closed ∧ closed.Copied a c.heap.cells.size := by
  intro closed
  have own : c'.Copied a c.heap.cells.size := later.copied List.mem_cons_self
  have kind : c'.heap.kind? c.heap.cells.size = some y.kind := by
    obtain ⟨-, k, freeA, known⟩ := valid'.kinds own
    have same : some x.kind = some k := (Heap.kind?_of_cell? there).symm.trans freeA.1
    rw [known, looks.kind_eq, same]
  have size : c.heap.cells.size < c'.heap.cells.size := valid'.lt_of_copied own
  have put : closed.heap.cell? c.heap.cells.size = some y := by
    change (c'.heap.write _ y).cell? _ = _
    rw [Heap.cell?_write, if_pos ⟨rfl, size⟩]
  have elsewhere {b : Address} (apart : c.heap.cells.size ≠ b) : closed.heap.cell? b = c'.heap.cell? b :=
    Heap.cell?_write_of_ne y apart
  refine ⟨valid'.write kind valid.room, ⟨?_, ?_, ?_, ?_⟩, own⟩
  · simpa [closed, Heap.write] using Nat.le_of_lt size
  · intro b below
    have inside : b < (c.reserve a empty).2.heap.cells.size := by
      simp only [Copying.reserve, Heap.alloc, Array.size_push]
      exact Nat.lt_succ_of_lt below
    rw [elsewhere (Nat.ne_of_gt below), later.before b inside]
    exact Heap.cell?_alloc_of_lt empty below
  · exact (List.suffix_cons _ _).trans later.copies
  · intro s t copied
    have known : c'.Copied s t := copied
    by_cases same : c.heap.cells.size = t
    · -- The copy that is closed is that of `a`, since copies are told apart by their addresses.
      subst same
      have source := valid'.unique.1 known own
      subst source
      exact .inr ⟨x, y, there, put, looks⟩
    · rcases later.done known with old | ⟨p, q, source, target, mirrored⟩
      · rcases List.mem_cons.mp old with equal | older
        · exact absurd (congrArg Prod.snd equal).symm same
        · exact .inl older
      · exact .inr ⟨p, q, source, (elsewhere same).trans target, mirrored⟩

theorem copies_entry {fuel : Nat} {e : Value × Value} (key : Copies reserved h fuel Value.Mirrors (value fuel) e.1)
    (item : Copies reserved h fuel Value.Mirrors (value fuel) e.2) :
    Copies reserved h fuel MirrorEntries (entry fuel) e := by
  intro c c' y valid enough copied
  obtain ⟨c1, madeKey, madeItem⟩ := entry_eq_ok copied
  obtain ⟨valid1, later1, looksKey⟩ := key valid enough madeKey
  obtain ⟨valid2, later2, looksItem⟩ := item valid1 (later1.enough enough) madeItem
  exact ⟨valid2, later1.trans later2, looksKey.mono later2.copied, looksItem⟩

theorem copied_of_lookup {b : Address} (met : c.copies.lookup a = some b) : c.Copied a b := by
  obtain ⟨before, after, listing, -⟩ := List.lookup_eq_some_iff.mp met
  rw [Copied, listing]
  exact List.mem_append_right _ List.mem_cons_self

/-- The stage at which the parts of a container are copied that is met for the first time. -/
theorem Valid.begin (valid : Valid reserved h c) {fuel : Nat} (enough : h.cells.size < fuel + 1 + c.copies.length)
    (empty : Cell) (free : h.Free reserved empty.kind a) (unmet : c.copies.lookup a = none) :
    Valid reserved h (c.reserve a empty).2 ∧ h.cells.size < fuel + (c.reserve a empty).2.copies.length ∧
      (c.reserve a empty).2.heap.cell? a = h.cell? a := by
  have begun := valid.reserve empty free unmet
  obtain ⟨x, there, -⟩ := Heap.exists_cell? free.1
  refine ⟨begun, ?_, begun.same a (Heap.lt_of_cell? there)⟩
  simp only [Copying.reserve, List.length_cons]
  omega

/-- A list, a tuple or a set is copied with its items, unless it is copied already. -/
theorem copies_items {fuel : Nat} (make : List Value → Cell) {name : Address → Value} {xs : List Value}
    (free : h.Free reserved (make []).kind a) (there : h.cell? a = some (make xs)) (parts : h.items a = xs)
    (looks : ∀ {m : Address → Address → Prop} {b}, m a b → (name a).Mirrors m (name b))
    (build : ∀ {m : Address → Address → Prop} {ys}, List.Forall₂ (Value.Mirrors m) xs ys → (make xs).Mirrors m (make ys))
    (copies : ∀ x ∈ xs, Copies reserved h fuel Value.Mirrors (value fuel) x)
    (unfolds : ∀ c, value (fuel + 1) c (name a) =
      match c.copies.lookup a with
      | some fresh => .ok (name fresh, c)
      | none =>
        match each (value fuel) (c.reserve a (make [])).2 [] ((c.reserve a (make [])).2.heap.items a) with
        | .error f => .error f
        | .ok (items, c') => .ok (name c.heap.cells.size, { c' with heap := c'.heap.write c.heap.cells.size (make items) })) :
    Copies reserved h (fuel + 1) Value.Mirrors (value (fuel + 1)) (name a) := by
  intro c c' w valid enough copied
  rw [unfolds] at copied
  split at copied
  · rename_i b met
    cases copied
    exact ⟨valid, .refl, looks (copied_of_lookup met)⟩
  · rename_i unmet
    split at copied
    · cases copied
    · rename_i ys c2 made
      cases copied
      obtain ⟨begun, enough1, same⟩ := valid.begin enough (make []) free unmet
      rw [Heap.items, same, ← Heap.items, parts] at made
      obtain ⟨valid2, later, zs, rfl, mirrored⟩ :=
        copies_each (R := Value.Mirrors) (fun weaker looks => looks.mono weaker) copies begun enough1 made
      obtain ⟨closed, last, own⟩ := close (make []) valid free unmet there valid2 later (build mirrored)
      exact ⟨closed, last, looks own⟩

/-- A dictionary is copied with its entries, unless it is copied already. -/
theorem copies_dict {fuel : Nat} {xs : List (Value × Value)} (free : h.Free reserved .dict a)
    (there : h.cell? a = some (.dict xs))
    (copies : ∀ e ∈ xs, Copies reserved h fuel Value.Mirrors (value fuel) e.1 ∧
      Copies reserved h fuel Value.Mirrors (value fuel) e.2) :
    Copies reserved h (fuel + 1) Value.Mirrors (value (fuel + 1)) (.dict a) := by
  intro c c' w valid enough copied
  rw [value_dict] at copied
  split at copied
  · rename_i b met
    cases copied
    exact ⟨valid, .refl, .dict (copied_of_lookup met)⟩
  · rename_i unmet
    split at copied
    · cases copied
    · rename_i ys c2 made
      cases copied
      obtain ⟨begun, enough1, same⟩ := valid.begin enough (.dict []) free unmet
      have old : (c.reserve a (.dict [])).2.heap.entries a = xs := by rw [Heap.entries, same, there]
      rw [old] at made
      obtain ⟨valid2, later, zs, rfl, mirrored⟩ := copies_each (R := MirrorEntries)
        (fun weaker looks => ⟨looks.1.mono weaker, looks.2.mono weaker⟩)
        (fun e listed => copies_entry (copies e listed).1 (copies e listed).2) begun enough1 made
      obtain ⟨closed, last, own⟩ := close (.dict []) valid free unmet there valid2 later (.dict mirrored)
      exact ⟨closed, last, .dict own⟩

/-- Copying a free value comes to a later stage and yields a value that mirrors it. -/
theorem copies_value (sound : h.Sound reserved) (fuel : Nat) {v : Value} (held : Held reserved h v) :
    Copies reserved h fuel Value.Mirrors (value fuel) v := by
  induction fuel generalizing v with
  | zero =>
      intro c c' w valid enough _
      exact absurd valid.length_le (Nat.not_le_of_lt (by omega))
  | succ fuel ih =>
      have items {a : Address} {k : Kind} (free : h.Free reserved k a) :
          ∀ x ∈ h.items a, Copies reserved h fuel Value.Mirrors (value fuel) x :=
        fun x listed => ih (sound.items free.2 x listed)
      have entries {a : Address} {k : Kind} (free : h.Free reserved k a) :
          ∀ e ∈ h.entries a, Copies reserved h fuel Value.Mirrors (value fuel) e.1 ∧
            Copies reserved h fuel Value.Mirrors (value fuel) e.2 :=
        fun e listed => ⟨ih (sound.entries free.2 e listed).1, ih (sound.entries free.2 e listed).2⟩
      cases v with
      | list a =>
          obtain ⟨x, there, kind⟩ := Heap.exists_cell? held.1
          cases x <;> cases kind
          rename_i xs
          have parts : h.items a = xs := by rw [Heap.items, there]
          exact copies_items .list held there parts .list .list (parts ▸ items held) fun _ => rfl
      | tuple a =>
          obtain ⟨x, there, kind⟩ := Heap.exists_cell? held.1
          cases x <;> cases kind
          rename_i xs
          have parts : h.items a = xs := by rw [Heap.items, there]
          exact copies_items .tuple held there parts .tuple .tuple (parts ▸ items held) fun _ => rfl
      | set a =>
          obtain ⟨x, there, kind⟩ := Heap.exists_cell? held.1
          cases x <;> cases kind
          rename_i xs
          have parts : h.items a = xs := by rw [Heap.items, there]
          exact copies_items .set held there parts .set .set (parts ▸ items held) fun _ => rfl
      | dict a =>
          obtain ⟨x, there, kind⟩ := Heap.exists_cell? held.1
          cases x <;> cases kind
          rename_i xs
          have parts : h.entries a = xs := by rw [Heap.entries, there]
          exact copies_dict held there (parts ▸ entries held)
      | lock =>
          intro c c' w _ _ copied
          cases copied
      | slice lower upper step =>
          intro c c' w _ _ copied
          cases copied
      | descriptor owner name =>
          intro c c' w valid _ copied
          rw [value] at copied
          split at copied
          · cases copied
          · cases copied
            exact ⟨valid, .refl, .plain trivial⟩
      | _ =>
          intro c c' w valid _ copied
          cases copied
          exact ⟨valid, .refl, .plain trivial⟩

section Relations

variable {R : Heap → Heap → Prop}

theorem related_each (refl : ∀ h, R h h) (trans : ∀ {h h' h''}, R h h' → R h' h'' → R h h'')
    {step : Copying → α → Except Fault (β × Copying)}
    (related : ∀ {c c' x y}, step c x = .ok (y, c') → R c.heap c'.heap) {done ys : List β} {xs : List α}
    (copied : each step c done xs = .ok (ys, c')) : R c.heap c'.heap := by
  induction xs generalizing c done with
  | nil =>
      cases copied
      exact refl _
  | cons x rest ih =>
      rw [each] at copied
      split at copied
      · cases copied
      · rename_i y c1 made
        exact trans (related made) (ih copied)

/-- The heaps before and after a copy are related if heaps are between which a container is reserved and filled. -/
theorem related_value (refl : ∀ h, R h h) (trans : ∀ {h h' h''}, R h h' → R h' h'' → R h h'')
    (close : ∀ {h h'} (empty full : Cell), R (h.alloc empty).2 h' → R h (h'.write h.cells.size full)) (fuel : Nat)
    {v w : Value} (copied : value fuel c v = .ok (w, c')) : R c.heap c'.heap := by
  induction fuel generalizing c c' v w with
  | zero =>
      cases copied
      exact refl _
  | succ fuel ih =>
      cases v with
      | list a | tuple a | set a =>
          rw [value] at copied
          split at copied
          · cases copied
            exact refl _
          · dsimp only at copied
            split at copied
            · cases copied
            · rename_i made
              cases copied
              exact close _ _ (related_each refl trans (fun made => ih made) made)
      | dict a =>
          rw [value_dict] at copied
          split at copied
          · cases copied
            exact refl _
          · split at copied
            · cases copied
            · rename_i made
              cases copied
              refine close _ _ (related_each refl trans (fun {c c' e y} made => ?_) made)
              obtain ⟨c1, madeKey, madeItem⟩ := entry_eq_ok made
              exact trans (ih madeKey) (ih madeItem)
      | lock => cases copied
      | slice lower upper step => cases copied
      | descriptor owner name =>
          rw [value] at copied
          split at copied
          · cases copied
          · cases copied
            exact refl _
      | _ =>
          cases copied
          exact refl _

/-- Whatever is copied, what was there stays as it is. -/
theorem keeps_value (fuel : Nat) {n : Nat} {v w : Value} (room : n ≤ c.heap.cells.size)
    (copied : value fuel c v = .ok (w, c')) : c.heap.Keeps n c'.heap := by
  refine related_value (R := fun h h' => n ≤ h.cells.size → h.Keeps n h') ?_ ?_ ?_ fuel copied room
  · exact fun h room => Heap.keeps_refl room
  · exact fun first second room => (first room).trans (second (first room).room)
  · intro h h' empty full later room
    have reserved := Heap.keeps_alloc room empty
    have filled := later reserved.room
    exact (reserved.trans filled).trans (Heap.keeps_write filled.room room full)

/-- A copy has the missing numbers of what is copied, and none of its own. -/
theorem marks_value (fuel : Nat) {v w : Value} (copied : value fuel c v = .ok (w, c')) : c'.heap.marks = c.heap.marks :=
  related_value (R := fun h h' => h'.marks = h.marks) (fun _ => rfl) (fun first second => second.trans first)
    (fun _ _ later => later) fuel copied

end Relations

theorem valid_start (h : Heap) : Valid reserved h ⟨h, []⟩ where
  room := Nat.le_refl _
  same _ _ := rfl
  sources := .nil
  targets := .nil
  kinds copied := nomatch copied
  all _ above below := absurd below (Nat.not_lt_of_le above)

end Copying

section Free

variable {m : Address → Address → Prop} {h' : Heap}

/-- A value that mirrors a free one is free, if related containers are. -/
theorem Value.Mirrors.held {v w : Value} (mirrors : v.Mirrors m w)
    (related : ∀ {a b k}, m a b → h.Free reserved k a → h'.Free reserved k b)
    (still : ∀ k a, h.Free reserved k a → h'.Free reserved k a) (held : Held reserved h v) : Held reserved h' w := by
  cases mirrors with
  | list m => exact related m held
  | tuple m => exact related m held
  | set m => exact related m held
  | dict m => exact related m held
  | plain => exact Naming.mono still held

theorem Cell.Mirrors.held {c d : Cell} (mirrors : c.Mirrors m d)
    (related : ∀ {a b k}, m a b → h.Free reserved k a → h'.Free reserved k b)
    (still : ∀ k a, h.Free reserved k a → h'.Free reserved k a) (held : Held reserved h c) : Held reserved h' d := by
  have values {xs ys : List Value} (items : List.Forall₂ (Value.Mirrors m) xs ys) (all : Held reserved h xs) :
      Held reserved h' ys := by
    induction items with
    | nil => exact Held.nil
    | cons first _ ih =>
        obtain ⟨head, tail⟩ := List.forall_mem_cons.mp all
        exact Held.cons (first.held related still head) (ih tail)
  cases mirrors with
  | list items => exact values items held
  | tuple items => exact values items held
  | set items => exact values items held
  | @dict xs ys entries =>
      have all : Held reserved h xs := held
      change Held reserved h' ys
      clear held
      induction entries with
      | nil => exact Held.nil
      | cons first _ ih =>
          obtain ⟨head, tail⟩ := List.forall_mem_cons.mp all
          exact Held.cons ⟨first.1.held related still head.1, first.2.held related still head.2⟩ (ih tail)

end Free

namespace Heap

variable {h' : Heap} {v w : Value}

/-- The containers that a later heap has beyond an earlier one. -/
def Fresh (h h' : Heap) (a : Address) : Prop :=
  h.cells.size ≤ a ∧ a < h'.cells.size

/-- A later heap with a copy on it: nothing else has changed, the value and its copy show the same data as before,
and the containers of the copy are fresh and name only fresh ones. -/
structure CopyOf (reserved : Address → Prop) (h : Heap) (v : Value) (h' : Heap) (w : Value) : Prop where
  grown : h.Grown reserved h'
  held : Held reserved h' w
  kept : h.Keeps h.cells.size h'
  mirrors : ∃ m, Mirrored m h h' ∧ v.Mirrors m w
  still : h'.view v = h.view v
  view : h'.view w = h.view v
  enclosed : h'.Enclosed (h.Fresh h')
  within : w.Mirrors (Within (h.Fresh h')) w

/-- A heap on which what was there has not changed, with free values in all containers beyond. -/
theorem Sound.grown_of_keeps (sound : h.Sound reserved) (kept : h.Keeps h.cells.size h')
    (held : ∀ a c, h.cells.size ≤ a → h'.cell? a = some c → Held reserved h' c) : h.Grown reserved h' := by
  have kinds : ∀ a k, h.kind? a = some k → h'.kind? a = some k := by
    intro a k known
    obtain ⟨c, there, -⟩ := exists_cell? known
    rw [kind?, kept.same a (lt_of_cell? there)]
    exact known
  refine ⟨kinds, fun a old => kept.same a (sound.there a old), fun a old => ?_, fun a c there free => ?_⟩
  · exact Nat.lt_of_lt_of_le (sound.there a old) kept.room
  · by_cases old : a < h.cells.size
    · have held := sound.held a c (kept.same a old ▸ there) free
      exact Naming.mono (fun k b known => ⟨kinds b k known.1, known.2⟩) held
    · exact held a c (Nat.le_of_not_lt old) there

/-- A copy is made in steps that begin on the heap. -/
theorem copying_of_copy (copied : h.copy v = .ok (w, h')) :
    ∃ c, Copying.value (h.cells.size + 2) ⟨h, []⟩ v = .ok (w, c) ∧ c.heap = h' := by
  unfold Heap.copy at copied
  split at copied
  · cases copied
  · rename_i w' c made
    cases copied
    exact ⟨c, made, rfl⟩

theorem keeps_of_copy (copied : h.copy v = .ok (w, h')) : h.Keeps h.cells.size h' := by
  obtain ⟨c, made, rfl⟩ := copying_of_copy copied
  exact Copying.keeps_value (c := ⟨h, []⟩) _ (Nat.le_refl _) made

/-- Copying a free value leads to a copy of it. -/
theorem copyOf_of_copy (sound : h.Sound reserved) (held : Held reserved h v) (copied : h.copy v = .ok (w, h')) :
    CopyOf reserved h v h' w := by
  have kept := keeps_of_copy copied
  obtain ⟨c, made, rfl⟩ := copying_of_copy copied
  obtain ⟨valid, later, looks⟩ :=
    Copying.copies_value sound _ held (Copying.valid_start h) (by simp) made
  have done {a b : Address} (copied : c.Copied a b) : c.Done h a b :=
    (later.done copied).resolve_left List.not_mem_nil
  have mirrored : Mirrored c.Copied h c.heap := ⟨valid.unique, done⟩
  have fresh {a b : Address} (copied : c.Copied a b) : h.Fresh c.heap b :=
    ⟨(valid.kinds copied).1, valid.lt_of_copied copied⟩
  have related {a b : Address} {k : Kind} (copied : c.Copied a b) (free : h.Free reserved k a) :
      c.heap.Free reserved k b := by
    obtain ⟨above, k', freeA, known⟩ := valid.kinds copied
    obtain rfl : k' = k := Option.some.inj (freeA.1.symm.trans free.1)
    exact ⟨known, fun kept => absurd (sound.there b kept) (Nat.not_lt_of_le above)⟩
  have still : ∀ k a, h.Free reserved k a → c.heap.Free reserved k a := by
    intro k a free
    obtain ⟨x, there, -⟩ := exists_cell? free.1
    refine ⟨?_, free.2⟩
    rw [kind?, valid.same a (lt_of_cell? there)]
    exact free.1
  have grown : h.Grown reserved c.heap := by
    refine sound.grown_of_keeps kept fun b y above there => ?_
    obtain ⟨a, copied⟩ := valid.all b above (lt_of_cell? there)
    obtain ⟨x, y', source, target, mirrors⟩ := done copied
    obtain rfl : y' = y := Option.some.inj (target.symm.trans there)
    obtain ⟨-, k, free, -⟩ := valid.kinds copied
    exact mirrors.held related still (sound.held a x source free.2)
  -- The copy mirrors the value on the new heap as well, where its containers still stand.
  have again : Mirrored c.Copied c.heap c.heap := by
    refine ⟨valid.unique, fun {a b} copied => ?_⟩
    obtain ⟨x, y, source, target, mirrors⟩ := done copied
    exact ⟨x, y, (valid.same a (lt_of_cell? source)).trans source, target, mirrors⟩
  refine ⟨grown, looks.held related still held, kept, ⟨_, mirrored, looks⟩, ?_, (mirrored.view looks).symm, ?_,
    looks.within fresh⟩
  · exact (again.view looks).trans (mirrored.view looks).symm
  intro b inside
  obtain ⟨a, copied⟩ := valid.all b inside.1 inside.2
  obtain ⟨x, y, -, target, mirrors⟩ := done copied
  exact ⟨y, target, mirrors.within fresh⟩

section Apart

variable {α : Type} [Naming α]

/-- What was free does not name a container that has come since. -/
theorem Keeps.held_apart (kept : h.Keeps h.cells.size h') {x : α} (held : Held reserved h x) :
    Held (fun a => reserved a ∨ h.Fresh h' a) h' x := by
  refine Naming.mono (fun k b known => ?_) held
  obtain ⟨c, there, -⟩ := exists_cell? known.1
  refine ⟨?_, ?_⟩
  · rw [kind?, kept.same b (lt_of_cell? there)]
    exact known.1
  · rintro (old | fresh)
    · exact known.2 old
    · exact Nat.not_lt_of_le fresh.1 (lt_of_cell? there)

/-- So the containers that have come since may be reserved as well. -/
theorem Sound.apart (sound : h.Sound reserved) (kept : h.Keeps h.cells.size h') :
    h'.Sound fun a => reserved a ∨ h.Fresh h' a where
  there a known := known.elim (fun old => Nat.lt_of_lt_of_le (sound.there a old) kept.room) And.right
  held a c there free := by
    have old : a < h.cells.size := Nat.lt_of_not_le fun above => free (.inr ⟨above, lt_of_cell? there⟩)
    exact kept.held_apart (sound.held a c (kept.same a old ▸ there) fun old => free (.inl old))

end Apart

end Heap

end WorkflowEngine
