import WorkflowEngine.Proofs.Region.Copy

/-!
# Copies and what is written down of them

A value can be copied exactly where it can be written down as data: both fail at the same parts.  So whatever was
recorded can be copied, and whatever was copied can be recorded.
-/

namespace WorkflowEngine

namespace Data

theorem copyFaultIn?_eq_none_iff {items : List Data} : copyFaultIn? items = none ↔ ∀ d ∈ items, d.copyFault? = none := by
  induction items with
  | nil => simp [copyFaultIn?]
  | cons d rest ih =>
      rw [copyFaultIn?, List.forall_mem_cons, ← ih]
      cases d.copyFault? <;> simp

theorem copyFaultAmong?_eq_none_iff {entries : List (Data × Data)} :
    copyFaultAmong? entries = none ↔ ∀ e ∈ entries, e.1.copyFault? = none ∧ e.2.copyFault? = none := by
  induction entries with
  | nil => simp [copyFaultAmong?]
  | cons e rest ih =>
      obtain ⟨key, value⟩ := e
      rw [copyFaultAmong?, List.forall_mem_cons, ← ih]
      cases key.copyFault? <;> cases value.copyFault? <;> simp

theorem copy_eq_ok_iff {d : Data} : (∃ e, d.copy = .ok e) ↔ d.copyFault? = none := by
  unfold copy
  cases d.copyFault? <;> simp

end Data

variable {reserved : Address → Prop} {h h' : Heap} {α β : Type}

namespace Copying

variable {c c' : Copying} {a : Address} {path : List Address}

/-- A copy under way below some containers: what was there is as it was, and these containers are copied already or
are being copied. -/
structure Below (h : Heap) (path : List Address) (c : Copying) : Prop where
  kept : h.Keeps h.cells.size c.heap
  reached : ∀ a ∈ path, c.copies.lookup a ≠ none

/-- A way of copying parts makes a copy wherever the copy has come below the containers. -/
def Makes (h : Heap) (path : List Address) (step : Copying → α → Except Fault (β × Copying)) (x : α) : Prop :=
  ∀ ⦃c⦄, Below h path c → ∃ y c', step c x = .ok (y, c') ∧ Below h path c'

/-- If every part can be copied in its turn then so can the list of them. -/
theorem makes_each {step : Copying → α → Except Fault (β × Copying)} {xs : List α}
    (makes : ∀ x ∈ xs, Makes h path step x) (done : List β) (below : Below h path c) :
    ∃ ys c', each step c done xs = .ok (ys, c') ∧ Below h path c' := by
  induction xs generalizing c done with
  | nil => exact ⟨_, c, rfl, below⟩
  | cons x rest ih =>
      obtain ⟨first, others⟩ := List.forall_mem_cons.mp makes
      obtain ⟨y, c1, made, below1⟩ := first below
      obtain ⟨ys, c2, rest, below2⟩ := ih others (y :: done) below1
      exact ⟨ys, c2, by rw [each, made]; exact rest, below2⟩

theorem makes_entry {fuel : Nat} {e : Value × Value} (key : Makes h path (value fuel) e.1)
    (item : Makes h path (value fuel) e.2) : Makes h path (entry fuel) e := by
  intro c below
  obtain ⟨k, c1, madeKey, below1⟩ := key below
  obtain ⟨i, c2, madeItem, below2⟩ := item below1
  exact ⟨(k, i), c2, by simp only [entry, madeKey, madeItem], below2⟩

/-- Below a container that is met for the first time its copy is reserved. -/
theorem Below.reserve (below : Below h path c) (empty : Cell) : Below h (a :: path) (c.reserve a empty).2 where
  kept := below.kept.trans (Heap.keeps_alloc below.kept.room empty)
  reached b listed := by
    change ((a, c.heap.cells.size) :: c.copies).lookup b ≠ none
    rw [List.lookup_cons]
    split
    · exact nofun
    · rcases List.mem_cons.mp listed with rfl | old
      · simp_all
      · exact below.reached b old

/-- When its parts are copied they are given to the copy. -/
theorem Below.close (below : Below h path c) (inside : Below h (a :: path) c') (x : Cell) :
    Below h path { c' with heap := c'.heap.write c.heap.cells.size x } where
  kept := inside.kept.trans (Heap.keeps_write inside.kept.room below.kept.room x)
  reached b listed := inside.reached b (List.mem_cons_of_mem _ listed)

/-- What is at an address is there as well when a copy of it is reserved. -/
theorem Below.same (below : Below h path c) {k : Kind} (free : h.Free reserved k a) (empty : Cell) :
    (c.reserve a empty).2.heap.cell? a = h.cell? a := by
  obtain ⟨x, there, -⟩ := Heap.exists_cell? free.1
  exact (below.reserve (a := a) empty).kept.same a (Heap.lt_of_cell? there)

/-- A container that is met for the first time is not on the path. -/
theorem Below.unmet (below : Below h path c) (new : c.copies.lookup a = none) : a ∉ path :=
  fun listed => below.reached a listed new

/-- A list, a tuple or a set is copied if its items are, or if it is copied already. -/
theorem makes_items {fuel : Nat} (make : List Value → Cell) {name : Address → Value} {k : Kind} (free : h.Free reserved k a)
    (unfolds : ∀ c, value (fuel + 1) c (name a) =
      match c.copies.lookup a with
      | some fresh => .ok (name fresh, c)
      | none =>
        match each (value fuel) (c.reserve a (make [])).2 [] ((c.reserve a (make [])).2.heap.items a) with
        | .error f => .error f
        | .ok (items, c') => .ok (name c.heap.cells.size, { c' with heap := c'.heap.write c.heap.cells.size (make items) }))
    (items : a ∉ path → ∀ x ∈ h.items a, Makes h (a :: path) (value fuel) x) :
    Makes h path (value (fuel + 1)) (name a) := by
  intro c below
  rw [unfolds]
  cases new : c.copies.lookup a with
  | some b => exact ⟨_, c, rfl, below⟩
  | none =>
      obtain ⟨ys, c', made, inside⟩ := makes_each (items (below.unmet new)) [] (below.reserve (make []))
      refine ⟨name c.heap.cells.size, _, ?_, below.close inside (make ys)⟩
      rw [Heap.items, below.same free, ← Heap.items, made]

/-- A dictionary is copied if its entries are, or if it is copied already. -/
theorem makes_dict {fuel : Nat} (free : h.Free reserved .dict a)
    (entries : a ∉ path → ∀ e ∈ h.entries a,
      Makes h (a :: path) (value fuel) e.1 ∧ Makes h (a :: path) (value fuel) e.2) :
    Makes h path (value (fuel + 1)) (.dict a) := by
  intro c below
  rw [value_dict]
  cases new : c.copies.lookup a with
  | some b => exact ⟨_, c, rfl, below⟩
  | none =>
      have parts := entries (below.unmet new)
      obtain ⟨ys, c', made, inside⟩ :=
        makes_each (fun e listed => makes_entry (parts e listed).1 (parts e listed).2) [] (below.reserve (.dict []))
      refine ⟨.dict c.heap.cells.size, _, ?_, below.close inside (.dict ys)⟩
      rw [Heap.entries, below.same free, ← Heap.entries, made]

/-- A value that shows nothing that cannot be copied is copied. -/
theorem makes_value (sound : h.Sound reserved) (fuel : Nat) {v : Value} (held : Held reserved h v)
    (shown : (h.viewIn fuel path v).copyFault? = none) : Makes h path (value fuel) v := by
  -- The copy goes into a container only if it is not on the path, and there the view goes into it as well.
  induction fuel generalizing path v with
  | zero => exact fun c below => ⟨v, c, rfl, below⟩
  | succ fuel ih =>
      have items {a : Address} (free : ¬reserved a)
          (parts : Data.copyFaultIn? ((h.items a).map (h.viewIn fuel (a :: path))) = none) :
          ∀ x ∈ h.items a, Makes h (a :: path) (value fuel) x :=
        fun x listed => ih (sound.items free x listed) (Data.copyFaultIn?_eq_none_iff.mp parts _ (List.mem_map_of_mem listed))
      cases v with
      | list a =>
          refine makes_items .list held (fun _ => rfl) fun new => items held.2 ?_
          rw [Heap.viewIn, Value.outline, List.idxOf?_eq_none_iff.mpr new, Data.copyFault?] at shown
          exact shown
      | tuple a =>
          refine makes_items .tuple held (fun _ => rfl) fun new => items held.2 ?_
          rw [Heap.viewIn, Value.outline, List.idxOf?_eq_none_iff.mpr new, Data.copyFault?] at shown
          exact shown
      | set a =>
          refine makes_items .set held (fun _ => rfl) fun new => items held.2 ?_
          rw [Heap.viewIn, Value.outline, List.idxOf?_eq_none_iff.mpr new, Data.copyFault?] at shown
          exact shown
      | dict a =>
          refine makes_dict held fun new e listed => ?_
          rw [Heap.viewIn, Value.outline, List.idxOf?_eq_none_iff.mpr new, Data.copyFault?, Data.copyFaultAmong?_eq_none_iff] at shown
          obtain ⟨key, item⟩ := shown _ (List.mem_map_of_mem listed)
          obtain ⟨heldKey, heldItem⟩ := sound.entries held.2 e listed
          exact ⟨ih heldKey key, ih heldItem item⟩
      | lock =>
          rw [Heap.viewIn, Value.outline, Data.copyFault?] at shown
          cases shown
      | slice lower upper step =>
          rw [Heap.viewIn, Value.outline, Data.copyFault?] at shown
          cases shown
      | descriptor owner name =>
          intro c below
          rw [Heap.viewIn, Value.outline, Data.copyFault?] at shown
          rw [value]
          split
          · rename_i field
            rw [if_pos field] at shown
            cases shown
          · exact ⟨_, c, rfl, below⟩
      | _ => exact fun c below => ⟨_, c, rfl, below⟩

end Copying

/-- The value is none of those that cannot be copied. -/
def Value.IsFirm : Value → Prop
  | .lock => False
  | .slice _ _ _ => False
  | .descriptor _ name => descriptorKind name ≠ .field
  | _ => True

/-- No part of the container is one of those that cannot be copied. -/
def Cell.IsFirm : Cell → Prop
  | .list items => ∀ v ∈ items, v.IsFirm
  | .tuple items => ∀ v ∈ items, v.IsFirm
  | .set items => ∀ v ∈ items, v.IsFirm
  | .dict entries => ∀ e ∈ entries, e.1.IsFirm ∧ e.2.IsFirm

namespace Copying

variable {c c' : Copying} {a : Address}

/-- The copies made so far have no parts that cannot be copied. -/
def Firm (h : Heap) (c : Copying) : Prop :=
  ∀ b x, h.cells.size ≤ b → c.heap.cell? b = some x → x.IsFirm

theorem Firm.reserve (firm : Firm h c) (empty : Cell) (bare : empty.IsFirm) : Firm h (c.reserve a empty).2 := by
  intro b x above there
  rcases Heap.cell?_alloc_cases there with old | ⟨-, rfl⟩
  · exact firm b x above old
  · exact bare

theorem Firm.write (firm : Firm h c) {x : Cell} (parts : x.IsFirm) : Firm h { c with heap := c.heap.write a x } := by
  intro b y above there
  change (c.heap.write a x).cell? b = some y at there
  rw [Heap.cell?_write] at there
  split at there
  · cases there
    exact parts
  · exact firm b y above there

/-- A way of copying parts makes copies that have no parts which cannot be copied. -/
def Firms (reserved : Address → Prop) (h : Heap) (fuel : Nat) (Q : β → Prop)
    (step : Copying → α → Except Fault (β × Copying)) (x : α) : Prop :=
  ∀ ⦃c c' y⦄, Valid reserved h c → h.cells.size < fuel + c.copies.length → Firm h c → step c x = .ok (y, c') →
    Firm h c' ∧ Q y

theorem firms_each {fuel : Nat} {R : (Address → Address → Prop) → α → β → Prop} {Q : β → Prop}
    {step : Copying → α → Except Fault (β × Copying)} {xs : List α} (copies : ∀ x ∈ xs, Copies reserved h fuel R step x)
    (firms : ∀ x ∈ xs, Firms reserved h fuel Q step x) {done ys : List β} (valid : Valid reserved h c)
    (enough : h.cells.size < fuel + c.copies.length) (firm : Firm h c) (before : ∀ y ∈ done, Q y)
    (copied : each step c done xs = .ok (ys, c')) : Firm h c' ∧ ∀ y ∈ ys, Q y := by
  induction xs generalizing c done with
  | nil =>
      cases copied
      exact ⟨firm, fun y listed => before y (List.mem_reverse.mp listed)⟩
  | cons x rest ih =>
      obtain ⟨firstCopies, otherCopies⟩ := List.forall_mem_cons.mp copies
      obtain ⟨firstFirms, otherFirms⟩ := List.forall_mem_cons.mp firms
      rw [each] at copied
      split at copied
      · cases copied
      · rename_i y c1 made
        obtain ⟨valid1, later1, -⟩ := firstCopies valid enough made
        obtain ⟨firm1, good⟩ := firstFirms valid enough firm made
        exact ih otherCopies otherFirms valid1 (later1.enough enough) firm1 (List.forall_mem_cons.mpr ⟨good, before⟩) copied

theorem firms_entry {fuel : Nat} {e : Value × Value} (keyCopies : Copies reserved h fuel Value.Mirrors (value fuel) e.1)
    (key : Firms reserved h fuel Value.IsFirm (value fuel) e.1)
    (item : Firms reserved h fuel Value.IsFirm (value fuel) e.2) :
    Firms reserved h fuel (fun e : Value × Value => e.1.IsFirm ∧ e.2.IsFirm) (entry fuel) e := by
  intro c c' y valid enough firm copied
  obtain ⟨c1, madeKey, madeItem⟩ := entry_eq_ok copied
  obtain ⟨valid1, later1, -⟩ := keyCopies valid enough madeKey
  obtain ⟨firm1, goodKey⟩ := key valid enough firm madeKey
  obtain ⟨firm2, goodItem⟩ := item valid1 (later1.enough enough) firm1 madeItem
  exact ⟨firm2, goodKey, goodItem⟩

/-- The items of a list, a tuple or a set are copied to such that can be copied. -/
theorem firms_items {fuel : Nat} (make : List Value → Cell) {name : Address → Value}
    (free : h.Free reserved (make []).kind a) (named : ∀ b, (name b).IsFirm)
    (build : ∀ {ys}, (∀ y ∈ ys, y.IsFirm) → (make ys).IsFirm)
    (copies : ∀ x ∈ h.items a, Copies reserved h fuel Value.Mirrors (value fuel) x)
    (firms : ∀ x ∈ h.items a, Firms reserved h fuel Value.IsFirm (value fuel) x)
    (unfolds : ∀ c, value (fuel + 1) c (name a) =
      match c.copies.lookup a with
      | some fresh => .ok (name fresh, c)
      | none =>
        match each (value fuel) (c.reserve a (make [])).2 [] ((c.reserve a (make [])).2.heap.items a) with
        | .error f => .error f
        | .ok (items, c') => .ok (name c.heap.cells.size, { c' with heap := c'.heap.write c.heap.cells.size (make items) })) :
    Firms reserved h (fuel + 1) Value.IsFirm (value (fuel + 1)) (name a) := by
  intro c c' w valid enough firm copied
  rw [unfolds] at copied
  split at copied
  · cases copied
    exact ⟨firm, named _⟩
  · rename_i unmet
    split at copied
    · cases copied
    · rename_i made
      cases copied
      obtain ⟨begun, enough1, same⟩ := valid.begin enough (make []) free unmet
      rw [Heap.items, same, ← Heap.items] at made
      have bare : (make []).IsFirm := build fun _ listed => absurd listed List.not_mem_nil
      obtain ⟨inside, good⟩ := firms_each copies firms begun enough1 (firm.reserve _ bare)
        (fun _ listed => absurd listed List.not_mem_nil) made
      exact ⟨inside.write (build good), named _⟩

theorem firms_dict {fuel : Nat} (free : h.Free reserved .dict a)
    (copies : ∀ e ∈ h.entries a, Copies reserved h fuel Value.Mirrors (value fuel) e.1 ∧
      Copies reserved h fuel Value.Mirrors (value fuel) e.2)
    (firms : ∀ e ∈ h.entries a, Firms reserved h fuel Value.IsFirm (value fuel) e.1 ∧
      Firms reserved h fuel Value.IsFirm (value fuel) e.2) :
    Firms reserved h (fuel + 1) Value.IsFirm (value (fuel + 1)) (.dict a) := by
  intro c c' w valid enough firm copied
  rw [value_dict] at copied
  split at copied
  · cases copied
    exact ⟨firm, trivial⟩
  · rename_i unmet
    split at copied
    · cases copied
    · rename_i made
      cases copied
      obtain ⟨begun, enough1, same⟩ := valid.begin enough (.dict []) free unmet
      rw [Heap.entries, same, ← Heap.entries] at made
      obtain ⟨inside, good⟩ := firms_each
        (fun e listed => copies_entry (copies e listed).1 (copies e listed).2)
        (fun e listed => firms_entry (copies e listed).1 (firms e listed).1 (firms e listed).2) begun enough1
        (firm.reserve (.dict []) fun _ listed => absurd listed List.not_mem_nil)
        (fun _ listed => absurd listed List.not_mem_nil) made
      exact ⟨inside.write good, trivial⟩

/-- What is copied can be copied again. -/
theorem firms_value (sound : h.Sound reserved) (fuel : Nat) {v : Value} (held : Held reserved h v) :
    Firms reserved h fuel Value.IsFirm (value fuel) v := by
  induction fuel generalizing v with
  | zero =>
      intro c c' w valid enough _ _
      exact absurd valid.length_le (Nat.not_le_of_lt (by omega))
  | succ fuel ih =>
      have copies {k : Kind} {a : Address} (free : h.Free reserved k a) :
          ∀ x ∈ h.items a, Copies reserved h fuel Value.Mirrors (value fuel) x :=
        fun x listed => copies_value sound fuel (sound.items free.2 x listed)
      have items {k : Kind} {a : Address} (free : h.Free reserved k a) :
          ∀ x ∈ h.items a, Firms reserved h fuel Value.IsFirm (value fuel) x :=
        fun x listed => ih (sound.items free.2 x listed)
      cases v with
      | list a => exact firms_items .list held (fun _ => trivial) id (copies held) (items held) fun _ => rfl
      | tuple a => exact firms_items .tuple held (fun _ => trivial) id (copies held) (items held) fun _ => rfl
      | set a => exact firms_items .set held (fun _ => trivial) id (copies held) (items held) fun _ => rfl
      | dict a =>
          have parts := sound.entries held.2
          exact firms_dict held
            (fun e listed => ⟨copies_value sound fuel (parts e listed).1, copies_value sound fuel (parts e listed).2⟩)
            fun e listed => ⟨ih (parts e listed).1, ih (parts e listed).2⟩
      | lock =>
          intro c c' w _ _ _ copied
          cases copied
      | slice lower upper step =>
          intro c c' w _ _ _ copied
          cases copied
      | descriptor owner name =>
          intro c c' w _ _ firm copied
          rw [value] at copied
          split at copied
          · cases copied
          · rename_i other
            cases copied
            exact ⟨firm, fun same => other (beq_iff_eq.mpr same)⟩
      | _ =>
          intro c c' w _ _ firm copied
          cases copied
          exact ⟨firm, trivial⟩

end Copying

namespace Heap

variable {part : Address → Prop} {v w : Value} {d : Data}

theorem items_isFirm {a : Address} {x : Cell} (there : h.cell? a = some x) (firm : x.IsFirm) :
    ∀ y ∈ h.items a, y.IsFirm := by
  rw [Heap.items, there]
  cases x with
  | list xs => exact firm
  | tuple xs => exact firm
  | set xs => exact firm
  | dict entries => exact List.forall_mem_nil _

theorem entries_isFirm {a : Address} {x : Cell} (there : h.cell? a = some x) (firm : x.IsFirm) :
    ∀ e ∈ h.entries a, e.1.IsFirm ∧ e.2.IsFirm := by
  rw [Heap.entries, there]
  cases x with
  | dict entries => exact firm
  | _ => exact List.forall_mem_nil _

/-- In a part that is enclosed and has nothing in it that cannot be copied, everything shows as data that can be
copied. -/
theorem Enclosed.copyFault?_viewIn (enclosed : h.Enclosed part)
    (firm : ∀ a x, part a → h.cell? a = some x → x.IsFirm) (fuel : Nat) (path : List Address)
    (within : v.Mirrors (Within part) v) (good : v.IsFirm) : (h.viewIn fuel path v).copyFault? = none := by
  have mirrored := enclosed.mirrored fun _ _ => rfl
  induction fuel generalizing path v with
  | zero => rfl
  | succ fuel ih =>
      have items {a : Address} (inside : part a) :
          Data.copyFaultIn? ((h.items a).map (h.viewIn fuel (a :: path))) = none := by
        refine Data.copyFaultIn?_eq_none_iff.mpr fun d listed => ?_
        obtain ⟨x, parts, rfl⟩ := List.mem_map.mp listed
        obtain ⟨cell, there, -⟩ := enclosed a inside
        exact ih _ (List.forall₂_same.mp (mirrored.items ⟨rfl, inside⟩) x parts)
          (items_isFirm there (firm a cell inside there) x parts)
      have entries {a : Address} (inside : part a) : Data.copyFaultAmong? ((h.entries a).map fun e =>
          (h.viewIn fuel (a :: path) e.1, h.viewIn fuel (a :: path) e.2)) = none := by
        refine Data.copyFaultAmong?_eq_none_iff.mpr fun d listed => ?_
        obtain ⟨e, parts, rfl⟩ := List.mem_map.mp listed
        obtain ⟨key, item⟩ := List.forall₂_same.mp (mirrored.entries ⟨rfl, inside⟩) e parts
        obtain ⟨cell, there, -⟩ := enclosed a inside
        have good := entries_isFirm there (firm a cell inside there) e parts
        exact ⟨ih _ key good.1, ih _ item good.2⟩
      cases v with
      | list a =>
          cases within with
          | list related => rw [viewIn, Value.outline]; split <;> [rfl; exact items related.2]
          | plain plain => exact absurd plain id
      | tuple a =>
          cases within with
          | tuple related => rw [viewIn, Value.outline]; split <;> [rfl; exact items related.2]
          | plain plain => exact absurd plain id
      | set a =>
          cases within with
          | set related => rw [viewIn, Value.outline]; split <;> [rfl; exact items related.2]
          | plain plain => exact absurd plain id
      | dict a =>
          cases within with
          | dict related => rw [viewIn, Value.outline]; split <;> [rfl; exact entries related.2]
          | plain plain => exact absurd plain id
      | lock => exact absurd good id
      | slice lower upper step => exact absurd good id
      | descriptor owner name => rw [viewIn, Value.outline, Data.copyFault?, if_neg fun same => good (beq_iff_eq.mp same)]
      | _ => rfl

/-- Whatever can be written down can be copied. -/
theorem exists_copy (sound : h.Sound reserved) (held : Held reserved h v) (kept : h.snapshot v = .ok d) :
    ∃ w h', h.copy v = .ok (w, h') := by
  have shown : (h.view v).copyFault? = none := Data.copy_eq_ok_iff.mp ⟨d, kept⟩
  have outside : Copying.Below h [] ⟨h, []⟩ :=
    ⟨keeps_refl (Nat.le_refl _), fun _ listed => absurd listed List.not_mem_nil⟩
  obtain ⟨w, c, made, -⟩ := Copying.makes_value sound (h.cells.size + 2) held shown outside
  refine ⟨w, c.heap, ?_⟩
  rw [copy, made]

/-- Whatever was copied can be written down. -/
theorem exists_snapshot (sound : h.Sound reserved) (held : Held reserved h v) (copied : h.copy v = .ok (w, h')) :
    ∃ d, h'.snapshot w = .ok d := by
  have copyOf := copyOf_of_copy sound held copied
  refine Data.copy_eq_ok_iff.mpr ?_
  obtain ⟨c, made, rfl⟩ := copying_of_copy copied
  obtain ⟨firm, good⟩ := Copying.firms_value sound (h.cells.size + 2) held (Copying.valid_start h) (by simp)
    (fun b x above there => absurd (lt_of_cell? there) (Nat.not_lt_of_le above)) made
  exact copyOf.enclosed.copyFault?_viewIn (fun a x inside there => firm a x inside.1 there) _ _ copyOf.within good

end Heap

end WorkflowEngine
