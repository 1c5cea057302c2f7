import WorkflowEngine.Proofs.Region.Copy
import WorkflowEngine.Proofs.Relocation.Data

/-!
# Copies of moved values

A copy goes as deep as there are containers on the heap, so the copy of a moved value may be given more fuel than that
of the value.  Both go the same way nevertheless: no container is copied twice, so that a copy of a free value never
comes to the end of its fuel.
-/

namespace WorkflowEngine

variable {r : Relocation} {reserved : Address → Prop} {h h' : Heap} {α β : Type} [Movable α] [Movable β]

namespace Copying

variable {c c' : Copying} {fuel fuel' : Nat}

/-- Copies under way whose heaps belong together, and in which containers that belong together are copied. -/
structure Moves (r : Relocation) (c c' : Copying) : Prop where
  heap : c.heap.Moves r c'.heap
  copies : c'.copies = c.copies.map (Prod.map r.address r.address)

theorem Moves.lookup (moves : c.Moves r c') (a : Address) :
    c'.copies.lookup (r.address a) = (c.copies.lookup a).map r.address := by
  rw [moves.copies]
  generalize c.copies = copies
  induction copies with
  | nil => rfl
  | cons e rest ih =>
      have same : (r.address a == r.address e.1) = (a == e.1) := decide_eq_decide.mpr r.address_injective.eq_iff
      rw [List.map_cons, List.lookup_cons, List.lookup_cons]
      simp only [Prod.map_fst, Prod.map_snd, same, ih]
      split <;> rfl

/-- The copies of containers that belong together are reserved at places that belong together. -/
theorem Moves.reserve (moves : c.Moves r c') (a : Address) (empty : Cell) :
    c'.heap.cells.size = r.address c.heap.cells.size ∧
      (c.reserve a empty).2.Moves r (c'.reserve (r.address a) (r.move empty)).2 := by
  obtain ⟨place, later⟩ := moves.heap.alloc empty
  refine ⟨place, later, ?_⟩
  have front : (r.address a, (c'.heap.alloc (r.move empty)).1) =
      Prod.map r.address r.address (a, (c.heap.alloc empty).1) := Prod.ext rfl place
  exact congr (congrArg List.cons front) moves.copies

/-- What a part of a copy comes to, and what the same part of a moved copy does. -/
inductive Answers (r : Relocation) : Except Fault (β × Copying) → Except Fault (β × Copying) → Prop where
  | ok {y : β} {c c' : Copying} (moves : c.Moves r c') : Answers r (.ok (y, c)) (.ok (r.move y, c'))
  | error (f : Fault) : Answers r (.error f) (.error f)

theorem Answers.of_error {f : Fault} {outcome : Except Fault (β × Copying)} (answers : Answers r (.error f) outcome) :
    outcome = .error f := by
  cases answers
  rfl

theorem Answers.of_ok {y : β} {outcome : Except Fault (β × Copying)} (answers : Answers r (.ok (y, c)) outcome) :
    ∃ c', outcome = .ok (r.move y, c') ∧ c.Moves r c' := by
  cases answers with
  | ok moves => exact ⟨_, rfl, moves⟩

/-- From stages that belong together, where there is fuel for all containers not yet copied, the second way of copying
a part comes to what the first one does. -/
def Follows (r : Relocation) (reserved : Address → Prop) (h : Heap) (fuel : Nat)
    (step step' : Copying → α → Except Fault (β × Copying)) (x : α) : Prop :=
  ∀ ⦃c c'⦄, Valid reserved h c → h.cells.size < fuel + c.copies.length → c.Moves r c' →
    Answers r (step c x) (step' c' (r.move x))

/-- If all parts follow then so does the list of them. -/
theorem follows_each {R : (Address → Address → Prop) → α → β → Prop} {step step' : Copying → α → Except Fault (β × Copying)}
    {xs : List α} (copies : ∀ x ∈ xs, Copies reserved h fuel R step x)
    (follows : ∀ x ∈ xs, Follows r reserved h fuel step step' x) (done : List β) (valid : Valid reserved h c)
    (enough : h.cells.size < fuel + c.copies.length) (moves : c.Moves r c') :
    Answers r (each step c done xs) (each step' c' (r.move done) (r.move xs)) := by
  induction xs generalizing c c' done with
  | nil =>
      rw [r.move_nil, each, each, ← r.move_reverse]
      exact .ok moves
  | cons x rest ih =>
      obtain ⟨first, others⟩ := List.forall_mem_cons.mp copies
      obtain ⟨here, there⟩ := List.forall_mem_cons.mp follows
      have answers := here valid enough moves
      rw [r.move_cons, each, each]
      cases made : step c x with
      | error f =>
          rw [made] at answers
          rw [answers.of_error]
          exact .error f
      | ok result =>
          obtain ⟨y, c1⟩ := result
          obtain ⟨valid1, later1, -⟩ := first valid enough made
          rw [made] at answers
          obtain ⟨c1', same, moves1⟩ := answers.of_ok
          rw [same]
          exact ih others there (y :: done) valid1 (later1.enough enough) moves1

theorem follows_entry {e : Value × Value} (copies : Copies reserved h fuel Value.Mirrors (value fuel) e.1)
    (key : Follows r reserved h fuel (value fuel) (value fuel') e.1)
    (item : Follows r reserved h fuel (value fuel) (value fuel') e.2) :
    Follows r reserved h fuel (entry fuel) (entry fuel') e := by
  intro c c' valid enough moves
  have first := key valid enough moves
  unfold entry
  rw [r.fst_move, r.snd_move]
  cases madeKey : value fuel c e.1 with
  | error f =>
      rw [madeKey] at first
      rw [first.of_error]
      exact .error f
  | ok result =>
      obtain ⟨k, c1⟩ := result
      obtain ⟨valid1, later1, -⟩ := copies valid enough madeKey
      rw [madeKey] at first
      obtain ⟨c1', same, moves1⟩ := first.of_ok
      have second := item valid1 (later1.enough enough) moves1
      rw [same]
      dsimp only
      cases madeItem : value fuel c1 e.2 with
      | error f =>
          rw [madeItem] at second
          rw [second.of_error]
          exact .error f
      | ok result =>
          obtain ⟨i, c2⟩ := result
          rw [madeItem] at second
          obtain ⟨c2', sameItem, moves2⟩ := second.of_ok
          rw [sameItem]
          exact .ok (y := (k, i)) moves2

/-- A list, a tuple or a set is copied with its items, unless it is copied already. -/
theorem follows_items {a : Address} (make : List Value → Cell) {name : Address → Value}
    (made : ∀ values, r.move (make values) = make (r.move values)) (named : ∀ a, r.move (name a) = name (r.address a))
    (free : h.Free reserved (make []).kind a)
    (copies : ∀ x ∈ h.items a, Copies reserved h fuel Value.Mirrors (value fuel) x)
    (follows : ∀ x ∈ h.items a, Follows r reserved h fuel (value fuel) (value fuel') x)
    (unfolds : ∀ fuel c a, value (fuel + 1) c (name a) =
      match c.copies.lookup a with
      | some fresh => .ok (name fresh, c)
      | none =>
        match each (value fuel) (c.reserve a (make [])).2 [] ((c.reserve a (make [])).2.heap.items a) with
        | .error f => .error f
        | .ok (items, c') => .ok (name c.heap.cells.size, { c' with heap := c'.heap.write c.heap.cells.size (make items) })) :
    Follows r reserved h (fuel + 1) (value (fuel + 1)) (value (fuel' + 1)) (name a) := by
  intro c c' valid enough moves
  rw [named, unfolds, unfolds, moves.lookup]
  cases met : c.copies.lookup a with
  | some fresh =>
      rw [Option.map_some]
      dsimp only
      rw [← named]
      exact .ok moves
  | none =>
      obtain ⟨begun, enough1, cell⟩ := valid.begin enough (make []) free met
      have old : (c.reserve a (make [])).2.heap.items a = h.items a := by rw [Heap.items, Heap.items, cell]
      have empty : make [] = r.move (make []) := (made []).symm
      obtain ⟨place, movesReserved⟩ := moves.reserve a (make [])
      rw [← empty] at movesReserved
      have answers := follows_each (R := Value.Mirrors) copies follows [] begun enough1 movesReserved
      rw [Option.map_none, movesReserved.heap.items, old]
      dsimp only
      cases made1 : each (value fuel) (c.reserve a (make [])).2 [] (h.items a) with
      | error f =>
          rw [made1, r.move_nil] at answers
          rw [answers.of_error]
          exact .error f
      | ok result =>
          obtain ⟨items, c2⟩ := result
          rw [made1, r.move_nil] at answers
          obtain ⟨c2', same, moves2⟩ := answers.of_ok
          have written := moves2.heap.write c.heap.cells.size (make items)
          rw [made] at written
          rw [same, place, ← named]
          exact .ok ⟨written, moves2.copies⟩

/-- A dictionary is copied with its entries, unless it is copied already. -/
theorem follows_dict {a : Address} (free : h.Free reserved .dict a)
    (copies : ∀ e ∈ h.entries a, Copies reserved h fuel MirrorEntries (entry fuel) e)
    (follows : ∀ e ∈ h.entries a, Follows r reserved h fuel (entry fuel) (entry fuel') e) :
    Follows r reserved h (fuel + 1) (value (fuel + 1)) (value (fuel' + 1)) (.dict a) := by
  intro c c' valid enough moves
  have named : r.move (Value.dict a) = .dict (r.address a) := rfl
  rw [named, value_dict, value_dict, moves.lookup]
  cases met : c.copies.lookup a with
  | some fresh => exact .ok moves
  | none =>
      obtain ⟨begun, enough1, cell⟩ := valid.begin enough (.dict []) free met
      have old : (c.reserve a (.dict [])).2.heap.entries a = h.entries a := by rw [Heap.entries, Heap.entries, cell]
      obtain ⟨place, movesReserved⟩ := moves.reserve a (.dict [])
      have movesReserved : (c.reserve a (.dict [])).2.Moves r (c'.reserve (r.address a) (.dict [])).2 := movesReserved
      have answers := follows_each (R := MirrorEntries) copies follows [] begun enough1 movesReserved
      rw [Option.map_none, movesReserved.heap.entries, old]
      dsimp only
      cases made1 : each (entry fuel) (c.reserve a (.dict [])).2 [] (h.entries a) with
      | error f =>
          rw [made1, r.move_nil] at answers
          rw [answers.of_error]
          exact .error f
      | ok result =>
          obtain ⟨entries, c2⟩ := result
          rw [made1, r.move_nil] at answers
          obtain ⟨c2', same, moves2⟩ := answers.of_ok
          have written := moves2.heap.write c.heap.cells.size (.dict entries)
          rw [same, place]
          exact .ok (y := Value.dict c.heap.cells.size) ⟨written, moves2.copies⟩

/-- The copy of a moved value follows that of the value, which is free, with no less fuel. -/
theorem follows_value (sound : h.Sound reserved) (le : fuel ≤ fuel') {v : Value} (held : Held reserved h v) :
    Follows r reserved h fuel (value fuel) (value fuel') v := by
  induction fuel generalizing fuel' v with
  | zero =>
      intro c c' valid enough _
      exact absurd valid.length_le (Nat.not_le_of_lt (by omega))
  | succ fuel ih =>
      cases fuel' with
      | zero => exact absurd le (Nat.not_succ_le_zero fuel)
      | succ fuel' =>
          have le := Nat.le_of_succ_le_succ le
          have copies {a : Address} {k : Kind} (free : h.Free reserved k a) :
              ∀ x ∈ h.items a, Copies reserved h fuel Value.Mirrors (value fuel) x :=
            fun x listed => copies_value sound fuel (sound.items free.2 x listed)
          have items {a : Address} {k : Kind} (free : h.Free reserved k a) :
              ∀ x ∈ h.items a, Follows r reserved h fuel (value fuel) (value fuel') x :=
            fun x listed => ih le (sound.items free.2 x listed)
          cases v with
          | list a => exact follows_items .list (fun _ => rfl) (fun _ => rfl) held (copies held) (items held) fun _ _ _ => rfl
          | tuple a => exact follows_items .tuple (fun _ => rfl) (fun _ => rfl) held (copies held) (items held) fun _ _ _ => rfl
          | set a => exact follows_items .set (fun _ => rfl) (fun _ => rfl) held (copies held) (items held) fun _ _ _ => rfl
          | dict a =>
              have free : h.Free reserved .dict a := held
              refine follows_dict free (fun e listed => ?_) fun e listed => ?_
              · obtain ⟨heldKey, heldItem⟩ := sound.entries free.2 e listed
                exact copies_entry (copies_value sound fuel heldKey) (copies_value sound fuel heldItem)
              · obtain ⟨heldKey, heldItem⟩ := sound.entries free.2 e listed
                exact follows_entry (copies_value sound fuel heldKey) (ih le heldKey) (ih le heldItem)
          | lock => exact fun _ _ _ _ _ => .error _
          | slice lower upper step => exact fun _ _ _ _ _ => .error _
          | descriptor owner name =>
              intro c c' _ _ moves
              change Answers r (if _ then _ else _) (if _ then _ else _)
              split
              · exact .error _
              · exact .ok (y := Value.descriptor owner name) moves
          | _ => exact fun _ _ _ _ moves => .ok moves

end Copying

namespace Heap

/-- What a copy comes to, and what the copy of a moved value does. -/
inductive CopyAnswers (r : Relocation) : Except Fault (Value × Heap) → Except Fault (Value × Heap) → Prop where
  | ok {v : Value} {h h' : Heap} (moves : h.Moves r h') : CopyAnswers r (.ok (v, h)) (.ok (r.move v, h'))
  | error (f : Fault) : CopyAnswers r (.error f) (.error f)

namespace Moves

/-- The other heap has no fewer containers. -/
theorem size_le (moves : h.Moves r h') : h.cells.size ≤ h'.cells.size := by
  have nodup : ((List.range h.cells.size).map r.address).Nodup := List.nodup_range.map r.address_injective
  have below : ∀ a ∈ (List.range h.cells.size).map r.address, a < h'.cells.size := by
    intro a listed
    obtain ⟨b, inside, rfl⟩ := List.mem_map.mp listed
    exact moves.lt_iff.mpr (List.mem_range.mp inside)
  have short := length_le_of_nodup nodup below
  rwa [List.length_map, List.length_range] at short

/-- The copy of a moved value is the copy of the value, moved. -/
theorem copy (moves : h.Moves r h') (sound : h.Sound reserved) {v : Value} (held : Held reserved h v) :
    CopyAnswers r (h.copy v) (h'.copy (r.move v)) := by
  have le : h.cells.size + 2 ≤ h'.cells.size + 2 := Nat.add_le_add_right moves.size_le 2
  have answers : Copying.Answers r (Copying.value (h.cells.size + 2) ⟨h, []⟩ v)
      (Copying.value (h'.cells.size + 2) ⟨h', []⟩ (r.move v)) :=
    Copying.follows_value sound le held (Copying.valid_start h) (by simp) ⟨moves, rfl⟩
  unfold Heap.copy
  generalize Copying.value (h.cells.size + 2) ⟨h, []⟩ v = made at answers ⊢
  generalize Copying.value (h'.cells.size + 2) ⟨h', []⟩ (r.move v) = made' at answers ⊢
  cases answers with
  | ok moves => exact .ok moves.heap
  | error f => exact .error f

/-- What a moved value shows can be copied exactly if what the value shows can. -/
theorem snapshot (moves : h.Moves r h') (v : Value) : h'.snapshot (r.move v) = r.move (h.snapshot v) := by
  unfold Heap.snapshot Data.copy
  rw [moves.view, Data.copyFault?_move]
  cases (h.view v).copyFault? <;> rfl

end Moves

end Heap

end WorkflowEngine
