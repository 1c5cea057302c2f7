import Mathlib.Logic.Function.Basic
import WorkflowEngine.Proofs.Region.Basic
import WorkflowEngine.Proofs.Region.Mirror
import WorkflowEngine.Value.Container

/-!
# Relocations

Where a container stands on the heap, and by which mark a missing number is told from others, depends on all that was
made before, and nothing that a run shows should depend on it.  A relocation gives containers and missing numbers other
places and marks.  A heap is moved by it if the other heap has the containers at their new places, with moved contents,
and if both will put whatever comes next at places that belong together.  The other heap may have more containers.
-/

namespace WorkflowEngine

/-- Other addresses for containers and other marks for missing numbers.  The first container stays where it is. -/
structure Relocation where
  address : Address → Address
  mark : Nat → Nat
  address_injective : Function.Injective address
  mark_injective : Function.Injective mark
  origin : address 0 = 0

/-- Things that name containers or missing numbers and can be moved. -/
class Movable (α : Type) where
  moved : Relocation → α → α

namespace Relocation

variable {α β : Type} [Movable α] [Movable β]

/-- A thing that names containers at their new places. -/
def move (r : Relocation) (x : α) : α :=
  Movable.moved r x

/-- Things of a type that stay as they are. -/
class Fixes (α : Type) [Movable α] : Prop where
  same : ∀ (r : Relocation) (x : α), r.move x = x

@[simp]
theorem move_fixed [Fixes α] (r : Relocation) (x : α) : r.move x = x :=
  Fixes.same r x

@[simp]
theorem map_move_fixed [Fixes α] (r : Relocation) (xs : List α) : xs.map r.move = xs := by
  rw [List.map_congr_left fun x _ => r.move_fixed x, List.map_id']

end Relocation

open Relocation (Fixes)

/-- Things of this type name neither containers nor missing numbers. -/
abbrev Movable.fixed (α : Type) : Movable α where
  moved _ x := x

instance : Movable Unit := .fixed Unit
instance : Movable Bool := .fixed Bool
instance : Movable Nat := .fixed Nat
instance : Movable Int := .fixed Int
instance : Movable Float := .fixed Float
instance : Movable Char := .fixed Char
instance : Movable UInt8 := .fixed UInt8
instance : Movable String := .fixed String
instance : Movable Number := .fixed Number
instance : Movable Kind := .fixed Kind
instance : Movable Fault := .fixed Fault
instance : Fixes Unit := ⟨fun _ _ => rfl⟩
instance : Fixes Bool := ⟨fun _ _ => rfl⟩
instance : Fixes Nat := ⟨fun _ _ => rfl⟩
instance : Fixes Int := ⟨fun _ _ => rfl⟩
instance : Fixes Float := ⟨fun _ _ => rfl⟩
instance : Fixes Char := ⟨fun _ _ => rfl⟩
instance : Fixes UInt8 := ⟨fun _ _ => rfl⟩
instance : Fixes String := ⟨fun _ _ => rfl⟩
instance : Fixes Number := ⟨fun _ _ => rfl⟩
instance : Fixes Kind := ⟨fun _ _ => rfl⟩
instance : Fixes Fault := ⟨fun _ _ => rfl⟩

/-- A value that names containers at their new places. -/
def Value.relocate (r : Relocation) : Value → Value
  | .nan m => .nan (r.mark m)
  | .list a => .list (r.address a)
  | .tuple a => .tuple (r.address a)
  | .set a => .set (r.address a)
  | .dict a => .dict (r.address a)
  | .method owner name => .method (owner.relocate r) name
  | .slice lower upper step => .slice (lower.relocate r) (upper.relocate r) (step.relocate r)
  | v => v

mutual

/-- Data that tells missing numbers and the owners of methods by other marks. -/
def Data.relocate (r : Relocation) : Data → Data
  | .nan m => .nan (r.mark m)
  | .list items => .list (Data.relocateItems r items)
  | .tuple items => .tuple (Data.relocateItems r items)
  | .set items => .set (Data.relocateItems r items)
  | .dict entries => .dict (Data.relocateEntries r entries)
  | .method owner name mark => .method owner name (r.address mark)
  | .slice lower upper step => .slice (lower.relocate r) (upper.relocate r) (step.relocate r)
  | d => d

/-- Items with other marks. -/
def Data.relocateItems (r : Relocation) : List Data → List Data
  | [] => []
  | item :: rest => item.relocate r :: Data.relocateItems r rest

/-- Entries with other marks. -/
def Data.relocateEntries (r : Relocation) : List (Data × Data) → List (Data × Data)
  | [] => []
  | (key, value) :: rest => (key.relocate r, value.relocate r) :: Data.relocateEntries r rest

end

section Instances

variable {α β : Type} [Movable α] [Movable β]

instance : Movable Value := ⟨Value.relocate⟩
instance : Movable Data := ⟨Data.relocate⟩
instance : Movable (List α) := ⟨fun r xs => xs.map r.move⟩
instance : Movable (Option α) := ⟨fun r found => found.map r.move⟩
instance : Movable (α × β) := ⟨fun r pair => (r.move pair.1, r.move pair.2)⟩

instance : Movable (Except α β) where
  moved r
    | .ok x => .ok (r.move x)
    | .error e => .error (r.move e)

instance : Movable Cell where
  moved r
    | .list items => .list (r.move items)
    | .tuple items => .tuple (r.move items)
    | .set items => .set (r.move items)
    | .dict entries => .dict (r.move entries)

instance [Fixes α] : Fixes (List α) := ⟨Relocation.map_move_fixed⟩

instance [Fixes α] : Fixes (Option α) where
  same r found := by
    cases found with
    | none => rfl
    | some x => exact congrArg some (r.move_fixed x)

instance [Fixes α] [Fixes β] : Fixes (α × β) where
  same r pair := Prod.ext (r.move_fixed pair.1) (r.move_fixed pair.2)

instance [Fixes α] [Fixes β] : Fixes (Except α β) where
  same r outcome := by
    cases outcome with
    | ok x => exact congrArg Except.ok (r.move_fixed x)
    | error e => exact congrArg Except.error (r.move_fixed e)

end Instances

namespace Relocation

variable {α β : Type} [Movable α] [Movable β] (r : Relocation)

theorem move_list (xs : List α) : r.move xs = xs.map r.move := rfl

@[simp]
theorem move_nil : r.move ([] : List α) = [] := rfl

@[simp]
theorem move_cons (x : α) (xs : List α) : r.move (x :: xs) = r.move x :: r.move xs := rfl

@[simp]
theorem move_append (xs ys : List α) : r.move (xs ++ ys) = r.move xs ++ r.move ys :=
  List.map_append

@[simp]
theorem move_reverse (xs : List α) : r.move xs.reverse = (r.move xs).reverse :=
  List.map_reverse

@[simp]
theorem length_move (xs : List α) : (r.move xs).length = xs.length :=
  List.length_map _

@[simp]
theorem isEmpty_move (xs : List α) : (r.move xs).isEmpty = xs.isEmpty := by
  cases xs <;> rfl

@[simp]
theorem getElem?_move (xs : List α) (i : Nat) : (r.move xs)[i]? = r.move xs[i]? :=
  List.getElem?_map

@[simp]
theorem move_none : r.move (none : Option α) = none := rfl

@[simp]
theorem move_some (x : α) : r.move (some x) = some (r.move x) := rfl

@[simp]
theorem isSome_move (found : Option α) : (r.move found).isSome = found.isSome := by
  cases found <;> rfl

@[simp]
theorem isNone_move (found : Option α) : (r.move found).isNone = found.isNone := by
  cases found <;> rfl

@[simp]
theorem move_pair (x : α) (y : β) : r.move (x, y) = (r.move x, r.move y) := rfl

@[simp]
theorem fst_move (pair : α × β) : (r.move pair).1 = r.move pair.1 := rfl

@[simp]
theorem snd_move (pair : α × β) : (r.move pair).2 = r.move pair.2 := rfl

@[simp]
theorem move_ok (x : β) : r.move (.ok x : Except α β) = .ok (r.move x) := rfl

@[simp]
theorem move_error (e : α) : r.move (.error e : Except α β) = .error (r.move e) := rfl

theorem move_ite (c : Prop) [Decidable c] (x y : α) :
    r.move (if c then x else y) = if c then r.move x else r.move y :=
  apply_ite r.move c x y

/-- What follows a moved outcome comes to what follows the outcome, moved. -/
theorem move_bind {γ : Type} [Movable γ] {x : Except γ α} {k k' : α → Except γ β} (rest : ∀ v, k' (r.move v) = r.move (k v)) :
    r.move x >>= k' = r.move (x >>= k) := by
  cases x with
  | error e => rfl
  | ok v => exact rest v

/-- What follows an outcome that stays is moved if all that may follow is. -/
theorem move_bind_fixed {ε γ : Type} [Movable ε] [Fixes ε] {x : Except ε γ} {k k' : γ → Except ε β}
    (rest : ∀ v, k' v = r.move (k v)) : x >>= k' = r.move (x >>= k) := by
  cases x with
  | error e => exact congrArg Except.error (r.move_fixed e).symm
  | ok v => exact rest v

section Values

variable (v w : Value)

@[simp]
theorem move_str (s : String) : r.move (Value.str s) = .str s := rfl

@[simp]
theorem move_bytes (bs : List UInt8) : r.move (Value.bytes bs) = .bytes bs := rfl

@[simp]
theorem kindOf_move : (r.move v).kindOf = v.kindOf := by
  cases v <;> rfl

@[simp]
theorem number?_move : (r.move v).number? = v.number? := by
  cases v <;> rfl

@[simp]
theorem int?_move : (r.move v).int? = v.int? := by
  cases v <;> rfl

@[simp]
theorem nat?_move : (r.move v).nat? = v.nat? := by
  cases v <;> rfl

theorem address?_move : (r.move v).address? = v.address?.map r.address := by
  cases v <;> rfl

/-- Values are the same exactly when they are after the move. -/
@[simp]
theorem beq_move : (r.move v == r.move w) = (v == w) := by
  induction v generalizing w with
  | nan m => cases w with
    | nan m' => exact decide_eq_decide.mpr r.mark_injective.eq_iff
    | _ => rfl
  | list a => cases w with
    | list b => exact decide_eq_decide.mpr r.address_injective.eq_iff
    | _ => rfl
  | tuple a => cases w with
    | tuple b => exact decide_eq_decide.mpr r.address_injective.eq_iff
    | _ => rfl
  | set a => cases w with
    | set b => exact decide_eq_decide.mpr r.address_injective.eq_iff
    | _ => rfl
  | dict a => cases w with
    | dict b => exact decide_eq_decide.mpr r.address_injective.eq_iff
    | _ => rfl
  | method owner name ih => cases w with
    | method owner' name' =>
        have owners := ih owner'
        exact congrArg (fun same => same && name == name') owners
    | _ => rfl
  | slice lower upper step ihLower ihUpper ihStep => cases w with
    | slice lower' upper' step' =>
        have bounds := congr (congrArg and (ihLower lower')) (congr (congrArg and (ihUpper upper')) (ihStep step'))
        exact bounds
    | _ => rfl
  | _ => cases w <;> rfl

end Values

end Relocation

namespace Heap

variable {r : Relocation} {h h' : Heap}

/-- The containers of the first heap stand at their new places on the second one, with moved contents, and what comes
next will be put at places that belong together. -/
structure Moves (r : Relocation) (h h' : Heap) : Prop where
  cells : ∀ a < h.cells.size, h'.cell? (r.address a) = r.move (h.cell? a)
  addresses : ∀ k, r.address (h.cells.size + k) = h'.cells.size + k
  marks : ∀ k, r.mark (h.marks + k) = h'.marks + k

namespace Moves

variable {a : Address}

/-- Places that are not there belong together as well. -/
theorem cell? (moves : Moves r h h') (a : Address) : h'.cell? (r.address a) = r.move (h.cell? a) := by
  rcases Nat.lt_or_ge a h.cells.size with inside | outside
  · exact moves.cells a inside
  · obtain ⟨k, rfl⟩ := Nat.exists_eq_add_of_le outside
    have none : h.cell? (h.cells.size + k) = none := Array.getElem?_eq_none (Nat.le_add_right _ _)
    have none' : h'.cell? (h'.cells.size + k) = Option.none := Array.getElem?_eq_none (Nat.le_add_right _ _)
    rw [moves.addresses, none, none']
    rfl

theorem lt_iff (moves : Moves r h h') : r.address a < h'.cells.size ↔ a < h.cells.size := by
  have there (h : Heap) (a : Address) : a < h.cells.size ↔ (h.cell? a).isSome := by
    simp [Heap.cell?]
  rw [there, there, moves.cell?, Relocation.isSome_move]

theorem items (moves : Moves r h h') (a : Address) : h'.items (r.address a) = r.move (h.items a) := by
  unfold Heap.items
  rw [moves.cell?]
  rcases h.cell? a with _ | ⟨_ | _ | _ | _⟩ <;> rfl

theorem entries (moves : Moves r h h') (a : Address) : h'.entries (r.address a) = r.move (h.entries a) := by
  unfold Heap.entries
  rw [moves.cell?]
  rcases h.cell? a with _ | ⟨_ | _ | _ | _⟩ <;> rfl

theorem size (moves : Moves r h h') (a : Address) : h'.size (r.address a) = h.size a := by
  unfold Heap.size
  rw [moves.cell?]
  rcases h.cell? a with _ | ⟨_ | _ | _ | _⟩ <;> first | rfl | exact List.length_map _

/-- A container and the moved one are put at places that belong together. -/
theorem alloc (moves : Moves r h h') (c : Cell) :
    (h'.alloc (r.move c)).1 = r.address (h.alloc c).1 ∧ Moves r (h.alloc c).2 (h'.alloc (r.move c)).2 := by
  have place : r.address h.cells.size = h'.cells.size := moves.addresses 0
  refine ⟨place.symm, fun a inside => ?_, fun k => ?_, moves.marks⟩
  · have size : (h.alloc c).2.cells.size = h.cells.size + 1 := by simp [Heap.alloc]
    rw [size] at inside
    rcases Nat.lt_or_eq_of_le (Nat.le_of_lt_succ inside) with old | rfl
    · rw [cell?_alloc_of_lt c old, cell?_alloc_of_lt _ (moves.lt_iff.mpr old), moves.cell?]
    · have put := cell?_alloc h c
      have put' := cell?_alloc h' (r.move c)
      rw [place]
      exact put'.trans (congrArg r.move put).symm
  · have next := moves.addresses (1 + k)
    simp only [Heap.alloc, Array.size_push]
    rw [Nat.add_assoc, Nat.add_assoc, next]

/-- A container is changed at places that belong together. -/
theorem write (moves : Moves r h h') (a : Address) (c : Cell) :
    Moves r (h.write a c) (h'.write (r.address a) (r.move c)) := by
  have size (h : Heap) (a : Address) (c : Cell) : (h.write a c).cells.size = h.cells.size := by simp [Heap.write]
  refine ⟨fun b _ => ?_, fun k => ?_, moves.marks⟩
  · simp only [cell?_write, r.address_injective.eq_iff, moves.lt_iff, moves.cell?]
    split <;> rfl
  · rw [size, size]
    exact moves.addresses k

/-- A missing number is given marks that belong together. -/
theorem freshMark (moves : Moves r h h') :
    h'.freshMark.1 = r.mark h.freshMark.1 ∧ Moves r h.freshMark.2 h'.freshMark.2 := by
  refine ⟨(moves.marks 0).symm, moves.cells, moves.addresses, fun k => ?_⟩
  have next := moves.marks (1 + k)
  simp only [Heap.freshMark]
  rw [Nat.add_assoc, Nat.add_assoc, next]

end Moves

end Heap

end WorkflowEngine

/-!
## Moved values as data

A moved value shows on the moved heap what the value shows on the heap, with other marks.  The two heaps may differ in
how many containers they have, and the fuel of a view with them, but a view never needs more fuel than there are
containers.
-/

namespace WorkflowEngine

namespace Relocation

variable (r : Relocation)

theorem relocateItems_eq_map (items : List Data) : Data.relocateItems r items = items.map r.move := by
  induction items with
  | nil => rfl
  | cons item rest ih => rw [Data.relocateItems, ih, List.map_cons]; rfl

theorem relocateEntries_eq_map (entries : List (Data × Data)) : Data.relocateEntries r entries = entries.map r.move := by
  induction entries with
  | nil => rfl
  | cons e rest ih => rw [Data.relocateEntries, ih, List.map_cons]; rfl

@[simp]
theorem move_data_list (items : List Data) : r.move (Data.list items) = .list (r.move items) :=
  congrArg Data.list (relocateItems_eq_map r items)

@[simp]
theorem move_data_tuple (items : List Data) : r.move (Data.tuple items) = .tuple (r.move items) :=
  congrArg Data.tuple (relocateItems_eq_map r items)

@[simp]
theorem move_data_set (items : List Data) : r.move (Data.set items) = .set (r.move items) :=
  congrArg Data.set (relocateItems_eq_map r items)

@[simp]
theorem move_data_dict (entries : List (Data × Data)) : r.move (Data.dict entries) = .dict (r.move entries) :=
  congrArg Data.dict (relocateEntries_eq_map r entries)

end Relocation

namespace Heap

variable {r : Relocation} {h h' : Heap}

theorem items_of_le {a : Address} (outside : h.cells.size ≤ a) : h.items a = [] := by
  rw [Heap.items, show h.cell? a = none from Array.getElem?_eq_none outside]

theorem entries_of_le {a : Address} (outside : h.cells.size ≤ a) : h.entries a = [] := by
  rw [Heap.entries, show h.cell? a = none from Array.getElem?_eq_none outside]

/-- A view that has fuel for every container that is not on its path shows the same with more of it. -/
theorem viewIn_of_enough {fuel fuel' : Nat} {path : List Address} (nodup : path.Nodup)
    (below : ∀ a ∈ path, a < h.cells.size) (enough : h.cells.size < fuel + path.length)
    (enough' : h.cells.size < fuel' + path.length) (v : Value) : h.viewIn fuel path v = h.viewIn fuel' path v := by
  induction fuel generalizing fuel' path v with
  | zero =>
      have short := length_le_of_nodup nodup below
      omega
  | succ fuel ih =>
      cases fuel' with
      | zero =>
          have short := length_le_of_nodup nodup below
          omega
      | succ fuel' =>
          -- Inside a container the path is longer, and outside of the heap there is nothing to look at.
          have inside {a : Address} (met : path.idxOf? a = none) (there : a < h.cells.size) (v : Value) :
              h.viewIn fuel (a :: path) v = h.viewIn fuel' (a :: path) v := by
            have fresh : a ∉ path := List.idxOf?_eq_none_iff.mp met
            refine ih (List.nodup_cons.mpr ⟨fresh, nodup⟩) (List.forall_mem_cons.mpr ⟨there, below⟩) ?_ ?_ v <;>
              · rw [List.length_cons]
                omega
          have items {a : Address} (met : path.idxOf? a = none) :
              (h.items a).map (h.viewIn fuel (a :: path)) = (h.items a).map (h.viewIn fuel' (a :: path)) := by
            rcases Nat.lt_or_ge a h.cells.size with there | outside
            · exact List.map_congr_left fun v _ => inside met there v
            · rw [items_of_le outside]
              rfl
          have entries {a : Address} (met : path.idxOf? a = none) :
              ((h.entries a).map fun e => (h.viewIn fuel (a :: path) e.1, h.viewIn fuel (a :: path) e.2)) =
                (h.entries a).map fun e => (h.viewIn fuel' (a :: path) e.1, h.viewIn fuel' (a :: path) e.2) := by
            rcases Nat.lt_or_ge a h.cells.size with there | outside
            · exact List.map_congr_left fun e _ => Prod.ext (inside met there e.1) (inside met there e.2)
            · rw [entries_of_le outside]
              rfl
          induction v with
          | list a => exact cut_congr rfl fun met => congrArg Data.list (items met)
          | tuple a => exact cut_congr rfl fun met => congrArg Data.tuple (items met)
          | set a => exact cut_congr rfl fun met => congrArg Data.set (items met)
          | dict a => exact cut_congr rfl fun met => congrArg Data.dict (entries met)
          | slice lower upper step ihLower ihUpper ihStep =>
              have parts := congr (congr (congrArg Data.slice ihLower) ihUpper) ihStep
              exact parts
          | _ => rfl

namespace Moves

theorem idxOf?_map (r : Relocation) (path : List Address) (a : Address) :
    (path.map r.address).idxOf? (r.address a) = path.idxOf? a := by
  induction path with
  | nil => rfl
  | cons b rest ih =>
      rw [List.map_cons, List.idxOf?_cons, List.idxOf?_cons, ih]
      simp [r.address_injective.eq_iff]

/-- A container looks moved inside moved containers if it does where it is not met among them. -/
theorem cut_move (r : Relocation) (path : List Address) (a : Address) {d d' : Data} (shown : d' = r.move d) :
    (match (path.map r.address).idxOf? (r.address a) with
      | some index => Data.cycle (index + 1)
      | none => d') =
      r.move (match path.idxOf? a with
        | some index => .cycle (index + 1)
        | none => d) := by
  rw [idxOf?_map]
  cases path.idxOf? a with
  | some index => rfl
  | none => exact shown

/-- With the same fuel, and inside containers that belong together, a moved value shows moved data. -/
theorem viewIn (moves : Moves r h h') (fuel : Nat) (path : List Address) (v : Value) :
    h'.viewIn fuel (path.map r.address) (r.move v) = r.move (h.viewIn fuel path v) := by
  induction fuel generalizing path v with
  | zero => rfl
  | succ fuel ih =>
      have items (a : Address) : (h'.items (r.address a)).map (h'.viewIn fuel (r.address a :: path.map r.address)) =
          r.move ((h.items a).map (h.viewIn fuel (a :: path))) := by
        rw [moves.items, Relocation.move_list, Relocation.move_list, List.map_map, List.map_map]
        exact List.map_congr_left fun v _ => ih (a :: path) v
      have entries (a : Address) :
          ((h'.entries (r.address a)).map fun e => (h'.viewIn fuel (r.address a :: path.map r.address) e.1,
              h'.viewIn fuel (r.address a :: path.map r.address) e.2)) =
            r.move ((h.entries a).map fun e => (h.viewIn fuel (a :: path) e.1, h.viewIn fuel (a :: path) e.2)) := by
        rw [moves.entries, Relocation.move_list, Relocation.move_list, List.map_map, List.map_map]
        exact List.map_congr_left fun e _ => Prod.ext (ih (a :: path) e.1) (ih (a :: path) e.2)
      induction v with
      | list a => exact cut_move r path a ((congrArg Data.list (items a)).trans (r.move_data_list _).symm)
      | tuple a => exact cut_move r path a ((congrArg Data.tuple (items a)).trans (r.move_data_tuple _).symm)
      | set a => exact cut_move r path a ((congrArg Data.set (items a)).trans (r.move_data_set _).symm)
      | dict a => exact cut_move r path a ((congrArg Data.dict (entries a)).trans (r.move_data_dict _).symm)
      | method owner name =>
          have mark : ((r.move owner).address?).getD 0 = r.address ((owner.address?).getD 0) := by
            rw [r.address?_move]
            cases owner.address? with
            | none => exact r.origin.symm
            | some a => rfl
          exact congr (congrFun (congrArg Data.method (r.kindOf_move owner)) name) mark
      | slice lower upper step ihLower ihUpper ihStep =>
          have parts := congr (congr (congrArg Data.slice ihLower) ihUpper) ihStep
          exact parts
      | _ => rfl

/-- A moved value shows moved data. -/
theorem view (moves : Moves r h h') (v : Value) : h'.view (r.move v) = r.move (h.view v) := by
  have outside {a : Address} {n : Nat} (listed : a ∈ ([] : List Address)) : a < n := absurd listed List.not_mem_nil
  have common := moves.viewIn (max h.cells.size h'.cells.size + 2) [] v
  have first : h.viewIn (h.cells.size + 2) [] v = h.viewIn (max h.cells.size h'.cells.size + 2) [] v :=
    h.viewIn_of_enough .nil (fun _ => outside) (by simp) (by simp; omega) v
  have second :
      h'.viewIn (h'.cells.size + 2) [] (r.move v) = h'.viewIn (max h.cells.size h'.cells.size + 2) [] (r.move v) :=
    h'.viewIn_of_enough .nil (fun _ => outside) (by simp) (by simp; omega) (r.move v)
  exact second.trans (common.trans (congrArg r.move first.symm))

mutual

/-- Data is put on both heaps at places that belong together. -/
theorem load {h h' : Heap} (moves : Moves r h h') (d : Data) :
    (h'.load d).1 = r.move (h.load d).1 ∧ Moves r (h.load d).2 (h'.load d).2 := by
  cases d with
  | nan m =>
      obtain ⟨mark, later⟩ := moves.freshMark
      exact ⟨congrArg Value.nan mark, later⟩
  | list items =>
      obtain ⟨values, later⟩ := moves.loadItems [] items
      have cell : r.move (Cell.list (h.loadItems [] items).1) = .list (h'.loadItems [] items).1 := congrArg Cell.list values.symm
      obtain ⟨place, last⟩ := later.alloc (.list (h.loadItems [] items).1)
      rw [cell] at place last
      exact ⟨congrArg Value.list place, last⟩
  | tuple items =>
      obtain ⟨values, later⟩ := moves.loadItems [] items
      have cell : r.move (Cell.tuple (h.loadItems [] items).1) = .tuple (h'.loadItems [] items).1 := congrArg Cell.tuple values.symm
      obtain ⟨place, last⟩ := later.alloc (.tuple (h.loadItems [] items).1)
      rw [cell] at place last
      exact ⟨congrArg Value.tuple place, last⟩
  | set items =>
      obtain ⟨values, later⟩ := moves.loadItems [] items
      have cell : r.move (Cell.set (h.loadItems [] items).1) = .set (h'.loadItems [] items).1 := congrArg Cell.set values.symm
      obtain ⟨place, last⟩ := later.alloc (.set (h.loadItems [] items).1)
      rw [cell] at place last
      exact ⟨congrArg Value.set place, last⟩
  | dict entries =>
      obtain ⟨values, later⟩ := moves.loadEntries [] entries
      have cell : r.move (Cell.dict (h.loadEntries [] entries).1) = .dict (h'.loadEntries [] entries).1 := congrArg Cell.dict values.symm
      obtain ⟨place, last⟩ := later.alloc (.dict (h.loadEntries [] entries).1)
      rw [cell] at place last
      exact ⟨congrArg Value.dict place, last⟩
  | _ => exact ⟨rfl, moves⟩

/-- Items are put on both heaps at places that belong together. -/
theorem loadItems {h h' : Heap} (moves : Moves r h h') (done : List Value) (items : List Data) :
    (h'.loadItems (r.move done) items).1 = r.move (h.loadItems done items).1 ∧
      Moves r (h.loadItems done items).2 (h'.loadItems (r.move done) items).2 := by
  cases items with
  | nil => exact ⟨(r.move_reverse done).symm, moves⟩
  | cons item rest =>
      obtain ⟨value, later⟩ := moves.load item
      have last := later.loadItems ((h.load item).1 :: done) rest
      rw [r.move_cons, ← value] at last
      exact last

/-- Entries are put on both heaps at places that belong together. -/
theorem loadEntries {h h' : Heap} (moves : Moves r h h') (done : List (Value × Value))
    (entries : List (Data × Data)) :
    (h'.loadEntries (r.move done) entries).1 = r.move (h.loadEntries done entries).1 ∧
      Moves r (h.loadEntries done entries).2 (h'.loadEntries (r.move done) entries).2 := by
  rcases entries with _ | ⟨⟨key, item⟩, rest⟩
  · exact ⟨(r.move_reverse done).symm, moves⟩
  · obtain ⟨keyValue, later⟩ := moves.load key
    obtain ⟨value, last⟩ := later.load item
    have final := last.loadEntries (((h.load key).1, ((h.load key).2.load item).1) :: done) rest
    rw [r.move_cons, r.move_pair, ← keyValue, ← value] at final
    exact final

end

end Moves

end Heap

end WorkflowEngine
