import Mathlib.Data.List.Perm.Basic
import WorkflowEngine.Proofs.Region.Copy
import WorkflowEngine.Proofs.Region.Load
import WorkflowEngine.Proofs.Relocation.Value
import WorkflowEngine.Proofs.Relocation.Basic

/-!
# Fields on closed heaps

A heap has given places to its containers and marks to its missing numbers.  It is closed if what stands on it names no
other places and marks, so that relocations that agree on the given ones do the same to it.  Data that is put on a
closed heap leaves it closed, and so do copies.
-/

namespace WorkflowEngine

variable {α β : Type} [Movable α] [Movable β]

namespace Heap

variable {h h' h'' : Heap}

/-- Two relocations agree on all places and marks that a heap has given. -/
structure Agrees (h : Heap) (r r' : Relocation) : Prop where
  address : ∀ a < h.cells.size, r'.address a = r.address a
  mark : ∀ m < h.marks, r'.mark m = r.mark m

/-- A later heap has given no fewer places and marks. -/
structure Precedes (h h' : Heap) : Prop where
  cells : h.cells.size ≤ h'.cells.size
  marks : h.marks ≤ h'.marks

theorem Precedes.refl (h : Heap) : h.Precedes h :=
  ⟨Nat.le_refl _, Nat.le_refl _⟩

theorem Precedes.trans (first : h.Precedes h') (second : h'.Precedes h'') : h.Precedes h'' :=
  ⟨Nat.le_trans first.cells second.cells, Nat.le_trans first.marks second.marks⟩

theorem Agrees.earlier {r r' : Relocation} (agrees : h'.Agrees r r') (later : h.Precedes h') : h.Agrees r r' :=
  ⟨fun a below => agrees.address a (Nat.lt_of_lt_of_le below later.cells),
    fun m below => agrees.mark m (Nat.lt_of_lt_of_le below later.marks)⟩

/-- A thing names only places and marks that the heap has given. -/
def Bounds (h : Heap) (x : α) : Prop :=
  ∀ ⦃r r' : Relocation⦄, h.Agrees r r' → r'.move x = r.move x

theorem Bounds.later {x : α} (bounds : h.Bounds x) (later : h.Precedes h') : h'.Bounds x :=
  fun _ _ agrees => bounds (agrees.earlier later)

theorem bounds_list_iff {xs : List α} : h.Bounds xs ↔ ∀ x ∈ xs, h.Bounds x := by
  constructor
  · exact fun all x listed r r' agrees => List.map_inj_left.mp (all agrees) x listed
  · exact fun each r r' agrees => List.map_inj_left.mpr fun x listed => each x listed agrees

theorem bounds_pair_iff {x : α} {y : β} : h.Bounds (x, y) ↔ h.Bounds x ∧ h.Bounds y := by
  constructor
  · exact fun both => ⟨fun r r' agrees => congrArg Prod.fst (both agrees), fun r r' agrees => congrArg Prod.snd (both agrees)⟩
  · exact fun both r r' agrees => Prod.ext (both.1 agrees) (both.2 agrees)

theorem Bounds.nil : h.Bounds ([] : List α) :=
  fun _ _ _ => rfl

theorem Bounds.cons {x : α} {xs : List α} (first : h.Bounds x) (rest : h.Bounds xs) : h.Bounds (x :: xs) :=
  bounds_list_iff.mpr (List.forall_mem_cons.mpr ⟨first, bounds_list_iff.mp rest⟩)

theorem Bounds.reverse {xs : List α} (all : h.Bounds xs) : h.Bounds xs.reverse :=
  bounds_list_iff.mpr fun x listed => bounds_list_iff.mp all x (List.mem_reverse.mp listed)

section Cells

variable {items : List Value} {entries : List (Value × Value)}

theorem bounds_cell_list_iff : h.Bounds (Cell.list items) ↔ h.Bounds items :=
  ⟨fun all _ _ agrees => Cell.list.inj (all agrees), fun all _ _ agrees => congrArg Cell.list (all agrees)⟩

theorem bounds_cell_tuple_iff : h.Bounds (Cell.tuple items) ↔ h.Bounds items :=
  ⟨fun all _ _ agrees => Cell.tuple.inj (all agrees), fun all _ _ agrees => congrArg Cell.tuple (all agrees)⟩

theorem bounds_cell_set_iff : h.Bounds (Cell.set items) ↔ h.Bounds items :=
  ⟨fun all _ _ agrees => Cell.set.inj (all agrees), fun all _ _ agrees => congrArg Cell.set (all agrees)⟩

theorem bounds_cell_dict_iff : h.Bounds (Cell.dict entries) ↔ h.Bounds entries :=
  ⟨fun all _ _ agrees => Cell.dict.inj (all agrees), fun all _ _ agrees => congrArg Cell.dict (all agrees)⟩

end Cells

/-- All containers name only places and marks that the heap has given. -/
def IsClosed (h : Heap) : Prop :=
  ∀ a c, h.cell? a = some c → h.Bounds c

namespace IsClosed

/-- Relocations that agree on a closed heap do the same to what stands on it. -/
theorem move_cell? (closed : h.IsClosed) {r r' : Relocation} (agrees : h.Agrees r r') (a : Address) :
    r'.move (h.cell? a) = r.move (h.cell? a) := by
  cases there : h.cell? a with
  | none => rfl
  | some c => exact congrArg some (closed a c there agrees)

theorem entries (closed : h.IsClosed) (a : Address) : h.Bounds (h.entries a) := by
  unfold Heap.entries
  split
  · rename_i there
    exact bounds_cell_dict_iff.mp (closed a _ there)
  · exact .nil

theorem alloc (closed : h.IsClosed) {c : Cell} (bounds : h.Bounds c) :
    h.Precedes (h.alloc c).2 ∧ (h.alloc c).2.IsClosed := by
  have size : (h.alloc c).2.cells.size = h.cells.size + 1 := by simp [Heap.alloc]
  have later : h.Precedes (h.alloc c).2 := ⟨size ▸ Nat.le_succ _, Nat.le_refl _⟩
  refine ⟨later, fun a d there => ?_⟩
  rcases Nat.lt_or_eq_of_le (Nat.le_of_lt_succ (size ▸ lt_of_cell? there)) with old | rfl
  · rw [cell?_alloc_of_lt c old] at there
    exact (closed a d there).later later
  · obtain rfl : c = d := Option.some.inj ((cell?_alloc h c).symm.trans there)
    exact bounds.later later

theorem write (closed : h.IsClosed) {c : Cell} (bounds : h.Bounds c) (a : Address) : (h.write a c).IsClosed := by
  have size : (h.write a c).cells.size = h.cells.size := by simp [Heap.write]
  have later : h.Precedes (h.write a c) := ⟨Nat.le_of_eq size.symm, Nat.le_refl _⟩
  intro b d there
  rw [cell?_write] at there
  split at there
  · cases there
    exact bounds.later later
  · exact (closed b d there).later later

theorem freshMark (closed : h.IsClosed) :
    h.Precedes h.freshMark.2 ∧ h.freshMark.2.IsClosed ∧ h.freshMark.2.Bounds (Value.nan h.freshMark.1) := by
  have later : h.Precedes h.freshMark.2 := ⟨Nat.le_refl _, Nat.le_succ _⟩
  refine ⟨later, fun a c there => (closed a c there).later later, fun r r' agrees => ?_⟩
  exact congrArg Value.nan (agrees.mark _ (Nat.lt_succ_self _))

end IsClosed

/-- A value that names a container on the heap. -/
theorem bounds_name {k : Address → Value} (named : ∀ (r : Relocation) a, r.move (k a) = k (r.address a))
    {a : Address} (below : a < h.cells.size) : h.Bounds (k a) :=
  fun r r' agrees => by rw [named, named, agrees.address a below]

/-- Data that is put on the heap as a container with all its parts. -/
theorem IsClosed.put {c : Cell} {k : Address → Value} (closed : h.IsClosed)
    (named : ∀ (r : Relocation) a, r.move (k a) = k (r.address a)) (bounds : h.Bounds c) :
    h.Precedes (h.alloc c).2 ∧ (h.alloc c).2.IsClosed ∧ (h.alloc c).2.Bounds (k (h.alloc c).1) := by
  obtain ⟨later, still⟩ := closed.alloc bounds
  exact ⟨later, still, bounds_name named (lt_of_cell? (cell?_alloc h c))⟩

mutual

/-- A closed heap stays closed when data is put on it. -/
theorem IsClosed.load {h : Heap} (closed : h.IsClosed) (d : Data) :
    h.Precedes (h.load d).2 ∧ (h.load d).2.IsClosed ∧ (h.load d).2.Bounds (h.load d).1 := by
  cases d with
  | nan m => exact closed.freshMark
  | list items =>
      obtain ⟨later, still, bounds⟩ := closed.loadItems Bounds.nil items
      obtain ⟨last, final⟩ := still.put (c := .list _) (k := .list) (fun _ _ => rfl) (bounds_cell_list_iff.mpr bounds)
      exact ⟨later.trans last, final⟩
  | tuple items =>
      obtain ⟨later, still, bounds⟩ := closed.loadItems Bounds.nil items
      obtain ⟨last, final⟩ := still.put (c := .tuple _) (k := .tuple) (fun _ _ => rfl) (bounds_cell_tuple_iff.mpr bounds)
      exact ⟨later.trans last, final⟩
  | set items =>
      obtain ⟨later, still, bounds⟩ := closed.loadItems Bounds.nil items
      obtain ⟨last, final⟩ := still.put (c := .set _) (k := .set) (fun _ _ => rfl) (bounds_cell_set_iff.mpr bounds)
      exact ⟨later.trans last, final⟩
  | dict entries =>
      obtain ⟨later, still, bounds⟩ := closed.loadEntries Bounds.nil entries
      obtain ⟨last, final⟩ := still.put (c := .dict _) (k := .dict) (fun _ _ => rfl) (bounds_cell_dict_iff.mpr bounds)
      exact ⟨later.trans last, final⟩
  | _ => exact ⟨.refl h, closed, fun _ _ _ => rfl⟩

theorem IsClosed.loadItems {h : Heap} (closed : h.IsClosed) {done : List Value} (before : h.Bounds done) (items : List Data) :
    h.Precedes (h.loadItems done items).2 ∧ (h.loadItems done items).2.IsClosed ∧
      (h.loadItems done items).2.Bounds (h.loadItems done items).1 := by
  cases items with
  | nil => exact ⟨.refl h, closed, before.reverse⟩
  | cons item rest =>
      obtain ⟨later, still, bounds⟩ := closed.load item
      obtain ⟨last, final⟩ := still.loadItems (bounds.cons (before.later later)) rest
      exact ⟨later.trans last, final⟩

theorem IsClosed.loadEntries {h : Heap} (closed : h.IsClosed) {done : List (Value × Value)} (before : h.Bounds done)
    (entries : List (Data × Data)) :
    h.Precedes (h.loadEntries done entries).2 ∧ (h.loadEntries done entries).2.IsClosed ∧
      (h.loadEntries done entries).2.Bounds (h.loadEntries done entries).1 := by
  rcases entries with _ | ⟨⟨key, item⟩, rest⟩
  · exact ⟨.refl h, closed, before.reverse⟩
  · obtain ⟨first, stillKey, boundsKey⟩ := closed.load key
    obtain ⟨second, still, bounds⟩ := stillKey.load item
    have both := first.trans second
    have pair := bounds_pair_iff.mpr ⟨boundsKey.later second, bounds⟩
    obtain ⟨last, final⟩ := still.loadEntries (pair.cons (before.later both)) rest
    exact ⟨both.trans last, final⟩

end

section Copies

variable {m : Address → Address → Prop} {reserved : Address → Prop} {v w : Value}

theorem bounds_of_mirrors (mirrors : v.Mirrors m w) (there : ∀ {a b}, m a b → b < h'.cells.size) (later : h.Precedes h')
    (bounds : h.Bounds v) : h'.Bounds w := by
  cases mirrors with
  | list related => exact bounds_name (fun _ _ => rfl) (there related)
  | tuple related => exact bounds_name (fun _ _ => rfl) (there related)
  | set related => exact bounds_name (fun _ _ => rfl) (there related)
  | dict related => exact bounds_name (fun _ _ => rfl) (there related)
  | plain _ => exact bounds.later later

theorem bounds_of_mirrors_cell {c d : Cell} (mirrors : c.Mirrors m d) (there : ∀ {a b}, m a b → b < h'.cells.size)
    (later : h.Precedes h') (bounds : h.Bounds c) : h'.Bounds d := by
  have values {xs ys : List Value} (items : List.Forall₂ (Value.Mirrors m) xs ys) (all : h.Bounds xs) : h'.Bounds ys := by
    induction items with
    | nil => exact .nil
    | cons first _ ih =>
        obtain ⟨one, others⟩ := List.forall_mem_cons.mp (bounds_list_iff.mp all)
        exact (bounds_of_mirrors first there later one).cons (ih (bounds_list_iff.mpr others))
  cases mirrors with
  | list items => exact bounds_cell_list_iff.mpr (values items (bounds_cell_list_iff.mp bounds))
  | tuple items => exact bounds_cell_tuple_iff.mpr (values items (bounds_cell_tuple_iff.mp bounds))
  | set items => exact bounds_cell_set_iff.mpr (values items (bounds_cell_set_iff.mp bounds))
  | dict entries =>
      refine bounds_cell_dict_iff.mpr ?_
      have all := bounds_cell_dict_iff.mp bounds
      clear bounds
      induction entries with
      | nil => exact .nil
      | cons first _ ih =>
          obtain ⟨one, others⟩ := List.forall_mem_cons.mp (bounds_list_iff.mp all)
          obtain ⟨key, item⟩ := bounds_pair_iff.mp one
          refine Bounds.cons (bounds_pair_iff.mpr ⟨?_, ?_⟩) (ih (bounds_list_iff.mpr others))
          · exact bounds_of_mirrors first.1 there later key
          · exact bounds_of_mirrors first.2 there later item

/-- A closed heap stays closed when a free value is copied on it. -/
theorem IsClosed.copy (closed : h.IsClosed) (sound : h.Sound reserved) (held : Held reserved h v) (bounds : h.Bounds v)
    (copied : h.copy v = .ok (w, h')) : h.Precedes h' ∧ h'.IsClosed ∧ h'.Bounds w := by
  obtain ⟨c, made, rfl⟩ := copying_of_copy copied
  obtain ⟨valid, later, looks⟩ := Copying.copies_value sound _ held (Copying.valid_start h) (by simp) made
  have precedes : h.Precedes c.heap := ⟨valid.room, Nat.le_of_eq (Copying.marks_value _ made).symm⟩
  refine ⟨precedes, fun b d there => ?_, bounds_of_mirrors looks valid.lt_of_copied precedes bounds⟩
  by_cases old : b < h.cells.size
  · rw [valid.same b old] at there
    exact (closed b d there).later precedes
  · obtain ⟨a, copied⟩ := valid.all b (Nat.le_of_not_lt old) (lt_of_cell? there)
    obtain ⟨x, y, source, target, mirrors⟩ := (later.done copied).resolve_left List.not_mem_nil
    obtain rfl : y = d := Option.some.inj (target.symm.trans there)
    exact bounds_of_mirrors_cell mirrors valid.lt_of_copied precedes (closed a x source)

end Copies

end Heap

end WorkflowEngine

/-!
## Fields in another order

Named data is put on a closed heap one after the other, each in a block of its own.  In another order, or beside further
data, it comes to stand elsewhere, but it is the same up to a relocation, which leaves all that was there before in its
place: two blocks that stand side by side trade places, and further blocks come behind.
-/

namespace WorkflowEngine

namespace Relocation

/-- All stays in its place. -/
def still : Relocation where
  address a := a
  mark m := m
  address_injective := Function.injective_id
  mark_injective := Function.injective_id
  origin := rfl

/-- First one relocation and then another. -/
def andThen (r q : Relocation) : Relocation where
  address a := q.address (r.address a)
  mark m := q.mark (r.mark m)
  address_injective := q.address_injective.comp r.address_injective
  mark_injective := q.mark_injective.comp r.mark_injective
  origin := by rw [r.origin, q.origin]

/-- Things on which relocations act. -/
class Acted (α : Type) [Movable α] : Prop where
  still : ∀ x : α, Relocation.still.move x = x
  andThen : ∀ (r q : Relocation) (x : α), (r.andThen q).move x = q.move (r.move x)

section Instances

variable {α β : Type} [Movable α] [Movable β]

instance [Fixes α] : Acted α where
  still x := Relocation.move_fixed _ x
  andThen r q x := by rw [Relocation.move_fixed, Relocation.move_fixed, Relocation.move_fixed]

instance : Acted Value where
  still v := by
    induction v with
    | method owner name ih => exact congrArg (Value.method · name) ih
    | slice lower upper step ihLower ihUpper ihStep =>
        have parts := congr (congr (congrArg Value.slice ihLower) ihUpper) ihStep
        exact parts
    | _ => rfl
  andThen r q v := by
    induction v with
    | method owner name ih => exact congrArg (Value.method · name) ih
    | slice lower upper step ihLower ihUpper ihStep =>
        have parts := congr (congr (congrArg Value.slice ihLower) ihUpper) ihStep
        exact parts
    | _ => rfl

instance [Acted α] : Acted (List α) where
  still xs := (List.map_congr_left fun x _ => Acted.still x).trans (List.map_id' xs)
  andThen r q xs := by
    rw [move_list, move_list, move_list, List.map_map]
    exact List.map_congr_left fun x _ => Acted.andThen r q x

instance [Acted α] : Acted (Option α) where
  still found := by
    cases found with
    | none => rfl
    | some x => exact congrArg some (Acted.still x)
  andThen r q found := by
    cases found with
    | none => rfl
    | some x => exact congrArg some (Acted.andThen r q x)

instance [Acted α] [Acted β] : Acted (α × β) where
  still pair := Prod.ext (Acted.still pair.1) (Acted.still pair.2)
  andThen r q pair := Prod.ext (Acted.andThen r q pair.1) (Acted.andThen r q pair.2)

instance : Acted Cell where
  still c := by
    cases c with
    | list items => exact congrArg Cell.list (Acted.still items)
    | tuple items => exact congrArg Cell.tuple (Acted.still items)
    | set items => exact congrArg Cell.set (Acted.still items)
    | dict entries => exact congrArg Cell.dict (Acted.still entries)
  andThen r q c := by
    cases c with
    | list items => exact congrArg Cell.list (Acted.andThen r q items)
    | tuple items => exact congrArg Cell.tuple (Acted.andThen r q items)
    | set items => exact congrArg Cell.set (Acted.andThen r q items)
    | dict entries => exact congrArg Cell.dict (Acted.andThen r q entries)

end Instances

section Blocks

variable {bound first second n : Nat}

/-- Numbers from a bound on move on so far that the bound comes to stand at another number. -/
def shifted (bound later n : Nat) : Nat :=
  if n < bound then n else n + (later - bound)

theorem shifted_injective (bound later : Nat) : Function.Injective (shifted bound later) := by
  intro n k same
  unfold shifted at same
  split at same <;> split at same <;> omega

theorem shifted_add (rise : bound ≤ first) (k : Nat) : shifted bound first (bound + k) = first + k := by
  unfold shifted
  split <;> omega

/-- A block from a bound on trades places with the block that follows it; the numbers are where each of them would end
if it stood at the bound. -/
def traded (bound first second n : Nat) : Nat :=
  if n < bound then n
  else if n < first then n + (second - bound)
  else if n < first + (second - bound) then n - (first - bound)
  else n

theorem traded_injective (rise : bound ≤ first) : Function.Injective (traded bound first second) := by
  intro n k same
  unfold traded at same
  split at same <;> split at same <;> grind

/-- The first block moves on behind the second one. -/
theorem traded_first (inside : n < first) : traded bound first second n = shifted bound second n := by
  unfold traded shifted
  grind

/-- The second block comes back from behind the first one. -/
theorem traded_shifted (rise : bound ≤ first) (inside : n < second) :
    traded bound first second (shifted bound first n) = n := by
  unfold traded shifted
  grind

theorem exists_shifted (rise : bound ≤ first) (behind : first ≤ n) (inside : n < shifted bound first second) :
    ∃ k < second, n = shifted bound first k := by
  unfold shifted at *
  exact ⟨n - (first - bound), by grind, by grind⟩

/-- Both blocks together end at the same place as before. -/
theorem traded_behind (rise : bound ≤ first) (rise' : bound ≤ second) (k : Nat) :
    traded bound first second (shifted bound first second + k) = shifted bound second first + k := by
  unfold traded shifted
  grind

end Blocks

end Relocation

open Relocation (Acted)

namespace Heap

variable {r q : Relocation} {h h' h'' : Heap}

namespace Moves

/-- A heap that is moved twice is moved by both relocations, one after the other. -/
theorem andThen (first : h.Moves r h') (second : h'.Moves q h'') : h.Moves (r.andThen q) h'' where
  cells a _ := by
    rw [Acted.andThen, ← first.cell?, ← second.cell?]
    rfl
  addresses k := (congrArg q.address (first.addresses k)).trans (second.addresses k)
  marks k := (congrArg q.mark (first.marks k)).trans (second.marks k)

theorem still (h : Heap) : h.Moves .still h :=
  ⟨fun a _ => (Acted.still (h.cell? a)).symm, fun _ => rfl, fun _ => rfl⟩

/-- Fields are put on both heaps at places that belong together. -/
theorem loadFields (moves : h.Moves r h') (done : List (String × Value)) (fields : List (String × Data)) :
    (h'.loadFields (r.move done) fields).1 = r.move (h.loadFields done fields).1 ∧
      (h.loadFields done fields).2.Moves r (h'.loadFields (r.move done) fields).2 := by
  induction fields generalizing h h' done with
  | nil => exact ⟨(r.move_reverse done).symm, moves⟩
  | cons field rest ih =>
      obtain ⟨value, later⟩ := moves.load field.2
      have last := ih later ((field.1, (h.load field.2).1) :: done)
      rw [r.move_cons, r.move_pair, r.move_fixed field.1, ← value] at last
      exact last

end Moves

/-- What has been put on the heap already comes before the other fields. -/
theorem loadFields_done (h : Heap) (done : List (String × Value)) (fields : List (String × Data)) :
    h.loadFields done fields = (done.reverse ++ (h.loadFields [] fields).1, (h.loadFields [] fields).2) := by
  induction fields generalizing h done with
  | nil => simp [loadFields]
  | cons field rest ih =>
      obtain ⟨name, item⟩ := field
      rw [loadFields, loadFields]
      dsimp only
      rw [ih _ ((name, _) :: done), ih _ [(name, _)]]
      simp

theorem loadFields_cons (h : Heap) (name : String) (d : Data) (rest : List (String × Data)) :
    h.loadFields [] ((name, d) :: rest) =
      ((name, (h.load d).1) :: ((h.load d).2.loadFields [] rest).1, ((h.load d).2.loadFields [] rest).2) := by
  rw [loadFields]
  dsimp only
  rw [loadFields_done]
  rfl

theorem loadFields_append (h : Heap) (fields more : List (String × Data)) :
    h.loadFields [] (fields ++ more) =
      ((h.loadFields [] fields).1 ++ ((h.loadFields [] fields).2.loadFields [] more).1,
        ((h.loadFields [] fields).2.loadFields [] more).2) := by
  induction fields generalizing h with
  | nil => simp [loadFields]
  | cons field rest ih =>
      obtain ⟨name, d⟩ := field
      rw [List.cons_append, loadFields_cons, loadFields_cons, ih]
      rfl

theorem IsClosed.loadFields (closed : h.IsClosed) (fields : List (String × Data)) :
    h.Keeps h.cells.size (h.loadFields [] fields).2 ∧ h.Precedes (h.loadFields [] fields).2 ∧
      (h.loadFields [] fields).2.IsClosed ∧ (h.loadFields [] fields).2.Bounds (h.loadFields [] fields).1 := by
  induction fields generalizing h with
  | nil => exact ⟨keeps_refl (Nat.le_refl _), .refl h, closed, .nil⟩
  | cons field rest ih =>
      obtain ⟨name, d⟩ := field
      obtain ⟨later, stillClosed, bounds⟩ := closed.load d
      obtain ⟨kept, last, final, others⟩ := ih stillClosed
      rw [loadFields_cons]
      refine ⟨(h.load_shows d).1.later kept, later.trans last, final, Bounds.cons (bounds_pair_iff.mpr ⟨?_, ?_⟩) others⟩
      · exact fun _ _ _ => rfl
      · exact bounds.later last

/-- What stands on a closed heap behaves as before under a relocation that leaves all given places and marks alone. -/
theorem Bounds.move_eq {α : Type} [Movable α] [Acted α] {x : α} (bounds : h.Bounds x) (fixes : h.Agrees .still r) :
    r.move x = x :=
  (bounds fixes).trans (Acted.still x)

/-- What comes next moves on behind the containers and marks of a later heap. -/
def shift (h h' : Heap) (filled : 0 < h.cells.size) : Relocation where
  address := Relocation.shifted h.cells.size h'.cells.size
  mark := Relocation.shifted h.marks h'.marks
  address_injective := Relocation.shifted_injective _ _
  mark_injective := Relocation.shifted_injective _ _
  origin := if_pos filled

theorem shift_agrees (filled : 0 < h.cells.size) : h.Agrees .still (h.shift h' filled) :=
  ⟨fun _ below => if_pos below, fun _ below => if_pos below⟩

/-- A closed heap is moved to every later heap that keeps its containers. -/
theorem IsClosed.moves_later (closed : h.IsClosed) (filled : 0 < h.cells.size) (kept : h.Keeps h.cells.size h')
    (later : h.Precedes h') : h.Moves (h.shift h' filled) h' where
  cells a below := by
    rw [closed.move_cell? (shift_agrees filled), Acted.still, ← kept.same a below]
    exact congrArg _ (if_pos below)
  addresses := Relocation.shifted_add later.cells
  marks := Relocation.shifted_add later.marks

/-- The containers and marks of two heaps that come after a heap trade places behind it. -/
def trade (h d e : Heap) (filled : 0 < h.cells.size) (later : h.Precedes d) : Relocation where
  address := Relocation.traded h.cells.size d.cells.size e.cells.size
  mark := Relocation.traded h.marks d.marks e.marks
  address_injective := Relocation.traded_injective later.cells
  mark_injective := Relocation.traded_injective later.marks
  origin := if_pos filled

/-- Two pieces of data come to the same in either order. -/
theorem IsClosed.moves_trade (closed : h.IsClosed) (filled : 0 < h.cells.size) (d e : Data) :
    ∃ r, h.Agrees .still r ∧ ((h.load d).2.load e).2.Moves r ((h.load e).2.load d).2 ∧
      r.move (h.load d).1 = ((h.load e).2.load d).1 ∧ r.move ((h.load d).2.load e).1 = (h.load e).1 := by
  obtain ⟨laterD, closedD, boundsD⟩ := closed.load d
  obtain ⟨laterE, closedE, boundsE⟩ := closed.load e
  have keptD := (h.load_shows d).1
  have keptE := (h.load_shows e).1
  have keptDE := ((h.load d).2.load_shows e).1
  have keptED := ((h.load e).2.load_shows d).1
  obtain ⟨valueD, movesD⟩ := (closed.moves_later filled keptE laterE).load d
  obtain ⟨valueE, movesE⟩ := (closed.moves_later filled keptD laterD).load e
  have sizes : Relocation.shifted h.cells.size (h.load d).2.cells.size (h.load e).2.cells.size =
    ((h.load d).2.load e).2.cells.size := movesE.addresses 0
  have sizes' : Relocation.shifted h.cells.size (h.load e).2.cells.size (h.load d).2.cells.size =
    ((h.load e).2.load d).2.cells.size := movesD.addresses 0
  have marks : Relocation.shifted h.marks (h.load d).2.marks (h.load e).2.marks = ((h.load d).2.load e).2.marks :=
    movesE.marks 0
  have marks' : Relocation.shifted h.marks (h.load e).2.marks (h.load d).2.marks = ((h.load e).2.load d).2.marks :=
    movesD.marks 0
  let r := h.trade (h.load d).2 (h.load e).2 filled laterD
  have fixes : h.Agrees .still r := ⟨fun _ below => if_pos below, fun _ below => if_pos below⟩
  have first : (h.load d).2.Agrees (h.shift (h.load e).2 filled) r :=
    ⟨fun _ inside => Relocation.traded_first inside, fun _ inside => Relocation.traded_first inside⟩
  have second : (h.load e).2.Agrees .still ((h.shift (h.load d).2 filled).andThen r) :=
    ⟨fun _ inside => Relocation.traded_shifted laterD.cells inside,
      fun _ inside => Relocation.traded_shifted laterD.marks inside⟩
  refine ⟨r, fixes, ⟨fun a below => ?_, fun k => ?_, fun k => ?_⟩, ?_, ?_⟩
  · rcases Nat.lt_or_ge a (h.load d).2.cells.size with inside | behind
    · rw [first.address a inside, keptDE.same a inside, closedD.move_cell? first]
      exact movesD.cell? a
    · obtain ⟨b, inside, rfl⟩ := Relocation.exists_shifted laterD.cells behind (sizes ▸ below)
      have back : r.address ((h.shift (h.load d).2 filled).address b) = b := second.address b inside
      have there := movesE.cell? b
      change _ = r.move (((h.load d).2.load e).2.cell? ((h.shift (h.load d).2 filled).address b))
      rw [there, ← Acted.andThen, closedE.move_cell? second, Acted.still, ← keptED.same b inside]
      exact congrArg _ back
  · rw [← sizes, ← sizes']
    exact Relocation.traded_behind laterD.cells laterE.cells k
  · rw [← marks, ← marks']
    exact Relocation.traded_behind laterD.marks laterE.marks k
  · exact (boundsD first).trans valueD.symm
  · rw [valueE, ← Acted.andThen]
    exact (boundsE second).trans (Acted.still _)

/-- Fields in another order come to the same, and what was there before stays in its place. -/
theorem IsClosed.exists_moves_of_perm (closed : h.IsClosed) (filled : 0 < h.cells.size) {fields others : List (String × Data)}
    (perm : fields.Perm others) :
    ∃ r, h.Agrees .still r ∧ (h.loadFields [] fields).2.Moves r (h.loadFields [] others).2 ∧
      (r.move (h.loadFields [] fields).1).Perm (h.loadFields [] others).1 := by
  induction perm generalizing h with
  | nil => exact ⟨.still, ⟨fun _ _ => rfl, fun _ _ => rfl⟩, .still h, .refl _⟩
  | cons field _ ih =>
      obtain ⟨name, d⟩ := field
      obtain ⟨later, stillClosed, bounds⟩ := closed.load d
      obtain ⟨r, fixes, moves, perm⟩ := ih stillClosed (Nat.lt_of_lt_of_le filled later.cells)
      rw [loadFields_cons, loadFields_cons]
      refine ⟨r, fixes.earlier later, moves, ?_⟩
      rw [r.move_cons, r.move_pair, bounds.move_eq fixes]
      exact perm.cons _
  | swap first second rest =>
      obtain ⟨name, d⟩ := second
      obtain ⟨name', e⟩ := first
      obtain ⟨r, fixes, moves, valueD, valueE⟩ := closed.moves_trade filled d e
      obtain ⟨values, last⟩ := moves.loadFields [] rest
      rw [r.move_nil] at values last
      simp only [loadFields_cons]
      refine ⟨r, fixes, last, ?_⟩
      rw [r.move_cons, r.move_cons, r.move_pair, r.move_pair, valueD, valueE, ← values]
      exact .swap _ _ _
  | trans _ _ first second =>
      obtain ⟨r, fixes, moves, perm⟩ := first closed filled
      obtain ⟨q, fixes', moves', perm'⟩ := second closed filled
      refine ⟨r.andThen q, ⟨fun a below => ?_, fun m below => ?_⟩, moves.andThen moves', ?_⟩
      · exact (congrArg q.address (fixes.address a below)).trans (fixes'.address a below)
      · exact (congrArg q.mark (fixes.mark m below)).trans (fixes'.mark m below)
      · rw [Acted.andThen]
        exact (perm.map _).trans perm'

/-- The names of fields are those of the data. -/
theorem loadFields_names (h : Heap) (fields : List (String × Data)) :
    (h.loadFields [] fields).1.map Prod.fst = fields.map Prod.fst := by
  induction fields generalizing h with
  | nil => rfl
  | cons field rest ih =>
      obtain ⟨name, d⟩ := field
      rw [loadFields_cons, List.map_cons, List.map_cons, ih]

/-- Where no name stands twice, the order does not matter to what a name stands for. -/
theorem lookup_of_perm {entries others : List (String × Value)} (nodup : (entries.map Prod.fst).Nodup)
    (perm : entries.Perm others) (name : String) : others.lookup name = entries.lookup name := by
  induction perm with
  | nil => rfl
  | cons entry _ ih => rw [List.lookup_cons, List.lookup_cons, ih (List.nodup_cons.mp nodup).2]
  | swap first second rest =>
      have apart : second.1 ≠ first.1 := fun same => (List.nodup_cons.mp nodup).1 (same ▸ List.mem_cons_self)
      rw [List.lookup_cons, List.lookup_cons, List.lookup_cons, List.lookup_cons]
      cases isFirst : name == first.1 with
      | false => rfl
      | true =>
          have other : (name == second.1) = false := by
            rw [beq_iff_eq] at isFirst
            exact beq_eq_false_iff_ne.mpr fun same => apart (same.symm.trans isFirst)
          rw [other]
  | trans perm _ first second =>
      exact (second ((perm.map Prod.fst).nodup_iff.mp nodup)).trans (first nodup)

/-- Some of the fields, in any order, come to the same as they do among all of them. -/
theorem IsClosed.exists_moves_of_filter (closed : h.IsClosed) (filled : 0 < h.cells.size) (p : String → Bool)
    {fields all : List (String × Data)} (perm : fields.Perm (all.filter fun e => p e.1)) (nodup : (all.map Prod.fst).Nodup) :
    ∃ r, h.Agrees .still r ∧ (h.loadFields [] fields).2.Moves r (h.loadFields [] all).2 ∧
      ∀ name, p name = true →
        (h.loadFields [] all).1.lookup name = r.move ((h.loadFields [] fields).1.lookup name) := by
  let rest := all.filter fun e => !p e.1
  have whole : (fields ++ rest).Perm all := (perm.append_right rest).trans (List.filter_append_perm _ all)
  obtain ⟨-, later, closedFields, bounds⟩ := closed.loadFields fields
  have filledFields := Nat.lt_of_lt_of_le filled later.cells
  obtain ⟨kept, last, -, -⟩ := closedFields.loadFields rest
  have behind := closedFields.moves_later filledFields kept last
  have fixesFields : (h.loadFields [] fields).2.Agrees .still
      ((h.loadFields [] fields).2.shift ((h.loadFields [] fields).2.loadFields [] rest).2 filledFields) :=
    shift_agrees filledFields
  obtain ⟨q, fixes, moves, same⟩ := closed.exists_moves_of_perm filled whole
  rw [loadFields_append] at moves same
  have names : (q.move ((h.loadFields [] fields).1 ++ ((h.loadFields [] fields).2.loadFields [] rest).1)).map Prod.fst =
      (fields ++ rest).map Prod.fst := by
    rw [Relocation.move_list, List.map_map, List.map_append, List.map_append, ← loadFields_names h fields,
      ← loadFields_names _ rest]
    exact congr (congrArg _ (List.map_congr_left fun _ _ => rfl)) (List.map_congr_left fun _ _ => rfl)
  refine ⟨_, ⟨fun a below => ?_, fun m below => ?_⟩, behind.andThen moves, fun name holds => ?_⟩
  · exact (congrArg q.address ((fixesFields.earlier later).address a below)).trans (fixes.address a below)
  · exact (congrArg q.mark ((fixesFields.earlier later).mark m below)).trans (fixes.mark m below)
  · have absent : ((h.loadFields [] fields).2.loadFields [] rest).1.lookup name = none := by
      refine List.lookup_eq_none_iff.mpr fun e listed => bne_iff_ne.mpr ?_
      rintro rfl
      have known := List.mem_map_of_mem (f := Prod.fst) listed
      rw [loadFields_names] at known
      obtain ⟨d, member, same⟩ := List.mem_map.mp known
      have out := (List.mem_filter.mp member).2
      rw [same, holds] at out
      cases out
    rw [lookup_of_perm (names ▸ (whole.map Prod.fst).nodup_iff.mpr nodup) same, Relocation.lookup_move, List.lookup_append, absent,
      Option.or_none, Acted.andThen]
    refine congrArg q.move (Eq.symm ?_)
    rw [← Relocation.lookup_move, bounds.move_eq fixesFields]

end Heap

end WorkflowEngine
