import Mathlib.Data.List.Forall2
import Mathlib.Data.List.Perm.Subperm
import WorkflowEngine.Proofs.Region.Basic
import WorkflowEngine.Value.View

/-!
# Heaps that mirror one another

A relation between addresses mirrors a part of one heap in another if related containers hold related values.
Values whose containers are related then show the same data, whatever else stands on the two heaps.  A part of
a heap that names no container outside mirrors itself on every heap that has the same containers there.
-/

namespace WorkflowEngine

variable {m m' : Address → Address → Prop}

/-- The value is no container and has no parts that could be containers. -/
def Value.IsPlain : Value → Prop
  | .list _ => False
  | .tuple _ => False
  | .set _ => False
  | .dict _ => False
  | .slice _ _ _ => False
  | _ => True

/-- Values that differ in the addresses of containers only, which are related. -/
inductive Value.Mirrors (m : Address → Address → Prop) : Value → Value → Prop where
  | list {a b : Address} (related : m a b) : Mirrors m (.list a) (.list b)
  | tuple {a b : Address} (related : m a b) : Mirrors m (.tuple a) (.tuple b)
  | set {a b : Address} (related : m a b) : Mirrors m (.set a) (.set b)
  | dict {a b : Address} (related : m a b) : Mirrors m (.dict a) (.dict b)
  | plain {v : Value} (plain : v.IsPlain) : Mirrors m v v

theorem Value.Mirrors.mono {v w : Value} (mirrors : v.Mirrors m w) (weaker : ∀ {a b}, m a b → m' a b) :
    v.Mirrors m' w := by
  cases mirrors with
  | list related => exact .list (weaker related)
  | tuple related => exact .tuple (weaker related)
  | set related => exact .set (weaker related)
  | dict related => exact .dict (weaker related)
  | plain plain => exact .plain plain

/-- Entries whose keys and values differ in the addresses of containers only. -/
def MirrorEntries (m : Address → Address → Prop) (e f : Value × Value) : Prop :=
  e.1.Mirrors m f.1 ∧ e.2.Mirrors m f.2

/-- Containers of one kind whose parts differ in the addresses of containers only. -/
inductive Cell.Mirrors (m : Address → Address → Prop) : Cell → Cell → Prop where
  | list {xs ys : List Value} (items : List.Forall₂ (Value.Mirrors m) xs ys) : Mirrors m (.list xs) (.list ys)
  | tuple {xs ys : List Value} (items : List.Forall₂ (Value.Mirrors m) xs ys) : Mirrors m (.tuple xs) (.tuple ys)
  | set {xs ys : List Value} (items : List.Forall₂ (Value.Mirrors m) xs ys) : Mirrors m (.set xs) (.set ys)
  | dict {xs ys : List (Value × Value)} (entries : List.Forall₂ (MirrorEntries m) xs ys) : Mirrors m (.dict xs) (.dict ys)

theorem Cell.Mirrors.mono {c d : Cell} (mirrors : c.Mirrors m d) (weaker : ∀ {a b}, m a b → m' a b) :
    c.Mirrors m' d := by
  have values {xs ys : List Value} (items : List.Forall₂ (Value.Mirrors m) xs ys) : List.Forall₂ (Value.Mirrors m') xs ys :=
    items.imp fun _ _ looks => looks.mono weaker
  cases mirrors with
  | list items => exact .list (values items)
  | tuple items => exact .tuple (values items)
  | set items => exact .set (values items)
  | dict entries => exact .dict (entries.imp fun _ _ looks => ⟨looks.1.mono weaker, looks.2.mono weaker⟩)

namespace Heap

variable {h h' : Heap} {a b : Address}

/-- Related containers stand on the two heaps, one for one, and differ in related addresses only. -/
structure Mirrored (m : Address → Address → Prop) (h h' : Heap) : Prop where
  unique : Relator.BiUnique m
  cells : ∀ {a b}, m a b → ∃ c d, h.cell? a = some c ∧ h'.cell? b = some d ∧ c.Mirrors m d

theorem Mirrored.items (mirrored : Mirrored m h h') (related : m a b) :
    List.Forall₂ (Value.Mirrors m) (h.items a) (h'.items b) := by
  obtain ⟨c, d, there, there', looks⟩ := mirrored.cells related
  unfold Heap.items
  rw [there, there']
  cases looks with
  | list items => exact items
  | tuple items => exact items
  | set items => exact items
  | dict entries => exact .nil

theorem Mirrored.entries (mirrored : Mirrored m h h') (related : m a b) :
    List.Forall₂ (MirrorEntries m) (h.entries a) (h'.entries b) := by
  obtain ⟨c, d, there, there', looks⟩ := mirrored.cells related
  unfold Heap.entries
  rw [there, there']
  cases looks with
  | list items => exact .nil
  | tuple items => exact .nil
  | set items => exact .nil
  | dict entries => exact entries

/-- A path without repetitions is not longer than the heap that it goes through. -/
theorem length_le_of_nodup {n : Nat} {path : List Address} (nodup : path.Nodup) (below : ∀ a ∈ path, a < n) :
    path.length ≤ n := by
  have part := List.subperm_of_subset nodup fun a listed => List.mem_range.mpr (below a listed)
  simpa using part.length_le

/-- A list with related members is mapped to the same. -/
theorem map_eq_of_forall₂ {α β γ : Type} {R : α → β → Prop} {f : α → γ} {g : β → γ} {xs : List α} {ys : List β}
    (related : List.Forall₂ R xs ys) (same : ∀ x y, R x y → f x = g y) : xs.map f = ys.map g := by
  induction related with
  | nil => rfl
  | cons first _ ih => rw [List.map_cons, List.map_cons, same _ _ first, ih]

section Paths

variable {fuel fuel' : Nat} {path path' outer outer' : List Address}

/-- Two paths under way through the two heaps, which began inside other containers, with enough fuel to go on until
a container is met again. -/
structure Underway (m : Address → Address → Prop) (h h' : Heap) (fuel fuel' : Nat) (path path' outer outer' : List Address) :
    Prop where
  paths : List.Forall₂ m path path'
  apart : ∀ {a b}, m a b → a ∉ outer ∧ b ∉ outer'
  nodup : path.Nodup
  nodup' : path'.Nodup
  enough : h.cells.size < fuel + path.length
  enough' : h'.cells.size < fuel' + path'.length

namespace Underway

/-- Related addresses are met at the same place. -/
theorem idxOf? (underway : Underway m h h' fuel fuel' path path' outer outer') (mirrored : Mirrored m h h')
    (related : m a b) : (path ++ outer).idxOf? a = (path' ++ outer').idxOf? b := by
  obtain ⟨paths, apart, -, -, -, -⟩ := underway
  induction paths with
  | nil =>
      rw [List.nil_append, List.nil_append, List.idxOf?_eq_none_iff.mpr (apart related).1,
        List.idxOf?_eq_none_iff.mpr (apart related).2]
  | @cons x y _ _ first _ ih =>
      have same : (x == a) = (y == b) := by
        rw [Bool.eq_iff_iff, beq_iff_eq, beq_iff_eq]
        constructor
        · rintro rfl
          exact mirrored.unique.2 first related
        · rintro rfl
          exact mirrored.unique.1 first related
      rw [List.cons_append, List.cons_append, List.idxOf?_cons, List.idxOf?_cons, ih, same]

/-- As long as a path has not met a container again, there is fuel left. -/
theorem fuel_pos (underway : Underway m h h' fuel fuel' path path' outer outer') (mirrored : Mirrored m h h') :
    0 < fuel ∧ 0 < fuel' := by
  have there : ∀ a ∈ path, a < h.cells.size := by
    intro a listed
    obtain ⟨i, inside, rfl⟩ := List.mem_iff_getElem.mp listed
    obtain ⟨c, d, cell, -, -⟩ :=
      mirrored.cells (underway.paths.get inside (underway.paths.length_eq ▸ inside))
    exact lt_of_cell? cell
  have there' : ∀ b ∈ path', b < h'.cells.size := by
    intro b listed
    obtain ⟨i, inside, rfl⟩ := List.mem_iff_getElem.mp listed
    obtain ⟨c, d, -, cell, -⟩ :=
      mirrored.cells (underway.paths.get (underway.paths.length_eq ▸ inside) inside)
    exact lt_of_cell? cell
  have short := length_le_of_nodup underway.nodup there
  have short' := length_le_of_nodup underway.nodup' there'
  have enough := underway.enough
  have enough' := underway.enough'
  omega

/-- The paths go on into related containers that are not met yet. -/
theorem step (underway : Underway m h h' (fuel + 1) (fuel' + 1) path path' outer outer') (mirrored : Mirrored m h h')
    (related : m a b) (fresh : (path ++ outer).idxOf? a = none) :
    Underway m h h' fuel fuel' (a :: path) (b :: path') outer outer' where
  paths := .cons related underway.paths
  apart := underway.apart
  nodup := by
    refine List.nodup_cons.mpr ⟨fun listed => ?_, underway.nodup⟩
    exact List.idxOf?_eq_none_iff.mp fresh (List.mem_append_left _ listed)
  nodup' := by
    rw [underway.idxOf? mirrored related] at fresh
    refine List.nodup_cons.mpr ⟨fun listed => ?_, underway.nodup'⟩
    exact List.idxOf?_eq_none_iff.mp fresh (List.mem_append_left _ listed)
  enough := by
    have enough := underway.enough
    rw [List.length_cons]
    omega
  enough' := by
    have enough := underway.enough'
    rw [List.length_cons]
    omega

end Underway

/-- Containers that are met at the same places of their paths look alike if they do where they are not met. -/
theorem cut_congr {d d' : Data} (met : path.idxOf? a = path'.idxOf? b) (unmet : path.idxOf? a = none → d = d') :
    (match path.idxOf? a with
      | some index => Data.cycle (index + 1)
      | none => d) =
      match path'.idxOf? b with
      | some index => .cycle (index + 1)
      | none => d' := by
  rw [← met]
  cases place : path.idxOf? a with
  | some index => rfl
  | none => exact unmet place

/-- Values whose containers are related show the same data. -/
theorem Mirrored.viewIn (mirrored : Mirrored m h h') (underway : Underway m h h' fuel fuel' path path' outer outer')
    {v w : Value} (looks : v.Mirrors m w) : h.viewIn fuel (path ++ outer) v = h'.viewIn fuel' (path' ++ outer') w := by
  induction fuel generalizing fuel' path path' v w with
  | zero => exact absurd (underway.fuel_pos mirrored).1 (Nat.lt_irrefl 0)
  | succ fuel ih =>
      obtain ⟨fuel', rfl⟩ := Nat.exists_eq_add_of_lt (underway.fuel_pos mirrored).2
      rw [Nat.zero_add] at underway ⊢
      have parts {a b : Address} (related : m a b) (fresh : (path ++ outer).idxOf? a = none) :
          (h.items a).map (h.viewIn fuel (a :: (path ++ outer))) = (h'.items b).map (h'.viewIn fuel' (b :: (path' ++ outer'))) :=
        map_eq_of_forall₂ (mirrored.items related) fun _ _ looks => ih (underway.step mirrored related fresh) looks
      cases looks with
      | list related =>
          exact cut_congr (underway.idxOf? mirrored related) fun fresh => congrArg Data.list (parts related fresh)
      | tuple related =>
          exact cut_congr (underway.idxOf? mirrored related) fun fresh => congrArg Data.tuple (parts related fresh)
      | set related =>
          exact cut_congr (underway.idxOf? mirrored related) fun fresh => congrArg Data.set (parts related fresh)
      | dict related =>
          refine cut_congr (underway.idxOf? mirrored related) fun fresh => congrArg Data.dict ?_
          have next := underway.step mirrored related fresh
          refine map_eq_of_forall₂ (mirrored.entries related) fun e f looks => ?_
          exact Prod.ext (ih next looks.1) (ih next looks.2)
      | plain plain =>
          cases v with
          | list a => exact absurd plain id
          | tuple a => exact absurd plain id
          | set a => exact absurd plain id
          | dict a => exact absurd plain id
          | slice lower upper step => exact absurd plain id
          | _ => rfl

/-- So they are the same data when they are looked at from outside. -/
theorem Mirrored.view (mirrored : Mirrored m h h') {v w : Value} (looks : v.Mirrors m w) : h.view v = h'.view w :=
  have underway : Underway m h h' (h.cells.size + 2) (h'.cells.size + 2) [] [] [] [] :=
    ⟨.nil, fun _ => ⟨List.not_mem_nil, List.not_mem_nil⟩, .nil, .nil, by simp, by simp⟩
  mirrored.viewIn underway looks

end Paths

end Heap

/-- Each container of a part is related to itself. -/
def Within (part : Address → Prop) (a b : Address) : Prop :=
  a = b ∧ part a

theorem within_unique (part : Address → Prop) : Relator.BiUnique (Within part) :=
  ⟨fun _ _ _ left right => left.1.trans right.1.symm, fun _ _ _ left right => left.1.symm.trans right.1⟩

/-- A mirrored value stays within the part that it is mirrored in. -/
theorem Value.Mirrors.within {v w : Value} {part : Address → Prop} (mirrors : v.Mirrors m w)
    (image : ∀ {a b}, m a b → part b) : w.Mirrors (Within part) w := by
  cases mirrors with
  | list related => exact .list ⟨rfl, image related⟩
  | tuple related => exact .tuple ⟨rfl, image related⟩
  | set related => exact .set ⟨rfl, image related⟩
  | dict related => exact .dict ⟨rfl, image related⟩
  | plain plain => exact .plain plain

theorem Cell.Mirrors.within {c d : Cell} {part : Address → Prop} (mirrors : c.Mirrors m d)
    (image : ∀ {a b}, m a b → part b) : d.Mirrors (Within part) d := by
  have values {xs ys : List Value} (items : List.Forall₂ (Value.Mirrors m) xs ys) :
      List.Forall₂ (Value.Mirrors (Within part)) ys ys := by
    induction items with
    | nil => exact .nil
    | cons first _ ih => exact .cons (first.within image) ih
  cases mirrors with
  | list items => exact .list (values items)
  | tuple items => exact .tuple (values items)
  | set items => exact .set (values items)
  | dict entries =>
      refine .dict ?_
      induction entries with
      | nil => exact .nil
      | cons first _ ih => exact .cons ⟨first.1.within image, first.2.within image⟩ ih

namespace Heap

variable {h h' : Heap} {part : Address → Prop}

/-- The containers of a part are there and name no containers outside. -/
def Enclosed (part : Address → Prop) (h : Heap) : Prop :=
  ∀ a, part a → ∃ c, h.cell? a = some c ∧ c.Mirrors (Within part) c

/-- A heap with the same containers in an enclosed part mirrors it. -/
theorem Enclosed.mirrored (enclosed : h.Enclosed part) (same : ∀ a, part a → h'.cell? a = h.cell? a) :
    Mirrored (Within part) h h' where
  unique := within_unique part
  cells := by
    rintro a _ ⟨rfl, inside⟩
    obtain ⟨c, there, looks⟩ := enclosed a inside
    exact ⟨c, c, there, (same a inside).trans there, looks⟩

theorem Enclosed.of_same (enclosed : h.Enclosed part) (same : ∀ a, part a → h'.cell? a = h.cell? a) :
    h'.Enclosed part := by
  intro a inside
  obtain ⟨c, there, looks⟩ := enclosed a inside
  exact ⟨c, (same a inside).trans there, looks⟩

end Heap

end WorkflowEngine
