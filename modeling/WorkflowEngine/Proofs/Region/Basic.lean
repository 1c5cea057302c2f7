import WorkflowEngine.Value.Machine

/-!
# Regions of the heap

Some containers are reserved: nothing that goes on elsewhere may read or change them.  A value is free if
every container that it names is there, of the kind that it is named as, and not reserved.  A heap is sound
if the containers that are not reserved hold free values only, so that no way leads from outside into the
reserved ones.  While the heap grows, containers keep their kinds and the reserved ones keep their contents.
-/

namespace WorkflowEngine

/-- The kind of a container. -/
def Cell.kind : Cell → Kind
  | .list _ => .list
  | .tuple _ => .tuple
  | .set _ => .set
  | .dict _ => .dict

/-- Things that name containers, each as one of a kind. -/
class Naming (α : Type) where
  /-- Every container that is named has a property. -/
  All : (Kind → Address → Prop) → α → Prop
  mono : ∀ {Q Q' : Kind → Address → Prop} {x : α}, (∀ k a, Q k a → Q' k a) → All Q x → All Q' x

namespace Naming

/-- Things of this type name no containers. -/
abbrev nothing (α : Type) : Naming α where
  All _ _ := True
  mono _ _ := trivial

instance : Naming Unit := nothing Unit
instance : Naming Bool := nothing Bool
instance : Naming Nat := nothing Nat
instance : Naming Int := nothing Int
instance : Naming Float := nothing Float
instance : Naming String := nothing String
instance : Naming Data := nothing Data
instance : Naming Number := nothing Number

end Naming

/-- Every container that a value names has a property; a method names those of its owner. -/
def Value.All (Q : Kind → Address → Prop) : Value → Prop
  | .list a => Q .list a
  | .tuple a => Q .tuple a
  | .set a => Q .set a
  | .dict a => Q .dict a
  | .method owner _ => owner.All Q
  | .slice lower upper step => lower.All Q ∧ upper.All Q ∧ step.All Q
  | _ => True

theorem Value.All.mono {Q Q' : Kind → Address → Prop} (weaker : ∀ k a, Q k a → Q' k a) {v : Value} (all : v.All Q) :
    v.All Q' := by
  induction v with
  | list a => exact weaker _ a all
  | tuple a => exact weaker _ a all
  | set a => exact weaker _ a all
  | dict a => exact weaker _ a all
  | method owner name ih => exact ih all
  | slice lower upper step ihLower ihUpper ihStep => exact ⟨ihLower all.1, ihUpper all.2.1, ihStep all.2.2⟩
  | _ => trivial

section Instances

variable {α β : Type} [Naming α] [Naming β]

instance : Naming Value where
  All := Value.All
  mono weaker all := Value.All.mono weaker all

instance : Naming (List α) where
  All Q xs := ∀ x ∈ xs, Naming.All Q x
  mono weaker all := fun x listed => Naming.mono weaker (all x listed)

instance : Naming (Option α) where
  All Q found := ∀ x ∈ found, Naming.All Q x
  mono weaker all := fun x there => Naming.mono weaker (all x there)

instance : Naming (α × β) where
  All Q pair := Naming.All Q pair.1 ∧ Naming.All Q pair.2
  mono weaker all := ⟨Naming.mono weaker all.1, Naming.mono weaker all.2⟩

instance : Naming Cell where
  All Q
    | .list items => Naming.All Q items
    | .tuple items => Naming.All Q items
    | .set items => Naming.All Q items
    | .dict entries => Naming.All Q entries
  mono {Q Q' cell} weaker all := by
    cases cell with
    | list items => exact Naming.mono weaker all
    | tuple items => exact Naming.mono weaker all
    | set items => exact Naming.mono weaker all
    | dict entries => exact Naming.mono weaker all

end Instances

namespace Heap

/-- The kind of the container at an address. -/
def kind? (h : Heap) (a : Address) : Option Kind :=
  (h.cell? a).map Cell.kind

/-- At the address there is a container of the kind that is not reserved. -/
def Free (reserved : Address → Prop) (h : Heap) (k : Kind) (a : Address) : Prop :=
  h.kind? a = some k ∧ ¬ reserved a

end Heap

/-- Every container that is named is there, of its kind, and not reserved. -/
abbrev Held {α : Type} [Naming α] (reserved : Address → Prop) (h : Heap) (x : α) : Prop :=
  Naming.All (h.Free reserved) x

namespace Held

variable {α β : Type} [Naming α] [Naming β] {reserved : Address → Prop} {h : Heap}

theorem nil : Held reserved h ([] : List α) :=
  fun _ listed => absurd listed List.not_mem_nil

theorem cons {x : α} {xs : List α} (first : Held reserved h x) (rest : Held reserved h xs) : Held reserved h (x :: xs) :=
  List.forall_mem_cons.mpr ⟨first, rest⟩

theorem append {xs ys : List α} (front : Held reserved h xs) (back : Held reserved h ys) : Held reserved h (xs ++ ys) :=
  List.forall_mem_append.mpr ⟨front, back⟩

theorem reverse {xs : List α} (held : Held reserved h xs) : Held reserved h xs.reverse :=
  fun x listed => held x (List.mem_reverse.mp listed)

/-- A list that takes its members from another one names nothing new. -/
theorem sublist {xs ys : List α} (held : Held reserved h ys) (part : xs ⊆ ys) : Held reserved h xs :=
  fun x listed => held x (part listed)

theorem filter {xs : List α} (held : Held reserved h xs) (p : α → Bool) : Held reserved h (xs.filter p) :=
  held.sublist List.filter_sublist.subset

theorem map {xs : List α} {f : α → β} (held : Held reserved h xs)
    (named : ∀ x, Held reserved h x → Held reserved h (f x)) : Held reserved h (xs.map f) := by
  intro y listed
  obtain ⟨x, member, rfl⟩ := List.mem_map.mp listed
  exact named x (held x member)

theorem some {x : α} (held : Held reserved h x) : Held reserved h (some x) := by
  rintro y ⟨⟩
  exact held

theorem none : Held reserved h (none : Option α) := nofun

end Held

namespace Heap

variable {α : Type} [Naming α] {reserved : Address → Prop} {h h' h'' : Heap} {a : Address} {c : Cell}

/-- Reserved containers are there, and the others hold free values only. -/
structure Sound (reserved : Address → Prop) (h : Heap) : Prop where
  there : ∀ a, reserved a → a < h.cells.size
  held : ∀ a c, h.cell? a = some c → ¬ reserved a → Held reserved h c

/-- A later heap: containers keep their kinds, and the reserved ones keep their contents. -/
structure Grown (reserved : Address → Prop) (h h' : Heap) : Prop where
  kinds : ∀ a k, h.kind? a = some k → h'.kind? a = some k
  same : ∀ a, reserved a → h'.cell? a = h.cell? a
  sound : h'.Sound reserved

theorem Grown.refl (sound : h.Sound reserved) : Grown reserved h h :=
  ⟨fun _ _ there => there, fun _ _ => rfl, sound⟩

theorem Grown.trans (first : Grown reserved h h') (second : Grown reserved h' h'') : Grown reserved h h'' where
  kinds a k there := second.kinds a k (first.kinds a k there)
  same a kept := (second.same a kept).trans (first.same a kept)
  sound := second.sound

/-- What is free stays free. -/
theorem Grown.free (grown : Grown reserved h h') (k : Kind) (a : Address) (free : h.Free reserved k a) :
    h'.Free reserved k a :=
  ⟨grown.kinds a k free.1, free.2⟩

theorem lt_of_cell? (there : h.cell? a = some c) : a < h.cells.size :=
  (Array.getElem?_eq_some_iff.mp there).1

theorem kind?_of_cell? (there : h.cell? a = some c) : h.kind? a = some c.kind := by
  rw [kind?, there]
  rfl

theorem exists_cell? {k : Kind} (there : h.kind? a = some k) : ∃ c, h.cell? a = some c ∧ c.kind = k :=
  Option.map_eq_some_iff.mp there

/-- The items of a container that is not reserved are free. -/
theorem Sound.items (sound : h.Sound reserved) (free : ¬ reserved a) : Held reserved h (h.items a) := by
  unfold Heap.items
  split
  · rename_i items there
    exact sound.held a _ there free
  · rename_i items there
    exact sound.held a _ there free
  · rename_i items there
    exact sound.held a _ there free
  · exact Held.nil

/-- The entries of a dictionary that is not reserved are free. -/
theorem Sound.entries (sound : h.Sound reserved) (free : ¬ reserved a) : Held reserved h (h.entries a) := by
  unfold Heap.entries
  split
  · rename_i entries there
    exact sound.held a _ there free
  · exact Held.nil

theorem cell?_write (h : Heap) (a b : Address) (c : Cell) :
    (h.write a c).cell? b = if a = b ∧ a < h.cells.size then some c else h.cell? b := by
  unfold write cell?
  by_cases same : a = b
  · subst same
    by_cases inside : a < h.cells.size
    · simp [inside]
    · simp [inside]
  · simp [same]

theorem cell?_alloc_cases {b : Address} {d : Cell} (there : (h.alloc c).2.cell? b = some d) :
    h.cell? b = some d ∨ b = h.cells.size ∧ d = c := by
  by_cases known : b < h.cells.size
  · rw [cell?_alloc_of_lt c known] at there
    exact .inl there
  · have inside := lt_of_cell? there
    have last : b = h.cells.size := by
      simp only [alloc, Array.size_push] at inside
      exact Nat.le_antisymm (Nat.lt_succ_iff.mp inside) (Nat.le_of_not_lt known)
    subst last
    have put := cell?_alloc h c
    rw [show (h.alloc c).1 = h.cells.size from rfl, there] at put
    exact .inr ⟨rfl, Option.some.inj put⟩

/-- A container of free values is put at a fresh address, which is free. -/
theorem Sound.alloc (sound : h.Sound reserved) (held : Held reserved h c) :
    Grown reserved h (h.alloc c).2 ∧ (h.alloc c).2.Free reserved c.kind (h.alloc c).1 := by
  have kinds : ∀ a k, h.kind? a = some k → (h.alloc c).2.kind? a = some k := by
    intro a k there
    obtain ⟨d, cell, -⟩ := exists_cell? there
    rw [kind?, cell?_alloc_of_lt c (lt_of_cell? cell)]
    exact there
  have weaker : ∀ k a, h.Free reserved k a → (h.alloc c).2.Free reserved k a :=
    fun k a free => ⟨kinds a k free.1, free.2⟩
  refine ⟨⟨kinds, fun a kept => cell?_alloc_of_lt c (sound.there a kept), ?_, ?_⟩, ?_, ?_⟩
  · intro a kept
    simp only [Heap.alloc, Array.size_push]
    exact Nat.lt_succ_of_lt (sound.there a kept)
  · intro a d there free
    rcases cell?_alloc_cases there with old | ⟨-, rfl⟩
    · exact Naming.mono weaker (sound.held a d old free)
    · exact Naming.mono weaker held
  · exact kind?_of_cell? (cell?_alloc h c)
  · intro kept
    exact Nat.lt_irrefl _ (sound.there _ kept)

/-- A free container is given free values and keeps its kind. -/
theorem Sound.write (sound : h.Sound reserved) (free : h.Free reserved c.kind a) (held : Held reserved h c) :
    Grown reserved h (h.write a c) := by
  have kinds : ∀ b k, h.kind? b = some k → (h.write a c).kind? b = some k := by
    intro b k there
    rw [kind?, cell?_write]
    split
    · rename_i same
      rw [← same.1, free.1] at there
      exact there
    · exact there
  have weaker : ∀ k b, h.Free reserved k b → (h.write a c).Free reserved k b :=
    fun k b free => ⟨kinds b k free.1, free.2⟩
  refine ⟨kinds, ?_, ?_, ?_⟩
  · intro b kept
    refine cell?_write_of_ne c ?_
    rintro rfl
    exact free.2 kept
  · intro b kept
    simpa [Heap.write] using sound.there b kept
  · intro b d there unreserved
    rw [cell?_write] at there
    split at there
    · cases there
      exact Naming.mono weaker held
    · exact Naming.mono weaker (sound.held b d there unreserved)

theorem Sound.freshMark (sound : h.Sound reserved) : Grown reserved h h.freshMark.2 :=
  ⟨fun _ _ there => there, fun _ _ => rfl, sound.there, sound.held⟩

end Heap

/-- What is free stays free while the heap grows. -/
theorem Held.grown {α : Type} [Naming α] {reserved : Address → Prop} {h h' : Heap} {x : α} (held : Held reserved h x)
    (grown : h.Grown reserved h') : Held reserved h' x :=
  Naming.mono grown.free held

end WorkflowEngine
