import WorkflowEngine.Data.Copy
import WorkflowEngine.Value.Basic

/-!
# Between values and data

`Heap.view` writes a value out as data; a container inside itself is cut.  `Heap.load` puts data on the
heap, every container at a fresh address.  `Heap.copy` gives a value of its own for every container
that can be reached, where shared and cyclic parts stay shared and cyclic.
-/

namespace WorkflowEngine

/-- A value as data, given how its containers look; a range has the parts of its bounds. -/
def Value.outline (list tuple set dict : Address → Data) : Value → Data
  | .null => .null
  | .bool b => .bool b
  | .int i => .int i
  | .float x => .float x
  | .nan m => .nan m
  | .complex re im => .complex re im
  | .str s => .str s
  | .bytes bs => .bytes bs
  | .list a => list a
  | .tuple a => tuple a
  | .set a => set a
  | .dict a => dict a
  | .routine r => .routine r
  | .type k => .type k
  | .method owner name => .method owner.kindOf name ((owner.address?).getD 0)
  | .descriptor owner name => .descriptor owner name
  | .slice lower upper step =>
    .slice (outline list tuple set dict lower) (outline list tuple set dict upper) (outline list tuple set dict step)
  | .ellipsis => .ellipsis
  | .lock => .lock

namespace Heap

/-- A value as data, inside the containers on the path; the fuel bounds how deep containers are nested. -/
def viewIn (h : Heap) : Nat → List Address → Value → Data
  | 0, _, _ => .cycle 0
  | fuel + 1, path, v =>
    v.outline
      (fun a =>
        match path.idxOf? a with
        | some index => .cycle (index + 1)
        | none => .list ((h.items a).map (viewIn h fuel (a :: path))))
      (fun a =>
        match path.idxOf? a with
        | some index => .cycle (index + 1)
        | none => .tuple ((h.items a).map (viewIn h fuel (a :: path))))
      (fun a =>
        match path.idxOf? a with
        | some index => .cycle (index + 1)
        | none => .set ((h.items a).map (viewIn h fuel (a :: path))))
      (fun a =>
        match path.idxOf? a with
        | some index => .cycle (index + 1)
        | none =>
          .dict ((h.entries a).map fun entry =>
            (viewIn h fuel (a :: path) entry.1, viewIn h fuel (a :: path) entry.2)))

/-- A value as data. -/
def view (h : Heap) (v : Value) : Data :=
  h.viewIn (h.cells.size + 2) [] v

mutual

/-- Puts data on the heap. -/
def load (h : Heap) : Data → Value × Heap
  | .null => (.null, h)
  | .bool b => (.bool b, h)
  | .int i => (.int i, h)
  | .float x => (.float x, h)
  | .nan _ => (.nan h.freshMark.1, h.freshMark.2)
  | .complex re im => (.complex re im, h)
  | .str s => (.str s, h)
  | .bytes bs => (.bytes bs, h)
  | .list items =>
    let (values, h) := loadItems h [] items
    let (a, h) := h.alloc (.list values)
    (.list a, h)
  | .tuple items =>
    let (values, h) := loadItems h [] items
    let (a, h) := h.alloc (.tuple values)
    (.tuple a, h)
  | .set items =>
    let (values, h) := loadItems h [] items
    let (a, h) := h.alloc (.set values)
    (.set a, h)
  | .dict entries =>
    let (values, h) := loadEntries h [] entries
    let (a, h) := h.alloc (.dict values)
    (.dict a, h)
  | .routine r => (.routine r, h)
  | .type k => (.type k, h)
  | .method _ _ _ => (.null, h)
  | .descriptor owner name => (.descriptor owner name, h)
  | .slice _ _ _ => (.null, h)
  | .ellipsis => (.ellipsis, h)
  | .lock => (.lock, h)
  | .cycle _ => (.null, h)

/-- Puts items on the heap, behind those already there, which stand reversed. -/
def loadItems (h : Heap) (done : List Value) : List Data → List Value × Heap
  | [] => (done.reverse, h)
  | item :: rest =>
    let (value, h) := load h item
    loadItems h (value :: done) rest

/-- Puts entries on the heap, behind those already there, which stand reversed. -/
def loadEntries (h : Heap) (done : List (Value × Value)) :
    List (Data × Data) → List (Value × Value) × Heap
  | [] => (done.reverse, h)
  | (key, item) :: rest =>
    let (key, h) := load h key
    let (value, h) := load h item
    loadEntries h ((key, value) :: done) rest

end

/-- Puts the values of named fields on the heap. -/
def loadFields (h : Heap) (done : List (String × Value)) :
    List (String × Data) → List (String × Value) × Heap
  | [] => (done.reverse, h)
  | (name, item) :: rest =>
    let (value, h) := h.load item
    loadFields h ((name, value) :: done) rest

end Heap

/-- A copy under way: the heap, and the copies already made of containers. -/
structure Copying where
  heap : Heap
  copies : List (Address × Address)

namespace Copying

/-- Goes through a list, threading the copy and ending at the first fault. -/
def each {α β : Type} (step : Copying → α → Except Fault (β × Copying)) :
    Copying → List β → List α → Except Fault (List β × Copying)
  | c, done, [] => .ok (done.reverse, c)
  | c, done, x :: rest =>
    match step c x with
    | .error f => .error f
    | .ok (y, c) => each step c (y :: done) rest

/-- Reserves the copy of a container before its parts are copied. -/
def reserve (c : Copying) (a : Address) (empty : Cell) : Address × Copying :=
  let (fresh, heap) := c.heap.alloc empty
  (fresh, ⟨heap, (a, fresh) :: c.copies⟩)

/-- The copy of a value; the fuel bounds the depth. -/
def value : Nat → Copying → Value → Except Fault (Value × Copying)
  | 0, c, v => .ok (v, c)
  | fuel + 1, c, v =>
    match v with
    | .list a =>
      match c.copies.lookup a with
      | some fresh => .ok (.list fresh, c)
      | none =>
        let (fresh, c) := c.reserve a (.list [])
        match each (value fuel) c [] (c.heap.items a) with
        | .error f => .error f
        | .ok (items, c) => .ok (.list fresh, { c with heap := c.heap.write fresh (.list items) })
    | .tuple a =>
      match c.copies.lookup a with
      | some fresh => .ok (.tuple fresh, c)
      | none =>
        let (fresh, c) := c.reserve a (.tuple [])
        match each (value fuel) c [] (c.heap.items a) with
        | .error f => .error f
        | .ok (items, c) => .ok (.tuple fresh, { c with heap := c.heap.write fresh (.tuple items) })
    | .set a =>
      match c.copies.lookup a with
      | some fresh => .ok (.set fresh, c)
      | none =>
        let (fresh, c) := c.reserve a (.set [])
        match each (value fuel) c [] (c.heap.items a) with
        | .error f => .error f
        | .ok (items, c) => .ok (.set fresh, { c with heap := c.heap.write fresh (.set items) })
    | .dict a =>
      match c.copies.lookup a with
      | some fresh => .ok (.dict fresh, c)
      | none =>
        let (fresh, c) := c.reserve a (.dict [])
        let entry := fun (c : Copying) (e : Value × Value) =>
          match value fuel c e.1 with
          | .error f => .error f
          | .ok (key, c) =>
            match value fuel c e.2 with
            | .error f => .error f
            | .ok (item, c) => .ok ((key, item), c)
        match each entry c [] (c.heap.entries a) with
        | .error f => .error f
        | .ok (entries, c) => .ok (.dict fresh, { c with heap := c.heap.write fresh (.dict entries) })
    | .lock => .error (.notCopyable Kind.lock.name)
    | .slice _ _ _ => .error (.notCopyable Kind.slice.name)
    | .descriptor owner name =>
      if descriptorKind name == .field then .error (.notCopyable Kind.field.name)
      else .ok (.descriptor owner name, c)
    | v => .ok (v, c)

end Copying

namespace Heap

/-- A value as data, where it can be copied. -/
def snapshot (h : Heap) (v : Value) : Except Fault Data :=
  (h.view v).copy

/-- A value with containers of its own. -/
def copy (h : Heap) (v : Value) : Except Fault (Value × Heap) :=
  match Copying.value (h.cells.size + 2) ⟨h, []⟩ v with
  | .error f => .error f
  | .ok (v, c) => .ok (v, c.heap)

end Heap

end WorkflowEngine
