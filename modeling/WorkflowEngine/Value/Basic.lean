import WorkflowEngine.Data.Comparison

/-!
# Values during a run

While a workflow runs, containers are shared and may be changed in place.  A value therefore names a
container by its address, and a heap says what stands at each address.
-/

namespace WorkflowEngine

/-- The place of a container on the heap. -/
abbrev Address := Nat

/-- A value during a run. -/
inductive Value where
  | null
  | bool (b : Bool)
  | int (i : Int)
  | float (x : Float)
  | nan (mark : Nat)
  | complex (re im : Float)
  | str (s : String)
  | bytes (bs : List UInt8)
  | list (address : Address)
  | tuple (address : Address)
  | set (address : Address)
  | dict (address : Address)
  | routine (r : Routine)
  | type (k : Kind)
  | method (owner : Value) (name : String)
  | descriptor (owner : Kind) (name : String)
  | slice (lower upper step : Value)
  | ellipsis
  | lock
deriving Repr, Inhabited, BEq

/-- What stands at an address. -/
inductive Cell where
  | list (items : List Value)
  | tuple (items : List Value)
  | set (items : List Value)
  | dict (entries : List (Value × Value))
deriving Repr, Inhabited, BEq

namespace Value

/-- The kind of a value. -/
def kindOf : Value → Kind
  | .null => .null
  | .bool _ => .bool
  | .int _ => .int
  | .float _ => .float
  | .nan _ => .float
  | .complex _ _ => .complex
  | .str _ => .str
  | .bytes _ => .bytes
  | .list _ => .list
  | .tuple _ => .tuple
  | .set _ => .set
  | .dict _ => .dict
  | .routine r => r.kind
  | .type _ => .type
  | .method _ _ => .builtin
  | .descriptor _ name => descriptorKind name
  | .slice _ _ _ => .slice
  | .ellipsis => .ellipsis
  | .lock => .lock

/-- The address of a container. -/
def address? : Value → Option Address
  | .list a => some a
  | .tuple a => some a
  | .set a => some a
  | .dict a => some a
  | _ => none

/-- The number that a value counts as; truth values count as zero and one. -/
def number? : Value → Option Number
  | .bool b => some (.int (if b then 1 else 0))
  | .int i => some (.int i)
  | .float x => some (.float x)
  | .nan _ => some (.float Decimal.missingNumber)
  | .complex re im => some (.complex re im)
  | _ => none

/-- The integer that a value counts as. -/
def int? : Value → Option Int
  | .bool b => some (if b then 1 else 0)
  | .int i => some i
  | _ => none

end Value

/-- The containers of a run, and how many missing numbers have been told apart so far. -/
structure Heap where
  cells : Array Cell
  marks : Nat
deriving Repr, Inhabited

namespace Heap

/-- The heap without containers. -/
def empty : Heap := ⟨#[], 0⟩

/-- What stands at an address. -/
def cell? (h : Heap) (a : Address) : Option Cell :=
  h.cells[a]?

/-- Puts a container at a fresh address. -/
def alloc (h : Heap) (c : Cell) : Address × Heap :=
  (h.cells.size, { h with cells := h.cells.push c })

/-- Changes the container at an address. -/
def write (h : Heap) (a : Address) (c : Cell) : Heap :=
  { h with cells := h.cells.setIfInBounds a c }

/-- A fresh mark for a missing number. -/
def freshMark (h : Heap) : Nat × Heap :=
  (h.marks, { h with marks := h.marks + 1 })

/-- The items of the list, tuple or set at an address, in order. -/
def items (h : Heap) (a : Address) : List Value :=
  match h.cell? a with
  | some (.list items) => items
  | some (.tuple items) => items
  | some (.set items) => items
  | _ => []

/-- The entries of the dictionary at an address, in order. -/
def entries (h : Heap) (a : Address) : List (Value × Value) :=
  match h.cell? a with
  | some (.dict entries) => entries
  | _ => []

/-- A fresh address holds what was put there. -/
theorem cell?_alloc (h : Heap) (c : Cell) : (h.alloc c).2.cell? (h.alloc c).1 = some c := by
  simp [alloc, cell?]

/-- Putting a container at a fresh address leaves the others as they are. -/
theorem cell?_alloc_of_lt {h : Heap} {a : Address} (c : Cell) (known : a < h.cells.size) :
    (h.alloc c).2.cell? a = h.cell? a := by
  simp [alloc, cell?, Array.getElem?_push, Nat.ne_of_lt known]

/-- Changing one container leaves the others as they are. -/
theorem cell?_write_of_ne {h : Heap} {a b : Address} (c : Cell) (apart : a ≠ b) :
    (h.write a c).cell? b = h.cell? b := by
  simp [write, cell?, apart]

end Heap

end WorkflowEngine
