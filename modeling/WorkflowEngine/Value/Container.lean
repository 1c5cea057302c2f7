import WorkflowEngine.Value.Machine

/-!
# Containers as values

What holds of every value: whether it counts as true, how long it is, whether it may be a key, and which
values are equal or the very same.  Dictionaries and sets tell their keys apart by equality.
-/

namespace WorkflowEngine

namespace Data

mutual

/-- The first part because of which a value cannot be a key. -/
def unhashable? : Data → Option Kind
  | .list _ => some .list
  | .dict _ => some .dict
  | .set _ => some .set
  | .slice _ _ _ => some .slice
  | .tuple items => anyUnhashable? items
  | _ => none

/-- The first part of some item because of which it cannot be a key. -/
def anyUnhashable? : List Data → Option Kind
  | [] => none
  | item :: rest =>
    match unhashable? item with
    | some kind => some kind
    | none => anyUnhashable? rest

end

end Data

namespace Heap

/-- The number of items or entries at an address. -/
def size (h : Heap) (a : Address) : Nat :=
  match h.cell? a with
  | some (.list items) => items.length
  | some (.tuple items) => items.length
  | some (.set items) => items.length
  | some (.dict entries) => entries.length
  | none => 0

/-- The length of a value that has one. -/
def length? (h : Heap) : Value → Option Nat
  | .str s => some s.length
  | .bytes bs => some bs.length
  | .list a => some (h.size a)
  | .tuple a => some (h.size a)
  | .set a => some (h.size a)
  | .dict a => some (h.size a)
  | _ => none

/-- The value counts as true. -/
def isTrue (h : Heap) (v : Value) : Bool :=
  match v.number? with
  | some n => n.isTrue
  | none =>
    match v with
    | .null => false
    | v =>
      match h.length? v with
      | some n => n != 0
      | none => true

/-- Two values are the same key; plain ones are compared at once. -/
def sameKey (h : Heap) (a b : Value) : Bool :=
  match a, b with
  | .str s, .str t => s == t
  | .int i, .int j => i == j
  | .str _, .int _ => false
  | .int _, .str _ => false
  | a, b => Data.same (h.view a) (h.view b)

/-- Two values are equal. -/
def equals (h : Heap) (a b : Value) : Bool :=
  match a, b with
  | .str s, .str t => s == t
  | .int i, .int j => i == j
  | a, b => Data.equals (h.view a) (h.view b)

/-- The entry under a key. -/
def lookup (h : Heap) (entries : List (Value × Value)) (key : Value) : Option Value :=
  (entries.find? fun entry => h.sameKey entry.1 key).map Prod.snd

/-- Sets the entry under a key; a key that is there keeps its place. -/
def setEntry (h : Heap) (entries : List (Value × Value)) (key value : Value) : List (Value × Value) :=
  if entries.any fun entry => h.sameKey entry.1 key then
    entries.map fun entry => if h.sameKey entry.1 key then (entry.1, value) else entry
  else entries ++ [(key, value)]

/-- Sets all entries of a list, one after the other. -/
def setEntries (h : Heap) (entries added : List (Value × Value)) : List (Value × Value) :=
  added.foldl (fun entries entry => h.setEntry entries entry.1 entry.2) entries

/-- Removes the entry under a key. -/
def dropEntry (h : Heap) (entries : List (Value × Value)) (key : Value) : List (Value × Value) :=
  entries.filter fun entry => !h.sameKey entry.1 key

/-- The value is among the items. -/
def isMember (h : Heap) (items : List Value) (v : Value) : Bool :=
  items.any fun item => h.sameKey item v

/-- The items without repetitions, behind those already kept, which stand reversed. -/
def distinct (h : Heap) (kept : List Value) : List Value → List Value
  | [] => kept.reverse
  | item :: rest =>
    if h.isMember kept item then distinct h kept rest else distinct h (item :: kept) rest

end Heap

namespace Value

/-- The natural number that a value is equal to. -/
def nat? : Value → Option Nat
  | .bool b => some (if b then 1 else 0)
  | .int i => if 0 ≤ i then some i.toNat else none
  | .float x =>
    match Decimal.truncate? x with
    | some i => if 0 ≤ i && Decimal.floatOfInt i == x then some i.toNat else none
    | none => none
  | _ => none

/-- Whether two values are one and the same; plain values are when they are equal and of one kind. -/
def isSame (h : Heap) : Value → Value → Bool
  | .tuple a, .tuple b => a == b || (h.size a == 0 && h.size b == 0)
  | .method _ _, .method _ _ => false
  | .slice _ _ _, .slice _ _ _ => false
  | .float x, .float y => x.toBits == y.toBits
  | a, b => a == b

end Value

namespace Eval

/-- The value counts as true. -/
def isTrue (v : Value) : Eval Bool := do
  return (← heap).isTrue v

/-- The length of a value. -/
def length (v : Value) : Eval Nat := do
  match (← heap).length? v with
  | some n => return n
  | none => fail (.noLength v.kindOf)

/-- Faults unless the value may be a key. -/
def requireKey (v : Value) : Eval Unit := do
  match v with
  | .str _ => pure ()
  | v =>
    match (← view v).unhashable? with
    | some kind => fail (.unhashable kind)
    | none => pure ()

/-- Faults unless every value may be a key. -/
def requireKeys : List Value → Eval Unit
  | [] => pure ()
  | v :: rest => do
    requireKey v
    requireKeys rest

/-- The members of a set in the order in which it shows them: natural numbers rise. -/
def settle (items : List Value) : List Value :=
  if items.all fun v => v.nat?.isSome then
    items.mergeSort fun a b => a.nat?.getD 0 ≤ b.nat?.getD 0
  else items

/-- A fresh set of the values. -/
def setOf (values : List Value) : Eval Value := do
  requireKeys values
  newSet (settle ((← heap).distinct [] values))

/-- Two values are equal. -/
def equals (a b : Value) : Eval Bool := do
  return (← heap).equals a b

/-- The text of a value. -/
def text (v : Value) : Eval String := do
  lift (← view v).text?

/-- The text of a value with its parts told apart. -/
def source (v : Value) : Eval String := do
  lift (← view v).source?

end Eval

end WorkflowEngine

/-!
## Going through values

A cursor goes through the items of a value one by one.  Lists are looked at afresh for every item, so
that changes made on the way are seen; a dictionary or set whose size changes ends the walk in a fault.
-/

namespace WorkflowEngine

/-- A place on the way through a value. -/
inductive Cursor where
  | fixed (rest : List Value)
  | list (address : Address) (index : Nat)
  | dict (address : Address) (index size : Nat)
  | set (address : Address) (index size : Nat)
deriving Inhabited

namespace Cursor

open Eval

/-- The start of the way through a value. -/
def start (v : Value) : Eval Cursor :=
  match v with
  | .str s => pure (.fixed (s.toList.map fun c => .str (String.singleton c)))
  | .bytes bs => pure (.fixed (bs.map fun b => .int b.toNat))
  | .list a => pure (.list a 0)
  | .tuple a => do return .fixed (← items a)
  | .dict a => do return .dict a 0 ((← heap).size a)
  | .set a => do return .set a 0 ((← heap).size a)
  | other => fail (.notIterable other.kindOf)

/-- The next item, and the place behind it. -/
def next : Cursor → Eval (Option (Value × Cursor))
  | .fixed [] => pure none
  | .fixed (v :: rest) => pure (some (v, .fixed rest))
  | .list a index => do
    match (← items a)[index]? with
    | some v => return some (v, .list a (index + 1))
    | none => return none
  | .dict a index size => do
    let entries ← entries a
    if entries.length != size then fail (.other .runtime "dictionary changed size during iteration")
    match entries[index]? with
    | some entry => return some (entry.1, .dict a (index + 1) size)
    | none => return none
  | .set a index size => do
    let members ← items a
    if members.length != size then fail (.other .runtime "Set changed size during iteration")
    match members[index]? with
    | some v => return some (v, .set a (index + 1) size)
    | none => return none

end Cursor

namespace Eval

/-- All items of a value, as they stand. -/
def iterate (v : Value) : Eval (List Value) := do
  match ← Cursor.start v with
  | .fixed rest => return rest
  | .list a _ => items a
  | .set a _ _ => items a
  | .dict a _ _ => do return (← entries a).map Prod.fst

end Eval

end WorkflowEngine
