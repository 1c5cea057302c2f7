import WorkflowEngine.Layout.Field
import WorkflowEngine.Value.View

/-!
# Evaluation

An evaluation changes the heap and either yields a value or ends in a fault.  It also counts the
steps of comprehensions, which are bounded for a whole evaluation.
-/

namespace WorkflowEngine

/-- The state of an evaluation. -/
structure Machine where
  heap : Heap
  steps : Nat
deriving Repr, Inhabited

/-- A computation on the heap that may end in a fault. -/
abbrev Eval (α : Type) : Type := ExceptT Fault (StateM Machine) α

namespace Eval

/-- Ends in a fault. -/
def fail {α : Type} (f : Fault) : Eval α :=
  throw f

/-- Takes over an outcome that does not depend on the heap. -/
def lift {α : Type} : Except Fault α → Eval α
  | .ok a => pure a
  | .error f => throw f

/-- The heap as it stands. -/
def heap : Eval Heap := do
  return (← get).heap

/-- Changes the heap and keeps what the change yields. -/
def onHeap {α : Type} (change : Heap → α × Heap) : Eval α :=
  modifyGet fun ⟨h, steps⟩ =>
    let (a, h) := change h
    (a, ⟨h, steps⟩)

/-- Puts a container at a fresh address. -/
def alloc (c : Cell) : Eval Address :=
  onHeap fun h => h.alloc c

/-- Changes the container at an address. -/
def write (a : Address) (c : Cell) : Eval Unit :=
  onHeap fun h => ((), h.write a c)

/-- Puts data on the heap. -/
def load (d : Data) : Eval Value :=
  onHeap fun h => h.load d

/-- A value as data. -/
def view (v : Value) : Eval Data := do
  return (← heap).view v

/-- A fresh list. -/
def newList (items : List Value) : Eval Value := do
  return .list (← alloc (.list items))

/-- A fresh tuple. -/
def newTuple (items : List Value) : Eval Value := do
  return .tuple (← alloc (.tuple items))

/-- A fresh set, whose items are already told apart. -/
def newSet (items : List Value) : Eval Value := do
  return .set (← alloc (.set items))

/-- A fresh dictionary, whose keys are already told apart. -/
def newDict (entries : List (Value × Value)) : Eval Value := do
  return .dict (← alloc (.dict entries))

/-- A double as a value; every missing number is told apart from the others. -/
def float (x : Float) : Eval Value := do
  if x.isNaN then return .nan (← onHeap Heap.freshMark) else return .float x

/-- A number as a value. -/
def number : Number → Eval Value
  | .int i => pure (.int i)
  | .float x => float x
  | .complex re im => pure (.complex re im)

/-- The items of the list, tuple or set at an address. -/
def items (a : Address) : Eval (List Value) := do
  return (← heap).items a

/-- The entries of the dictionary at an address. -/
def entries (a : Address) : Eval (List (Value × Value)) := do
  return (← heap).entries a

/-- Runs an evaluation from a machine on. -/
def exec {α : Type} (e : Eval α) (m : Machine) : Except Fault α × Machine :=
  ExceptT.run e m

/-- Runs an evaluation on a heap. -/
def run {α : Type} (e : Eval α) (h : Heap) : Except Fault α × Heap :=
  let (outcome, m) := e.exec ⟨h, 0⟩
  (outcome, m.heap)

section Runs

variable {α β : Type}

theorem exec_get (m : Machine) : exec get m = (.ok m, m) := rfl

theorem exec_set (m m' : Machine) : exec (set m') m = (.ok (), m') := rfl

/-- An evaluation goes on where its first part has come to a value. -/
theorem exec_bind (e : Eval α) (k : α → Eval β) (m : Machine) :
    exec (e >>= k) m =
      match e.exec m with
      | (.ok v, m) => (k v).exec m
      | (.error f, m) => (.error f, m) := by
  unfold exec
  rw [ExceptT.run_bind]
  simp only [bind, StateT.bind]
  rcases ExceptT.run e m with ⟨outcome, m⟩
  cases outcome <;> rfl

end Runs

end Eval

end WorkflowEngine
