import WorkflowEngine.Value.Container

/-!
# Parts of values

A part is selected by an index, which counts from the end when it is negative, by a range with a step,
or by a key.
-/

namespace WorkflowEngine.Value

open Eval

/-- An index into a sequence of a given length. -/
def position? (length : Nat) (i : Int) : Option Nat :=
  let place := if i < 0 then i + Int.ofNat length else i
  if 0 ≤ place && place < Int.ofNat length then some place.toNat else none

/-- The largest index. -/
def indexLimit : Int := Int.ofNat (Nat.pow 2 63)

/-- The item at an index; the words name the sequence where there is none. -/
def itemAt {α : Type} (items : List α) (i : Int) (words : Fault) : Eval α :=
  if i < -indexLimit || indexLimit ≤ i then
    fail (.other .index "cannot fit 'int' into an index-sized integer")
  else
    match position? items.length i with
    | none => fail words
    | some place =>
      match items[place]? with
      | some item => pure item
      | none => fail words

/-- A bound of a range. -/
def bound? : Value → Eval (Option Int)
  | .null => pure none
  | .int i => pure (some i)
  | .bool b => pure (some (if b then 1 else 0))
  | _ => fail (.typed "slice indices must be integers or None or have an __index__ method")

/-- A bound moved into a sequence of a given length; one that is left out stands at an end. -/
def clip (length : Nat) (falling : Bool) (atStart : Bool) (i? : Option Int) : Int :=
  let least := if falling then -1 else 0
  let most := if falling then Int.ofNat length - 1 else Int.ofNat length
  match i? with
  | none => if falling == atStart then most else least
  | some i =>
    let place := if i < 0 then i + Int.ofNat length else i
    max least (min most place)

/-- The indexes of a range, in the order of selection. -/
def rangeIndexes (length : Nat) (lower upper : Option Int) (step : Int) : List Nat :=
  let falling := step < 0
  let start := clip length falling true lower
  let stop := clip length falling false upper
  let span := if falling then start - stop else stop - start
  let size := Int.ofNat step.natAbs
  let count := if span ≤ 0 then 0 else ((span + size - 1) / size).toNat
  (List.range count).map fun n => (start + step * Int.ofNat n).toNat

/-- The items of a range. -/
def rangeItems {α : Type} (items : List α) (lower upper : Option Int) (step : Int) : List α :=
  if step == 1 then
    let start := (clip items.length false true lower).toNat
    let stop := (clip items.length false false upper).toNat
    (items.take stop).drop start
  else
    let array := items.toArray
    (rangeIndexes items.length lower upper step).filterMap fun i => array[i]?

/-- Selects the items of a range. -/
def selectRange {α : Type} (items : List α) (lower upper step : Value) : Eval (List α) := do
  let stride ← bound? step
  if stride == some 0 then fail (.valued "slice step cannot be zero")
  let first ← bound? lower
  let last ← bound? upper
  return rangeItems items first last (stride.getD 1)

/-- A part of a sequence: an item by its index, or a range. -/
def selectFrom {α : Type} (items : List α) (one : α → Eval Value) (many : List α → Eval Value)
    (absent wrong : Fault) (index : Value) : Eval Value :=
  match index with
  | .slice lower upper step => do many (← selectRange items lower upper step)
  | .int i => do one (← itemAt items i absent)
  | .bool b => do one (← itemAt items (if b then 1 else 0) absent)
  | _ => fail wrong

/-- The index is of a kind that does not select from a sequence. -/
def wrongIndex (sequence : String) (index : Value) : Fault :=
  .typed (sequence ++ " indices must be integers or slices, not " ++ index.kindOf.name)

/-- A part of a value. -/
def select (container index : Value) : Eval Value :=
  match container with
  | .str s =>
    selectFrom s.toList (fun c => pure (.str (String.singleton c)))
      (fun chars => pure (.str (String.ofList chars))) (.outOfRange "string")
      (.typed ("string indices must be integers, not '" ++ index.kindOf.name ++ "'")) index
  | .bytes bs =>
    selectFrom bs (fun b => pure (.int b.toNat)) (fun part => pure (.bytes part))
      (.other .index "index out of range") (wrongIndex "byte" index) index
  | .list a => do
    selectFrom (← items a) pure newList (.outOfRange "list") (wrongIndex "list" index) index
  | .tuple a => do
    selectFrom (← items a) pure newTuple (.outOfRange "tuple") (wrongIndex "tuple" index) index
  | .dict a => do
    requireKey index
    let h ← heap
    match h.lookup (h.entries a) index with
    | some v => pure v
    | none => fail (.missingKey (h.view index))
  | .type k => fail (.typed ("type '" ++ k.name ++ "' is not subscriptable"))
  | other => fail (.notSubscriptable other.kindOf)

end WorkflowEngine.Value
