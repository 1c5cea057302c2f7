import WorkflowEngine.Call.Conversion
import WorkflowEngine.Data.Sorting
import WorkflowEngine.Value.Operator

/-!
# Aggregates

The least and the greatest item, the sum of the items and the items in order.  A key, where one is
given, is asked of every item, and the keys are compared in place of the items.
-/

namespace WorkflowEngine.Aggregate

open Eval

/-- What is asked of an item: a callable value, applied to it. -/
abbrev Apply : Type := Value → Value → Eval Value

/-- The key of an item; without a key the item itself. -/
def keyOf (apply : Apply) (key : Option Value) (item : Value) : Eval Value :=
  match key with
  | none => pure item
  | some .null => pure item
  | some f => apply f item

/-- The best item behind the cursor, given the best one so far with its key; the fuel bounds the items. -/
def bestFrom (apply : Apply) (key : Option Value) (c : Comparison) :
    Nat → Option (Value × Value) → Cursor → Eval (Option (Value × Value))
  | 0, best, _ => pure best
  | fuel + 1, best, cursor => do
    match ← cursor.next with
    | none => return best
    | some (item, cursor) =>
      let k ← keyOf apply key item
      match best with
      | none => bestFrom apply key c fuel (some (item, k)) cursor
      | some (other, k') =>
        if ← Value.compare c k k' then bestFrom apply key c fuel (some (item, k)) cursor
        else bestFrom apply key c fuel (some (other, k')) cursor

/-- How many items a walk may have at most. -/
def walkLimit : Nat := 10000000

/-- The items of a walk that changes nothing stand fixed; other walks look at the value as they go. -/
def cursorFor (key : Option Value) (v : Value) : Eval Cursor := do
  match key with
  | some (.method _ _) => Cursor.start v
  | some (.descriptor _ _) => Cursor.start v
  | _ => return .fixed (← iterate v)

/-- The best of the arguments, or of the items of the only one. -/
def best (apply : Apply) (routine : String) (c : Comparison) (a : Arguments) : Eval Value := do
  let several := 1 < a.positional.length
  if a.positional.isEmpty then
    fail (.typed (routine ++ " expected at least 1 argument, got 0"))
  else
    match ← (Arguments.mk [] a.named).bind routine 0 ["key", "default"] with
    | [key, fallback] =>
      if several && fallback.isSome then
        fail (.typed ("Cannot specify a default for " ++ routine ++
          "() with multiple positional arguments"))
      else
        let cursor ←
          match a.positional with
          | [v] => cursorFor key v
          | values => pure (.fixed values)
        match ← bestFrom apply key c walkLimit none cursor with
        | some (item, _) => return item
        | none =>
          match fallback with
          | some v => return v
          | none => fail (.valued (routine ++ "() arg is an empty sequence"))
    | _ => return .null

/-- Adds items, one after the other. -/
def sumFrom (total : Value) : List Value → Eval Value
  | [] => pure total
  | item :: rest => do sumFrom (← Value.add total item) rest

/-- The sum of the items of a value. -/
def sum (a : Arguments) : Eval Value := do
  if a.positional.isEmpty then
    fail (.typed "sum() takes at least 1 positional argument (0 given)")
  else
    match ← a.bind "sum" 1 ["iterable", "start"] with
    | [some v, start] =>
      let values ← iterate v
      match start with
      | none => sumFrom (.int 0) values
      | some (.str _) => fail (.typed "sum() can't sum strings [use ''.join(seq) instead]")
      | some (.bytes _) => fail (.typed "sum() can't sum bytes [use b''.join(seq) instead]")
      | some s => sumFrom s values
    | _ => return .null

/-- The keys of items, in their order. -/
def keysOf (apply : Apply) (key : Option Value) (done : List (Data × Value)) :
    List Value → Eval (List (Data × Value))
  | [] => pure done.reverse
  | item :: rest => do
    let k ← keyOf apply key item
    keysOf apply key ((← view k, item) :: done) rest

/-- The items of a value in order, where equal ones keep their order. -/
def sorted (apply : Apply) (a : Arguments) : Eval Value := do
  match a.positional with
  | [v] =>
    let values ← iterate v
    match ← (Arguments.mk [] a.named).bind "sort" 0 ["key", "reverse"] with
    | [key, reverse] =>
      let falling : Bool ←
        match reverse with
        | none => pure false
        | some r => do pure ((← Conversion.indexOf r) != 0)
      let pairs ← keysOf apply key [] values
      let less (x y : Data × Value) := Data.compareBy .less x.1 y.1
      if falling then
        newList ((← lift (Sorting.sort less pairs.reverse)).reverse.map Prod.snd)
      else newList ((← lift (Sorting.sort less pairs)).map Prod.snd)
    | _ => newList values
  | values =>
    fail (.typed ("sorted expected 1 argument, got " ++ toString values.length))

/-- A number rounded to a number of places, or to an integer without them. -/
def round (a : Arguments) : Eval Value := do
  match ← a.bind "round" 0 ["number", "ndigits"] with
  | [some v, places] =>
    let places := places.filter (· != .null)
    match v with
    | .float x =>
      match places with
      | none => return .int (← lift (Number.roundToInt x))
      | some p => Eval.float (← lift (Number.roundFloat x (← Conversion.indexOf p)))
    | .nan m =>
      match places with
      | none => return .int (← lift (Number.roundToInt Decimal.missingNumber))
      | some p => do
        let _ ← Conversion.indexOf p
        return .nan m
    | v =>
      match v.int? with
      | some i =>
        match places with
        | none => return .int i
        | some p => return .int (Number.roundInt i (← Conversion.indexOf p))
      | none =>
        fail (.typed ("type " ++ v.kindOf.name ++ " doesn't define __round__ method"))
  | _ => fail (.typed "round() missing required argument 'number' (pos 1)")

end WorkflowEngine.Aggregate
