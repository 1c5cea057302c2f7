import WorkflowEngine.Call.Aggregate
import WorkflowEngine.Call.Method
import WorkflowEngine.Json.Writer

/-!
# Calls

A value is called with arguments if it is a routine, a type or a method.  A key is a value that is
called with one argument; what it calls has no key of its own.
-/

namespace WorkflowEngine

namespace Routine

open Eval

/-- The plain text of a value. -/
def plain (v : Value) : Eval String := do
  lift (← view v).plain

/-- Calls a routine. -/
def call (apply : Aggregate.Apply) (r : Routine) (a : Arguments) : Eval Value :=
  match r with
  | .length => do return .int (← Eval.length (← a.single "len"))
  | .absolute => do Value.absolute (← a.single "abs")
  | .minimum => Aggregate.best apply "min" .less a
  | .maximum => Aggregate.best apply "max" .greater a
  | .rounding => Aggregate.round a
  | .total => Aggregate.sum a
  | .sorting => Aggregate.sorted apply a
  | .lowering => do return .str (Text.lower (← plain (← a.bindOne "_lower" "value")))
  | .raising => do return .str (Text.upper (← plain (← a.bindOne "_upper" "value")))
  | .trimming => do return .str (Text.trim (← plain (← a.bindOne "_strip" "value")))
  | .doubling => do Value.multiply (← a.bindOne "<lambda>" "x") (.int 2)

end Routine

namespace Value

open Eval

/-- Calls a value, given how keys are applied. -/
def callWith (apply : Aggregate.Apply) (callee : Value) (a : Arguments) : Eval Value :=
  match callee with
  | .routine r => r.call apply a
  | .type k => Conversion.make k a
  | .method owner name =>
    match a.positional with
    | [v] => Method.callBound owner name v
    | _ => fail (.typed (name ++ "() takes exactly one argument"))
  | .descriptor kind name =>
    if partNames.contains name then fail (.typed "'getset_descriptor' object is not callable")
    else
      match a.positional with
      | [v] => Method.callUnbound kind name v
      | _ => fail (.typed (name ++ "() takes exactly one argument"))
  | other => fail (.typed ("'" ++ other.kindOf.name ++ "' object is not callable"))

/-- Nothing is asked of the items. -/
def applyNothing (_ item : Value) : Eval Value :=
  pure item

/-- Applies a key to an item. -/
def applyKey (key item : Value) : Eval Value :=
  callWith applyNothing key (.one item)

end Value

end WorkflowEngine
