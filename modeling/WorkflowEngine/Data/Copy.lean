import WorkflowEngine.Fault

/-!
# Data that can be copied

All data can be copied but locks, ranges of indexes, and the parts that a type gives for its values.
-/

namespace WorkflowEngine.Data

mutual

/-- What keeps data from being copied, if anything does. -/
def copyFault? : Data → Option Fault
  | .lock => some (.notCopyable Kind.lock.name)
  | .slice _ _ _ => some (.notCopyable Kind.slice.name)
  | .descriptor _ name => if descriptorKind name == .field then some (.notCopyable Kind.field.name) else none
  | .list items => copyFaultIn? items
  | .tuple items => copyFaultIn? items
  | .set items => copyFaultIn? items
  | .dict entries => copyFaultAmong? entries
  | _ => none

/-- What keeps some of the items from being copied. -/
def copyFaultIn? : List Data → Option Fault
  | [] => none
  | d :: rest =>
    match copyFault? d with
    | some f => some f
    | none => copyFaultIn? rest

/-- What keeps some of the entries from being copied. -/
def copyFaultAmong? : List (Data × Data) → Option Fault
  | [] => none
  | (key, value) :: rest =>
    match copyFault? key with
    | some f => some f
    | none =>
      match copyFault? value with
      | some f => some f
      | none => copyFaultAmong? rest

end

/-- The data itself, where it can be copied. -/
def copy (d : Data) : Except Fault Data :=
  match d.copyFault? with
  | some f => .error f
  | none => .ok d

end WorkflowEngine.Data
