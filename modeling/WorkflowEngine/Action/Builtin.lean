import WorkflowEngine.Action.Handler
import WorkflowEngine.Call.Conversion
import WorkflowEngine.Data.Comparison
import WorkflowEngine.Data.Sorting
import WorkflowEngine.Text.Case
import WorkflowEngine.Value.Operator

/-!
# Built-in actions

Three actions are always there: one writes a message into the journal, one sets fields of a record, and
one does arithmetic on a field.
-/

namespace WorkflowEngine.Builtin

open Work

/-- Who writes the lines of the built-in actions. -/
def source : String := "nodeflow.tools.builtin_actions"

/-- The levels that messages may have. -/
def levels : List (String × Level) :=
  [("debug", .debug), ("info", .info), ("warning", .warning), ("error", .error)]

/-- The word for a level in small letters; a word that is no text stays as it is. -/
def lowerLevel : Value → Work Value
  | .str s => pure (.str (Text.lower s))
  | .bytes bs => pure (.bytes (bs.map fun b => if 65 ≤ b.toNat && b.toNat ≤ 90 then b + 32 else b))
  | v => fail (.other .attribute ("'" ++ v.kindOf.name ++ "' object has no attribute 'lower'"))

/-- Writes a message into the journal. -/
def logMessage (_ : Value) (named : Named) : Work Value := do
  let message := (named.lookup "message").getD (.str "Default message")
  let word ← lowerLevel ((named.lookup "level").getD (.str "info"))
  let word := if word == .str "warn" then .str "warning" else word
  let known? :=
    match word with
    | .str s => (levels.find? fun entry => entry.1 == s)
    | _ => none
  let (name, level) ←
    match known? with
    | some known => pure known
    | none => do
      note .warning source ("Unknown log level: " ++ (← onHeap (Eval.text word)) ++ ", defaulting to info")
      pure ("info", .info)
  note level source (← onHeap (Eval.text message))
  onHeap (Eval.newDict [(.str "message", message), (.str "level", .str name)])

/-- The keys of entries in order, as text. -/
def sortedKeys (entries : List (Value × Value)) : Eval String := do
  let keys ← entries.mapM fun entry => Eval.view entry.1
  let ordered ← Eval.lift (Sorting.sort (Data.compareBy .less) keys)
  Eval.lift (Data.list ordered).source?

/-- The record that fields are set in: the input, or a record that holds it. -/
def baseEntries : Value → Eval (List (Value × Value))
  | .dict a => Eval.entries a
  | v => pure [(.str "value", v)]

/-- Sets fields of a record, which is a fresh one. -/
def setFields (input : Value) (named : Named) : Work Value := do
  let fields := (named.lookup "fields").getD .null
  let base ← onHeap (baseEntries input)
  let entries ← onHeap do
    if ← Eval.isTrue fields then Conversion.extend base fields else pure base
  note .debug source ("set_fields produced keys: " ++ (← onHeap (sortedKeys entries)))
  onHeap (Eval.newDict entries)

/-- The value of a field, which is zero where there is none. -/
def fieldOf (input field : Value) : Eval Value := do
  match input with
  | .dict a =>
    Eval.requireKey field
    return ((← Eval.heap).lookup (← Eval.entries a) field).getD (.int 0)
  | _ => return .int 0

/-- The value is a real number and no truth value. -/
def isNumeric : Value → Bool
  | .int _ => true
  | .float _ => true
  | .nan _ => true
  | _ => false

/-- The operation with a name. -/
def operation? (name : Value) : Option (Value → Value → Eval Value) :=
  match name with
  | .str "add" => some Value.add
  | .str "subtract" => some Value.subtract
  | .str "multiply" => some Value.multiply
  | .str "divide" => some Value.divide
  | _ => none

/-- Does arithmetic on a field. -/
def mathOperation (input : Value) (named : Named) : Work Value := do
  let operation := (named.lookup "operation").getD (.str "add")
  let field := (named.lookup "field").getD (.str "value")
  let operand := (named.lookup "operand").getD (.float 1.0)
  let current ← onHeap (fieldOf input field)
  if !isNumeric current then
    let name ← onHeap (Eval.text field)
    let shown ← onHeap (Eval.source current)
    fail (.valued ("Field '" ++ name ++ "' is not numeric: " ++ shown))
  else
    match operation? operation with
    | none => fail (.valued ("Unknown operation: " ++ (← onHeap (Eval.text operation))))
    | some apply =>
      if operation == .str "divide" && (← onHeap (Eval.equals operand (.int 0))) then
        note .error source "Division by zero attempted"
        fail (.valued "Cannot divide by zero")
      else
        let result ← onHeap (apply current operand)
        let shown ← onHeap do
          return "math_operation " ++ (← Eval.text operation) ++ "(" ++ (← Eval.text current) ++ ", " ++
            (← Eval.text operand) ++ ") = " ++ (← Eval.text result)
        note .debug source shown
        onHeap (Eval.newDict
          [(.str "result", result), (.str "operation", operation), (.str "operand", operand)])

/-- The built-in handlers with their descriptions. -/
def all : List (Handler × String) :=
  [(.ofBody "log_message" "log_message" ["node_input", "message", "level"] true logMessage,
    "Writes a message to the application log"),
   (.ofBody "set_fields" "set_fields" ["node_input", "fields"] true setFields,
    "Merges static fields into the input record"),
   (.ofBody "math_operation" "math_operation" ["node_input", "operation", "field", "operand"] true mathOperation,
    "Performs basic math on a numeric input field")]

end WorkflowEngine.Builtin
