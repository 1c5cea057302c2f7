import WorkflowEngine.Action.Registry

/-!
# Sample actions

Small handlers for trying workflows out: some give back what they are given, one changes its input in
place, and others fail in the ways in which handlers can fail.
-/

namespace WorkflowEngine.Sample

open Work

/-- The routine that a sample handler stands for. -/
def routineOf (name : String) : String := "h_" ++ name

/-- A sample handler that takes the input, some named parameters, and others if it is open. -/
def sample (name : String) (parameters : List String) (isOpen : Bool) (work : Value → Named → Work Value) : Handler :=
  .ofBody name (routineOf name) parameters isOpen work

/-- A record of the input under a name and of the named parameters. -/
def receipt (name : String) (input : Value) (named : Named) : Work Value :=
  onHeap do
    let parameters ← Eval.newDict (named.map fun entry => (.str entry.1, entry.2))
    Eval.newDict [(.str name, input), (.str "parameters", parameters)]

/-- Gives back what it is given. -/
def echo : Handler := sample "echo" ["node_input"] true (receipt "received")

/-- Gives back what it is given, taking its arguments at once. -/
def asyncEcho : Handler :=
  { sample "async_echo" ["node_input"] true (receipt "async") with takesAtOnce := true }

/-- Gives back what it is given after a while. -/
def returnsAwaitable : Handler := sample "returns_awaitable" ["node_input"] true (receipt "async")

/-- Gives back what it is given and one parameter more. -/
def partialEcho : Handler :=
  { sample "partial_echo" ["node_input"] true (fun input named =>
      let fixed := (named.lookup "fixed").getD (.int 1)
      receipt "received" input (("fixed", fixed) :: Handler.others ["fixed"] named)) with
    complaint? := Handler.complaintOf? (routineOf "echo") ["node_input"] true }

/-- Fails with a message. -/
def failing : Handler :=
  sample "fail" ["node_input", "message"] true fun _ named => do
    let message ← onHeap (Eval.text ((named.lookup "message").getD (.str "kaboom")))
    fail (.other .runtime message)

/-- Misses a key. -/
def keyError : Handler :=
  sample "key_error" ["node_input", "key"] false fun _ named => do
    let key ← onHeap (Eval.view ((named.lookup "key").getD (.str "missing")))
    fail (.missingKey key)

/-- Sets an entry of a value in place. -/
def setItem (container : Value) (name : String) (value : Value) : Eval Unit := do
  match container with
  | .dict a =>
    Eval.write a (.dict ((← Eval.heap).setEntry (← Eval.entries a) (.str name) value))
  | .list _ => Eval.fail (.typed "list indices must be integers or slices, not str")
  | v => Eval.fail (.typed ("'" ++ v.kindOf.name ++ "' object does not support item assignment"))

/-- Changes its input in place. -/
def mutating : Handler :=
  sample "mutate" ["node_input"] true fun input _ => do
    onHeap (setItem input "mutated" (.bool true))
    return input

/-- Refuses the dispatch in its own words. -/
def dispatchError : Handler :=
  sample "dispatch_error" ["node_input", "message"] false fun _ named => do
    throw (.refusal (← onHeap (Eval.view ((named.lookup "message").getD (.str "custom")))))

/-- Gives up waiting. -/
def timeoutError : Handler :=
  sample "timeout_error" ["node_input"] false fun _ _ => throw .timeout

/-- Takes no input at all. -/
def noParameters : Handler :=
  { sample "no_parameters" [] false (fun _ _ =>
      fail (.typed (routineOf "no_parameters" ++ "() takes 0 positional arguments but 1 was given"))) with
    signature := .ok 0 }

/-- Never ends. -/
def hang : Handler :=
  { sample "hang" ["node_input"] true (fun _ _ => throw .endless) with takesAtOnce := true }

/-- Multiplies its input. -/
def asyncCallable : Handler :=
  { sample "async_callable" ["node_input", "factor"] false (fun input named =>
      onHeap (Value.multiply input ((named.lookup "factor").getD (.int 2)))) with
    complaint? := Handler.complaintOf? "AsyncCallable.__call__" ["node_input", "factor"] false }

/-- Gives the length of its input. -/
def length : Handler :=
  { sample "len" ["obj"] false (fun input _ => onHeap do return .int (← Eval.length input)) with
    complaint? := fun named =>
      if named.isEmpty then none else some (.typed "len() takes no keyword arguments") }

/-- A type, whose parameters cannot be told. -/
def intType : Handler :=
  { sample "int_type" ["x"] false (fun input _ => pure input) with
    signature := .error "no signature found for builtin type <class 'int'>" }

/-- A value that cannot be called. -/
def uncallable (name : String) : Handler :=
  { sample name [] false (fun input _ => pure input) with isCallable := false }

/-- The sample handlers. -/
def all : List Handler :=
  [echo, asyncEcho, failing, keyError, mutating, dispatchError, timeoutError, noParameters, hang,
   returnsAwaitable, asyncCallable, partialEcho, length, intType, uncallable "not_callable", uncallable "none"]

/-- The handler with a name, among the samples and the built-in ones. -/
def find? (name : String) : Option Handler :=
  (all ++ Builtin.all.map Prod.fst).find? fun h => h.name == name

/-- A registry with handlers by their names; one name stands for all built-in ones. -/
def registryOf (names : List String) : Registry :=
  names.foldl (fun r name =>
    if name == "builtin" then r.registerBuiltin.2
    else
      match find? name with
      | some handler => (r.register name handler (.str ("stub " ++ name))).2.2
      | none => r) .empty

end WorkflowEngine.Sample
