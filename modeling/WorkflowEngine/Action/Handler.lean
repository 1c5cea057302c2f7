import WorkflowEngine.Journal.Entry
import WorkflowEngine.Value.Container

/-!
# Handlers of actions

A handler is given the input of a node and named parameters.  It works on the heap, so it may change
what it is given, writes lines into the journal, and ends with a value or in some other way.
-/

namespace WorkflowEngine

/-- How a handler ends other than with a value. -/
inductive Interruption where
  /-- An operation on values failed. -/
  | fault (f : Fault)
  /-- The handler refuses the input in its own words. -/
  | refusal (message : Data)
  /-- The handler gives up waiting. -/
  | timeout
  /-- The handler never ends. -/
  | endless
deriving Repr, Inhabited

/-- What handlers work with: the heap, and the journal with its latest line first. -/
structure Desk where
  heap : Heap
  journal : List Line
deriving Repr, Inhabited

/-- Work that may be interrupted; what is done until then stays done. -/
abbrev Work (α : Type) : Type := ExceptT Interruption (StateM Desk) α

namespace Work

/-- Writes a line into the journal. -/
def note (level : Level) (source message : String) : Work Unit :=
  modify fun d => { d with journal := ⟨level, source, message⟩ :: d.journal }

/-- Ends in a fault. -/
def fail {α : Type} (f : Fault) : Work α :=
  throw (.fault f)

/-- Works on the heap alone. -/
def onHeap {α : Type} (e : Eval α) : Work α := do
  let d ← get
  let (outcome, h) := Eval.run e d.heap
  set { d with heap := h }
  match outcome with
  | .ok a => return a
  | .error f => fail f

/-- Runs work at a desk. -/
def run {α : Type} (w : Work α) (d : Desk) : Except Interruption α × Desk :=
  ExceptT.run w d

end Work

/-- Values under names. -/
abbrev Named := List (String × Value)

/-- What runs an action. -/
structure Handler where
  /-- The name by which the handler is told from others. -/
  name : String
  /-- The handler can be called at all. -/
  isCallable : Bool
  /-- How many parameters the handler takes, or why that cannot be told. -/
  signature : Except String Nat
  /-- Why it cannot be told where the handler comes from, if it cannot. -/
  originFault? : Option Fault
  /-- The handler takes its arguments before time starts to run. -/
  takesAtOnce : Bool
  /-- What is wrong with the named parameters, if anything is. -/
  complaint? : Named → Option Fault
  /-- Does the work. -/
  work : Value → Named → Work Value

namespace Handler

/-- What is wrong with named parameters, when the input comes first and stands under a name itself. -/
def complaintOf? (routine : String) (parameters : List String) (isOpen : Bool) (named : Named) : Option Fault :=
  named.findSome? fun entry =>
    if parameters.head? == some entry.1 then
      some (.typed (routine ++ "() got multiple values for argument '" ++ entry.1 ++ "'"))
    else if parameters.contains entry.1 || isOpen then none
    else some (.typed (routine ++ "() got an unexpected keyword argument '" ++ entry.1 ++ "'"))

/-- A handler that takes the input, some named parameters, and others if it is open. -/
def ofBody (name routine : String) (parameters : List String) (isOpen : Bool)
    (work : Value → Named → Work Value) : Handler where
  name := name
  isCallable := true
  signature := .ok (parameters.length + (if isOpen then 1 else 0))
  originFault? := none
  takesAtOnce := false
  complaint? := complaintOf? routine parameters isOpen
  work := work

/-- The named parameters that are not among the given ones. -/
def others (parameters : List String) (named : Named) : Named :=
  named.filter fun entry => !parameters.contains entry.1

/-- Calls a handler with arguments that fit. -/
def call (handler : Handler) (input : Value) (named : Named) : Work Value :=
  match handler.complaint? named with
  | some f => Work.fail f
  | none => handler.work input named

end Handler

end WorkflowEngine
