import WorkflowEngine.Action.Builtin
import WorkflowEngine.Number.Basic
import WorkflowEngine.Problem.Named
import WorkflowEngine.Text.Trim

/-!
# Registry of actions

The registry keeps handlers under trimmed names.  A name is taken once and freed by unregistering.
A handler is kept before its description is put in order, and stays when that fails.
Dispatching an action finds its handler, gives it the input and the parameters, and waits for it no
longer than allowed.
-/

namespace WorkflowEngine

/-- What is asked of a registry. -/
inductive RegistryOperation where
  | register
  | get
  | unregister
deriving Repr, DecidableEq, Inhabited

/-- The word for what is asked of a registry. -/
def RegistryOperation.name : RegistryOperation → String
  | .register => "register"
  | .get => "get"
  | .unregister => "unregister"

/-- Why a registry refuses. -/
inductive RegistryError where
  | emptyName (operation : RegistryOperation)
  | notCallable (name : String)
  | noSignature (name reason : String)
  | taken (name : String)
  | unknown (name : String)
deriving Repr, DecidableEq, Inhabited

namespace RegistryError

/-- The message of a refusal. -/
def message : RegistryError → String
  | .emptyName _ => "Action type cannot be empty"
  | .notCallable name => "Action '" ++ name ++ "' must be a callable function"
  | .noSignature name reason => "Cannot inspect function signature for action '" ++ name ++ "': " ++ reason
  | .taken name => "Action '" ++ name ++ "' is already registered"
  | .unknown name => "Action '" ++ name ++ "' is not registered"

/-- What a refusal is about. -/
def context : RegistryError → List (String × String)
  | .emptyName operation => [("operation", operation.name)]
  | .notCallable name => [("action_type", name), ("operation", "register")]
  | .noSignature name _ => [("action_type", name), ("operation", "register")]
  | .taken name => [("action_type", name), ("operation", "register")]
  | .unknown name => [("action_type", name), ("operation", "get")]

end RegistryError

/-- Why a handler is not registered as it should be: the registry refuses it, or a fault ends registering. -/
inductive RegisterFailure where
  | refused (e : RegistryError)
  | fault (f : Fault)
deriving Repr, Inhabited

/-- What is said about a handler. -/
inductive Description where
  /-- The description in order. -/
  | said (d : Data)
  /-- The description could not be put in order, so that none is kept with the handler. -/
  | lacking
deriving Repr, Inhabited

instance : Coe String Description where
  coe s := .said (.str s)

namespace Description

/-- What is kept of a description, if any is. -/
def said? : Description → Option Data
  | .said d => some d
  | .lacking => none

/-- The byte is a blank. -/
def isBlankByte (b : UInt8) : Bool :=
  b == 32 || (9 ≤ b && b ≤ 13)

/-- Bytes without the blanks at both ends. -/
def trimBytes (bs : List UInt8) : List UInt8 :=
  ((bs.dropWhile isBlankByte).reverse.dropWhile isBlankByte).reverse

/-- A value without the blanks at both ends, which only a text and bytes can lose. -/
def trimmed : Data → Except Fault Data
  | .str s => .ok (.str (Text.trim s))
  | .bytes bs => .ok (.bytes (trimBytes bs))
  | .type k =>
    if k == .str || k == .bytes then .error (.typed ("unbound method " ++ k.name ++ ".strip() needs an argument"))
    else .error (.other .attribute ("type object '" ++ k.name ++ "' has no attribute 'strip'"))
  | d => .error (.other .attribute ("'" ++ d.kindOf.name ++ "' object has no attribute 'strip'"))

/-- Puts a description in order; one that counts as nothing is empty. -/
def ofData (d : Data) : Except Fault Data :=
  if d.isPresent then trimmed d else .ok (.str "")

end Description

/-- A handler and what it is said to do. -/
structure Registration where
  handler : Handler
  description : Description

/-- Handlers under trimmed names, in the order in which they were registered. -/
structure Registry where
  entries : List (String × Registration)

namespace Registry

/-- Who writes the lines of the registry. -/
def source : String := "nodeflow.core.action_registry"

/-- The registry without handlers. -/
def empty : Registry := ⟨[]⟩

/-- What stands under a name that is trimmed. -/
def find? (r : Registry) (name : String) : Option Registration :=
  r.entries.lookup name

/-- There is a handler under a name. -/
def contains (r : Registry) (name : String) : Bool :=
  !Text.isBlankText name && (r.find? (Text.trim name)).isSome

/-- The handler under a name. -/
def get (r : Registry) (name : String) : Except RegistryError Handler :=
  if Text.isBlankText name then .error (.emptyName .get)
  else
    match r.find? (Text.trim name) with
    | some registration => .ok registration.handler
    | none => .error (.unknown name)

/-- The names with the descriptions that are kept. -/
def list (r : Registry) : List (String × Data) :=
  r.entries.filterMap fun entry => entry.2.description.said?.map fun d => (entry.1, d)

/-- The line about a handler that cannot be given any input. -/
def emptySignatureLine (name : String) : Line :=
  ⟨.warning, source, "Action '" ++ name ++ "' has no parameters - it won't be able to access the node input"⟩

/-- The line about a new handler. -/
def registeredLine (name : String) : Line :=
  ⟨.info, source, "Registered action '" ++ name ++ "'"⟩

/-- Registers a handler whose parameters are known under a trimmed name. -/
def insert (r : Registry) (name : String) (handler : Handler) (description : Data) :
    Except RegisterFailure Unit × Registry :=
  if (r.find? name).isSome then (.error (.refused (.taken name)), r)
  else
    let keeping (kept : Description) : Registry := ⟨r.entries ++ [(name, ⟨handler, kept⟩)]⟩
    match Description.ofData description with
    | .ok d => (.ok (), keeping (.said d))
    | .error f => (.error (.fault f), keeping .lacking)

/-- Registers a handler under a name: the lines that are written about it, the outcome, and what the registry keeps. -/
def register (r : Registry) (name : String) (handler : Handler) (description : Data) :
    List Line × Except RegisterFailure Unit × Registry :=
  if Text.isBlankText name then ([], .error (.refused (.emptyName .register)), r)
  else
    let trimmed := Text.trim name
    if !handler.isCallable then ([], .error (.refused (.notCallable trimmed)), r)
    else
      match handler.signature with
      | .error reason => ([], .error (.refused (.noSignature trimmed reason)), r)
      | .ok count =>
        let warning := if count == 0 then [emptySignatureLine trimmed] else []
        match r.insert trimmed handler description with
        | (.error e, next) => (warning, .error e, next)
        | (.ok (), next) =>
          -- The line about the handler says where it comes from.
          match handler.originFault? with
          | some f => (warning, .error (.fault f), next)
          | none => (warning ++ [registeredLine trimmed], .ok (), next)

/-- Frees a name; the outcome says whether there was a handler under it. -/
def unregister (r : Registry) (name : String) : Except RegistryError (Bool × Registry) :=
  if Text.isBlankText name then .error (.emptyName .unregister)
  else
    let trimmed := Text.trim name
    .ok ((r.find? trimmed).isSome, ⟨r.entries.filter fun entry => entry.1 != trimmed⟩)

/-- The line about a name that was freed. -/
def unregisteredLine (name : String) : Line :=
  ⟨.info, source, "Unregistered action '" ++ name ++ "'"⟩

/-- Registers handlers, passing over names that are taken, until one of them fails. -/
def registerMissing (lines : List Line) (r : Registry) :
    List (Handler × String) → List Line × Except RegisterFailure Unit × Registry
  | [] => (lines, .ok (), r)
  | (handler, description) :: rest =>
    if r.contains handler.name then
      registerMissing (lines ++ [⟨.info, Builtin.source, "Action already exists: " ++ handler.name⟩]) r rest
    else
      match r.register handler.name handler (.str description) with
      | (written, .ok (), next) => registerMissing (lines ++ written) next rest
      | (written, .error e, next) => (lines ++ written, .error e, next)

/-- Registers the built-in handlers, none of which fails. -/
def registerBuiltin (r : Registry) : List Line × Registry :=
  let (lines, _, next) := registerMissing [] r Builtin.all
  (lines ++ [⟨.info, Builtin.source, "Built-in actions registration completed"⟩], next)

end Registry

/-- Why an action could not be dispatched: in words, and about which action. -/
structure DispatchError where
  message : Data
  actionType : Option String
deriving Repr, Inhabited

/-- What is known about where a dispatch was refused. -/
def DispatchError.context (e : DispatchError) : List (String × String) :=
  match e.actionType with
  | some name => [("action_type", name)]
  | none => []

/-- How a dispatch ends other than with a value. -/
inductive DispatchFailure where
  | refused (e : DispatchError)
  | fault (f : Fault)
deriving Repr, Inhabited

namespace Registry

/-- A dispatch of an action was refused in words. -/
def refuse (name message : String) : DispatchFailure :=
  .refused ⟨.str message, if name == "" then none else some name⟩

/-- There is no time to wait at all. -/
def isOver : Option Number → Bool
  | some (.int i) => i ≤ 0
  | some (.float x) => x ≤ 0.0
  | _ => false

/-- How an interruption of a handler looks from outside. -/
def failureOf (name : String) (wait : Option Number) : Interruption → DispatchFailure
  | .fault f => refuse name ("Action '" ++ name ++ "' failed: " ++ f.message)
  | .refusal message => .refused ⟨message, none⟩
  | .timeout => refuse name ("Action '" ++ name ++ "' timed out after " ++ Number.textOrNone wait ++ " seconds")
  | .endless => refuse name ("Action '" ++ name ++ "' timed out after " ++ Number.textOrNone wait ++ " seconds")

/-- The entries of parameters, which may be missing. -/
def parameterEntries (parameters : Value) : Eval (List (Value × Value)) := do
  if ← Eval.isTrue parameters then Conversion.extend [] parameters else pure []

/-- The parameters under their names; every key has to be a text. -/
def namedOf (done : Named) : List (Value × Value) → Except Fault Named
  | [] => .ok done.reverse
  | (.str name, value) :: rest => namedOf ((name, value) :: done) rest
  | _ => .error (.typed "keywords must be strings")

/-- Gives a handler its arguments and waits for it. -/
def attend (handler : Handler) (input : Value) (entries : List (Value × Value)) (wait : Option Number) :
    Work Value :=
  match namedOf [] entries with
  | .error f => Work.fail f
  | .ok named =>
    if isOver wait then
      match if handler.takesAtOnce then handler.complaint? named else none with
      | some f => Work.fail f
      | none => throw .timeout
    else handler.call input named

/-- Dispatches an action at a desk. -/
def dispatch (r : Registry) (name : String) (input parameters : Value) (wait : Option Number) (d : Desk) :
    Except DispatchFailure Value × Desk :=
  match r.get name with
  | .error e => (.error (refuse name e.message), d)
  | .ok handler =>
    match (Work.onHeap (parameterEntries parameters)).run d with
    | (.error (.fault f), d) => (.error (.fault f), d)
    | (.error interruption, d) => (.error (failureOf name wait interruption), d)
    | (.ok entries, d) =>
      match (attend handler input entries wait).run d with
      | (.ok value, d) => (.ok value, d)
      | (.error interruption, d) => (.error (failureOf name wait interruption), d)

end Registry

end WorkflowEngine
