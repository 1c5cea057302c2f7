import WorkflowEngine.Data.Basic
import WorkflowEngine.Time.Clock

/-!
# Problems

A problem is what the application tells its callers when something goes wrong: of which class it is,
how bad, in which part of the work, with what details and in which context.
-/

namespace WorkflowEngine

/-- How bad a problem is. -/
inductive Severity where
  | low
  | medium
  | high
  | critical
deriving Repr, DecidableEq, Inhabited

namespace Severity

/-- All degrees of severity. -/
def all : List Severity := [.low, .medium, .high, .critical]

/-- The word for a degree of severity. -/
def name : Severity → String
  | .low => "low"
  | .medium => "medium"
  | .high => "high"
  | .critical => "critical"

end Severity

/-- In which part of the work a problem arises. -/
inductive Category where
  | validation
  | execution
  | expression
  | network
  | configuration
  | businessLogic
deriving Repr, DecidableEq, Inhabited

namespace Category

/-- All parts of the work. -/
def all : List Category := [.validation, .execution, .expression, .network, .configuration, .businessLogic]

/-- The word for a part of the work. -/
def name : Category → String
  | .validation => "validation"
  | .execution => "execution"
  | .expression => "expression"
  | .network => "network"
  | .configuration => "configuration"
  | .businessLogic => "business_logic"

end Category

/-- The classes of problems. -/
inductive ProblemClass where
  | general
  | validation
  | node
  | expression
  | dispatch
  | request
  | run
  | registry
  | configuration
deriving Repr, DecidableEq, Inhabited

namespace ProblemClass

/-- All classes of problems. -/
def all : List ProblemClass :=
  [.general, .validation, .node, .expression, .dispatch, .request, .run, .registry, .configuration]

/-- The word for a class of problems. -/
def name : ProblemClass → String
  | .general => "WorkflowEngineError"
  | .validation => "WorkflowValidationError"
  | .node => "NodeExecutionError"
  | .expression => "ExpressionError"
  | .dispatch => "ActionDispatchError"
  | .request => "HttpRequestError"
  | .run => "WorkflowExecutionError"
  | .registry => "ActionRegistryError"
  | .configuration => "ConfigurationError"

/-- The class that a word names. -/
def ofName? (word : String) : Option ProblemClass :=
  all.find? fun c => c.name == word

/-- The problems of the class are failures of nodes of a special kind. -/
def isNodeKind : ProblemClass → Bool
  | .expression => true
  | .dispatch => true
  | .request => true
  | _ => false

/-- The class and the wider ones, up to the class of all problems. -/
def ancestors (c : ProblemClass) : List ProblemClass :=
  if c == .general then [.general]
  else if c.isNodeKind then [c, .node, .general]
  else [c, .general]

/-- How bad problems of the class are where nothing else is said. -/
def severity : ProblemClass → Severity
  | .general => .medium
  | .validation => .critical
  | .registry => .medium
  | _ => .high

/-- In which part of the work problems of the class arise where nothing else is said. -/
def category : ProblemClass → Category
  | .validation => .validation
  | .expression => .expression
  | .dispatch => .businessLogic
  | .request => .network
  | .registry => .configuration
  | .configuration => .configuration
  | _ => .execution

/-- The status of the answer to a request in which the problem arises. -/
def status : ProblemClass → Int
  | .validation => 400
  | .registry => 409
  | _ => 500

end ProblemClass

/-- A problem. -/
structure Problem where
  cls : ProblemClass
  message : Data
  code : Data
  severity : Severity
  category : Category
  details : List (Data × Data)
  recoverable : Data
  context : List (Data × Data)
  time : Instant
deriving Repr, Inhabited

namespace Problem

/-- The node at which the problem arose, if the context names one. -/
def nodeId (p : Problem) : Data :=
  (Data.field? p.context "node_id").getD .null

/-- Adds entries to entries; later ones take the place of earlier ones. -/
def extend (entries : List (Data × Data)) (more : List (String × Data)) : List (Data × Data) :=
  more.foldl (fun done e => Data.setField e.1 e.2 done) entries

/-- Adds to the context. -/
def addContext (p : Problem) (more : List (String × Data)) : Problem :=
  { p with context := extend p.context more }

/-- Adds details. -/
def addDetails (p : Problem) (more : List (String × Data)) : Problem :=
  { p with details := extend p.details more }

/-- The problem as data. -/
def toData (p : Problem) : Data :=
  Data.ofFields
    [("error_code", p.code), ("message", p.message), ("severity", .str p.severity.name),
     ("category", .str p.category.name), ("details", .dict p.details), ("recoverable", p.recoverable),
     ("context", .dict p.context), ("timestamp", .str p.time.text), ("exception_type", .str p.cls.name)]

/-- What the caller is told; the degree, the part, and the time are shown over any details of those names. -/
def response (p : Problem) : Data :=
  Data.ofFields
    [("error", p.code), ("message", p.message),
     ("details", .dict (extend p.details
      [("severity", .str p.severity.name), ("category", .str p.category.name), ("recoverable", p.recoverable),
       ("timestamp", .str p.time.text)])),
     ("context", .dict p.context)]

end Problem

end WorkflowEngine
