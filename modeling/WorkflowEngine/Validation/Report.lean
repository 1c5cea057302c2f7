import WorkflowEngine.Definition.Record

/-!
# Reports on definitions

A report lists what is wrong with a definition and what is worth a warning.  A definition is valid when
nothing is wrong with it.
-/

namespace WorkflowEngine

/-- What can be wrong with a definition. -/
inductive ErrorKind where
  | missingConnection
  | invalidConfig
  | circularDependency
  | invalidExpression
  | typeMismatch
deriving Repr, DecidableEq, Inhabited

namespace ErrorKind

/-- All kinds of errors. -/
def all : List ErrorKind :=
  [.missingConnection, .invalidConfig, .circularDependency, .invalidExpression, .typeMismatch]

/-- The word for a kind of error. -/
def name : ErrorKind → String
  | .missingConnection => "missing_connection"
  | .invalidConfig => "invalid_config"
  | .circularDependency => "circular_dependency"
  | .invalidExpression => "invalid_expression"
  | .typeMismatch => "type_mismatch"

end ErrorKind

/-- How bad an error is. -/
inductive Gravity where
  | error
  | critical
deriving Repr, DecidableEq, Inhabited

namespace Gravity

/-- All degrees. -/
def all : List Gravity := [.error, .critical]

/-- The word for a degree. -/
def name : Gravity → String
  | .error => "error"
  | .critical => "critical"

end Gravity

/-- What can be worth a warning. -/
inductive WarningKind where
  | unreachableNode
  | unusedVariable
  | performance
  | bestPractice
deriving Repr, DecidableEq, Inhabited

namespace WarningKind

/-- All kinds of warnings. -/
def all : List WarningKind := [.unreachableNode, .unusedVariable, .performance, .bestPractice]

/-- The word for a kind of warning. -/
def name : WarningKind → String
  | .unreachableNode => "unreachable_node"
  | .unusedVariable => "unused_variable"
  | .performance => "performance"
  | .bestPractice => "best_practice"

end WarningKind

/-- Something wrong with a definition. -/
structure DefinitionError where
  kind : ErrorKind
  message : String
  gravity : Gravity
  nodeId : Option String
  edgeId : Option String
deriving Repr, DecidableEq, Inhabited

/-- Something in a definition that is worth a warning. -/
structure DefinitionWarning where
  nodeId : Option String
  edgeId : Option String
  kind : WarningKind
  message : String
  suggestion : Option String
deriving Repr, DecidableEq, Inhabited

/-- What there is to say about a definition. -/
structure Report where
  valid : Bool
  errors : List DefinitionError
  warnings : List DefinitionWarning
deriving Repr, DecidableEq, Inhabited

open Reading

namespace DefinitionError

/-- Reads an error. -/
def read : Data → Reading DefinitionError :=
  record "ValidationError" fun entries =>
    .mk <$> required .joined entries "type" (oneOf ErrorKind.all ErrorKind.name)
      <*> required .joined entries "message" text
      <*> withDefault .joined entries "severity" .critical (oneOf Gravity.all Gravity.name)
      <*> withDefault .joined entries "node_id" none (optional text)
      <*> withDefault .joined entries "edge_id" none (optional text)

/-- The fields of an error. -/
def fields (e : DefinitionError) : Record :=
  [("type", .str e.kind.name), ("message", .str e.message), ("severity", .str e.gravity.name),
   ("node_id", .ofStr? e.nodeId), ("edge_id", .ofStr? e.edgeId)]

end DefinitionError

namespace DefinitionWarning

/-- Reads a warning. -/
def read : Data → Reading DefinitionWarning :=
  record "ValidationWarning" fun entries =>
    .mk <$> withDefault .joined entries "node_id" none (optional text)
      <*> withDefault .joined entries "edge_id" none (optional text)
      <*> required .joined entries "type" (oneOf WarningKind.all WarningKind.name)
      <*> required .joined entries "message" text
      <*> withDefault .joined entries "suggestion" none (optional text)

/-- The fields of a warning. -/
def fields (w : DefinitionWarning) : Record :=
  [("node_id", .ofStr? w.nodeId), ("edge_id", .ofStr? w.edgeId), ("type", .str w.kind.name),
   ("message", .str w.message), ("suggestion", .ofStr? w.suggestion)]

end DefinitionWarning

namespace Report

/-- A report on errors and warnings. -/
def of (errors : List DefinitionError) (warnings : List DefinitionWarning) : Report :=
  ⟨errors.isEmpty, errors, warnings⟩

/-- Reads a report. -/
def read : Data → Reading Report :=
  record "ValidationResult" fun entries =>
    .mk <$> required .joined entries "valid" bool
      <*> withDefault .joined entries "errors" [] (list DefinitionError.read)
      <*> withDefault .joined entries "warnings" [] (list DefinitionWarning.read)

/-- The fields of a report. -/
def fields (r : Report) : Record :=
  [("valid", .bool r.valid), ("errors", .list (r.errors.map fun e => e.fields.toData)),
   ("warnings", .list (r.warnings.map fun w => w.fields.toData))]

end Report

end WorkflowEngine
