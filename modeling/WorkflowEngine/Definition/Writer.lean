import WorkflowEngine.Definition.Basic
import WorkflowEngine.Definition.Record

/-!
# Writing definitions

A definition is written with all its fields, each in the spelling that comes first when it is read.
-/

namespace WorkflowEngine

/-- A limit as data. -/
def limitData : Option Int → Data
  | some i => .int i
  | none => .null

/-- The fields of a condition. -/
def Condition.fields (c : Condition) : Record :=
  [("variable", .str c.subject), ("operator", .str c.operator.name), ("value", c.value),
   ("case_sensitive", .bool c.caseSensitive)]

/-- The fields of the configuration of an action. -/
def ActionConfig.fields (c : ActionConfig) : Record :=
  [("type", .str "action"), ("action_type", .str c.actionType), ("parameters", .ofFields c.parameters),
   ("timeout", limitData c.timeout)]

/-- The fields of the configuration of conditions. -/
def ConditionConfig.fields (c : ConditionConfig) : Record :=
  [("type", .str "condition"), ("conditions", .list (c.conditions.map fun x => x.fields.toData)),
   ("logical_operator", .str c.junction.name)]

/-- The fields of the configuration of a transformation. -/
def TransformConfig.fields (c : TransformConfig) : Record :=
  [("type", .str "transform"), ("transform_type", .str c.kind.name), ("expression", .str c.expression),
   ("output_variable", .ofStr? c.outputVariable)]

/-- The fields of the configuration of a delay. -/
def DelayConfig.fields (c : DelayConfig) : Record :=
  [("type", .str "delay"), ("duration", .float c.duration), ("unit", .str c.unit.name)]

/-- The fields that say who sends a request. -/
def Authentication.fields (a : Authentication) : Record :=
  [("type", .str a.scheme.name), ("credentials", Data.ofTexts a.credentials)]

/-- The fields of the configuration of a request. -/
def ApiConfig.fields (c : ApiConfig) : Record :=
  [("type", .str "api"), ("method", .str c.method.name), ("url", .str c.url),
   ("headers", (c.headers.map Data.ofTexts).getD .null), ("body", c.body),
   ("authentication", (c.authentication.map fun a => a.fields.toData).getD .null),
   ("timeout", limitData c.timeout)]

/-- The configuration of a task as data. -/
def Task.toData : Task → Data
  | .trigger => .null
  | .ending => .null
  | .action c => c.fields.toData
  | .condition c => c.fields.toData
  | .transform c => c.fields.toData
  | .delay c => c.fields.toData
  | .api c => c.fields.toData

/-- The fields of a node. -/
def Node.fields (n : Node) : Record :=
  [("id", .str n.id), ("type", .str n.kind.name), ("label", .str n.label), ("config", n.configured.toData)]

/-- The fields that say when an edge is taken. -/
def EdgeCondition.fields (c : EdgeCondition) : Record :=
  [("type", .str c.kind.name), ("expression", .ofStr? c.expression)]

/-- The fields of an edge. -/
def Edge.fields (e : Edge) : Record :=
  [("id", .str e.id), ("source", .str e.source), ("target", .str e.target), ("label", .ofStr? e.label),
   ("condition", (e.condition.map fun c => c.fields.toData).getD .null)]

/-- The fields of the settings of a workflow. -/
def ErrorHandling.fields (h : ErrorHandling) : Record :=
  [("error_handling", .str h.name)]

/-- The fields of a workflow. -/
def Workflow.fields (w : Workflow) : Record :=
  [("id", .str w.id), ("version", .int w.version), ("name", .str w.name),
   ("nodes", .list (w.nodes.map fun n => n.fields.toData)),
   ("edges", .list (w.edges.map fun e => e.fields.toData)),
   ("settings", w.errorHandling.fields.toData)]

/-- A workflow as data. -/
def Workflow.toData (w : Workflow) : Data := w.fields.toData

end WorkflowEngine
