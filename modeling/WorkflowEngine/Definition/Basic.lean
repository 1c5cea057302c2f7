import WorkflowEngine.Condition
import WorkflowEngine.Definition.Kind

/-!
# Workflow definitions

A workflow is a graph.  Its nodes do things, and its edges say which node comes after which.  What a
node does comes with the configuration that this kind of node needs, so a node without it, or with that
of another kind, cannot be written down.
-/

namespace WorkflowEngine

/-- An action to dispatch, with its parameters and a limit in milliseconds. -/
structure ActionConfig where
  actionType : String
  parameters : List (String × Data)
  timeout : Option Int
deriving Repr, Inhabited

/-- Conditions and how their results are joined. -/
structure ConditionConfig where
  conditions : List Condition
  junction : Junction
deriving Repr, Inhabited

/-- An expression, and the variable that keeps its value as well. -/
structure TransformConfig where
  kind : TransformKind
  expression : String
  outputVariable : Option String
deriving Repr, Inhabited

/-- How long to wait. -/
structure DelayConfig where
  duration : Float
  unit : DelayUnit
deriving Repr, Inhabited

/-- Who sends a request. -/
structure Authentication where
  scheme : AuthScheme
  credentials : List (String × String)
deriving Repr, DecidableEq, Inhabited

/-- A request, with a limit in milliseconds. -/
structure ApiConfig where
  method : HttpMethod
  url : String
  headers : Option (List (String × String))
  body : Data
  authentication : Option Authentication
  timeout : Option Int
deriving Repr, Inhabited

/-- What a node does, and with which configuration. -/
inductive Task where
  | trigger
  | action (config : ActionConfig)
  | condition (config : ConditionConfig)
  | transform (config : TransformConfig)
  | delay (config : DelayConfig)
  | api (config : ApiConfig)
  | ending
deriving Repr, Inhabited

/-- The kind of a task. -/
def Task.kind : Task → NodeKind
  | .trigger => .trigger
  | .action _ => .action
  | .condition _ => .condition
  | .transform _ => .transform
  | .delay _ => .delay
  | .api _ => .api
  | .ending => .ending

/-- A node of a workflow. -/
structure Node where
  id : String
  label : String
  task : Task
  /-- A configuration that stands on a trigger or an end without any use. -/
  spare : Option Task
deriving Repr, Inhabited

namespace Node

/-- The kind of a node. -/
def kind (n : Node) : NodeKind := n.task.kind

/-- The task whose configuration stands on a node. -/
def configured (n : Node) : Task :=
  match n.task with
  | .trigger => n.spare.getD .trigger
  | .ending => n.spare.getD .ending
  | task => task

/-- The label of a node, or its id where it has no label. -/
def displayName (n : Node) : String :=
  if n.label == "" then n.id else n.label

/-- The node starts a run. -/
def isTrigger (n : Node) : Bool := n.kind == .trigger

end Node

/-- When an edge is taken. -/
structure EdgeCondition where
  kind : EdgeKind
  expression : Option String
deriving Repr, DecidableEq, Inhabited

/-- A directed connection between two nodes. -/
structure Edge where
  id : String
  source : String
  target : String
  label : Option String
  condition : Option EdgeCondition
deriving Repr, DecidableEq, Inhabited

namespace Edge

/-- The edge has a condition of a kind. -/
def hasKind (e : Edge) (k : EdgeKind) : Bool :=
  e.condition.any fun c => c.kind == k

/-- The edge is taken when conditions hold. -/
def isTrueBranch (e : Edge) : Bool :=
  e.hasKind .success || e.label == some "true"

/-- The edge is taken when conditions do not hold. -/
def isFalseBranch (e : Edge) : Bool :=
  e.hasKind .error || e.label == some "false"

/-- The edge is taken for a result of conditions. -/
def isBranch (e : Edge) (holds : Bool) : Bool :=
  if holds then e.isTrueBranch else e.isFalseBranch

end Edge

/-- A workflow as it is written down. -/
structure Workflow where
  id : String
  version : Int
  name : String
  nodes : List Node
  edges : List Edge
  errorHandling : ErrorHandling
deriving Repr, Inhabited

namespace Workflow

/-- The nodes that start a run, in order. -/
def triggers (w : Workflow) : List Node :=
  w.nodes.filter Node.isTrigger

/-- The edges that leave a node, in order. -/
def outgoing (w : Workflow) (id : String) : List Edge :=
  w.edges.filter fun e => e.source == id

/-- The nodes that edges lead to from a node, in the order of the edges. -/
def successors (w : Workflow) (id : String) : List String :=
  (w.outgoing id).map Edge.target

/-- The node with an id. -/
def node? (w : Workflow) (id : String) : Option Node :=
  w.nodes.find? fun n => n.id == id

/-- The ids of the nodes. -/
def nodeIds (w : Workflow) : List String :=
  w.nodes.map Node.id

/-- The node that is found is a node of the workflow under that id. -/
theorem mem_of_node? {w : Workflow} {id : String} {n : Node} (found : w.node? id = some n) :
    n ∈ w.nodes ∧ n.id = id :=
  ⟨List.mem_of_find?_eq_some found, by simpa using List.find?_some found⟩

/-- A node is missing exactly when its id is no id of a node. -/
theorem node?_eq_none_iff {w : Workflow} {id : String} : w.node? id = none ↔ id ∉ w.nodeIds := by
  simp [node?, nodeIds]

end Workflow

end WorkflowEngine
