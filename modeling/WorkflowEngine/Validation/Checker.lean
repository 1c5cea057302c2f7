import WorkflowEngine.Expression.Evaluation
import WorkflowEngine.Validation.Cycle
import WorkflowEngine.Validation.Report

/-!
# Checking definitions

A definition is checked for a trigger, for edges that lead to known nodes, for nodes that no edge
touches, for cycles, for expressions and patterns that cannot be read, and for edges behind the end.
A text that cannot be looked at at all makes the check itself fail.
-/

namespace WorkflowEngine.Workflow

/-- A critical error in the connections of a definition. -/
def connectionError (message : String) (edgeId : Option String) : DefinitionError :=
  ⟨.missingConnection, message, .critical, none, edgeId⟩

/-- There has to be a trigger. -/
def triggerErrors (w : Workflow) : List DefinitionError :=
  if w.triggers.isEmpty then [connectionError "Workflow must have at least one trigger node" none] else []

/-- The ends of an edge have to be nodes. -/
def endErrors (ids : List String) (e : Edge) : List DefinitionError :=
  let complain (role id : String) : List DefinitionError :=
    if ids.contains id then []
    else
      [connectionError ("Edge '" ++ e.id ++ "' references non-existent " ++ role ++ " node: '" ++ id ++ "'")
        (some e.id)]
  complain "source" e.source ++ complain "target" e.target

/-- The ends of all edges have to be nodes. -/
def edgeErrors (w : Workflow) : List DefinitionError :=
  w.edges.flatMap (endErrors w.nodeIds)

/-- A node other than a trigger should be touched by an edge. -/
def connectionWarnings (w : Workflow) : List DefinitionWarning :=
  w.nodes.filterMap fun n =>
    if !n.isTrigger && !w.edgeEnds.contains n.id then
      some ⟨some n.id, none, .unreachableNode, "Node \"" ++ n.displayName ++ "\" is not connected to the workflow",
        some "Connect this node or remove it"⟩
    else none

/-- There must be no cycle. -/
def cycleErrors (w : Workflow) : List DefinitionError :=
  if w.hasCycle then
    [⟨.circularDependency, "Workflow contains circular dependencies", .critical, none, none⟩]
  else []

/-- An expression or a pattern that cannot be read. -/
def expressionError (id message : String) : DefinitionError :=
  ⟨.invalidExpression, message, .error, some id, none⟩

/-- Checks parts one after the other, and lists what is wrong with them. -/
def problems {α : Type} (check : α → Except Fault (Option String)) (done : List String) :
    List α → Except Fault (List String)
  | [] => .ok done.reverse
  | x :: rest =>
    match check x with
    | .error f => .error f
    | .ok (some message) => problems check (message :: done) rest
    | .ok none => problems check done rest

/-- What is wrong with the pattern of a condition, if it has one. -/
def conditionProblem? (c : Condition) : Except Fault (Option String) :=
  if c.operator == .regex then Condition.patternProblem? c.value else .ok none

/-- What is wrong with the expressions and patterns of a node. -/
def taskProblems (n : Node) : Except Fault (List String) :=
  match n.configured with
  | .transform c => problems Expression.problem? [] [c.expression]
  | .condition c => problems conditionProblem? [] c.conditions
  | _ => .ok []

/-- What is wrong with the expressions and patterns of nodes, behind what is already found. -/
def expressionErrors (done : List DefinitionError) : List Node → Except Fault (List DefinitionError)
  | [] => .ok done
  | n :: rest =>
    match taskProblems n with
    | .error f => .error f
    | .ok messages => expressionErrors (done ++ messages.map (expressionError n.id)) rest

/-- No edge should leave the end. -/
def endWarnings (w : Workflow) : List DefinitionWarning :=
  w.nodes.filterMap fun n =>
    if n.kind == .ending && !(w.outgoing n.id).isEmpty then
      some ⟨some n.id, none, .bestPractice,
        "End node \"" ++ n.displayName ++ "\" has outgoing edges that are never followed",
        some "Remove the outgoing edges or change the node type"⟩
    else none

/-- Checks a definition. -/
def validate (w : Workflow) : Except Fault Report :=
  match expressionErrors [] w.nodes with
  | .error f => .error f
  | .ok expressions =>
    .ok (.of (w.triggerErrors ++ w.edgeErrors ++ w.cycleErrors ++ expressions)
      (w.connectionWarnings ++ w.endWarnings))

end WorkflowEngine.Workflow
