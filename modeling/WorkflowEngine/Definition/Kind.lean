/-!
# Kinds in a definition

The fixed families of words that a definition uses.  Each family lists its members in the order in
which messages name them.
-/

namespace WorkflowEngine

/-- What a node does. -/
inductive NodeKind where
  | trigger
  | action
  | condition
  | transform
  | delay
  | api
  | ending
deriving Repr, DecidableEq, Inhabited

namespace NodeKind

/-- All kinds of nodes. -/
def all : List NodeKind := [.trigger, .action, .condition, .transform, .delay, .api, .ending]

/-- The kinds of nodes that are configured. -/
def configured : List NodeKind := [.action, .condition, .transform, .delay, .api]

/-- The word for a kind of node. -/
def name : NodeKind → String
  | .trigger => "trigger"
  | .action => "action"
  | .condition => "condition"
  | .transform => "transform"
  | .delay => "delay"
  | .api => "api"
  | .ending => "end"

/-- The kind that a word names. -/
def ofName? (word : String) : Option NodeKind :=
  all.find? fun k => k.name == word

/-- The name of what runs nodes of a kind. -/
def executorName : NodeKind → String
  | .trigger => "TriggerExecutor"
  | .action => "ActionExecutor"
  | .condition => "ConditionExecutor"
  | .transform => "TransformExecutor"
  | .delay => "DelayExecutor"
  | .api => "ApiExecutor"
  | .ending => "EndExecutor"

/-- Every kind of node is among all of them. -/
theorem mem_all (k : NodeKind) : k ∈ all := by
  cases k <;> simp [all]

/-- Words tell kinds of nodes apart. -/
theorem ofName?_name (k : NodeKind) : ofName? k.name = some k := by
  cases k <;> decide

end NodeKind

/-- How the results of several conditions are joined. -/
inductive Junction where
  | every
  | some
deriving Repr, DecidableEq, Inhabited

namespace Junction

/-- All ways to join results. -/
def all : List Junction := [.every, .some]

/-- The word for a way to join results. -/
def name : Junction → String
  | .every => "AND"
  | .some => "OR"

end Junction

/-- What a transformation is said to be; it has no effect on the result. -/
inductive TransformKind where
  | map
  | filter
  | reduce
  | merge
deriving Repr, DecidableEq, Inhabited

namespace TransformKind

/-- All kinds of transformations. -/
def all : List TransformKind := [.map, .filter, .reduce, .merge]

/-- The word for a kind of transformation. -/
def name : TransformKind → String
  | .map => "map"
  | .filter => "filter"
  | .reduce => "reduce"
  | .merge => "merge"

end TransformKind

/-- The unit in which a delay is given. -/
inductive DelayUnit where
  | seconds
  | minutes
  | hours
  | days
deriving Repr, DecidableEq, Inhabited

namespace DelayUnit

/-- All units. -/
def all : List DelayUnit := [.seconds, .minutes, .hours, .days]

/-- The word for a unit. -/
def name : DelayUnit → String
  | .seconds => "seconds"
  | .minutes => "minutes"
  | .hours => "hours"
  | .days => "days"

/-- The length of a unit in milliseconds. -/
def milliseconds : DelayUnit → Nat
  | .seconds => 1000
  | .minutes => 60000
  | .hours => 3600000
  | .days => 86400000

end DelayUnit

/-- The methods of requests. -/
inductive HttpMethod where
  | get
  | post
  | put
  | patch
  | delete
deriving Repr, DecidableEq, Inhabited

namespace HttpMethod

/-- All methods. -/
def all : List HttpMethod := [.get, .post, .put, .patch, .delete]

/-- The word for a method. -/
def name : HttpMethod → String
  | .get => "GET"
  | .post => "POST"
  | .put => "PUT"
  | .patch => "PATCH"
  | .delete => "DELETE"

end HttpMethod

/-- How a request proves who sends it. -/
inductive AuthScheme where
  | none
  | basic
  | bearer
  | apiKey
deriving Repr, DecidableEq, Inhabited

namespace AuthScheme

/-- All schemes. -/
def all : List AuthScheme := [.none, .basic, .bearer, .apiKey]

/-- The word for a scheme. -/
def name : AuthScheme → String
  | .none => "none"
  | .basic => "basic"
  | .bearer => "bearer"
  | .apiKey => "api_key"

/-- The scheme that a word names; an unknown word stands for no proof at all. -/
def ofName (word : String) : AuthScheme :=
  (all.find? fun s => s.name == word).getD .none

end AuthScheme

/-- What has to have happened for an edge to be taken. -/
inductive EdgeKind where
  | success
  | error
  | conditional
deriving Repr, DecidableEq, Inhabited

namespace EdgeKind

/-- All kinds of edges with a condition. -/
def all : List EdgeKind := [.success, .error, .conditional]

/-- The word for a kind of edge. -/
def name : EdgeKind → String
  | .success => "success"
  | .error => "error"
  | .conditional => "conditional"

end EdgeKind

/-- What a run does when a node fails. -/
inductive ErrorHandling where
  | stop
  | continue
deriving Repr, DecidableEq, Inhabited

namespace ErrorHandling

/-- All ways to handle failures. -/
def all : List ErrorHandling := [.stop, .continue]

/-- The word for a way to handle failures. -/
def name : ErrorHandling → String
  | .stop => "stop"
  | .continue => "continue"

end ErrorHandling

end WorkflowEngine
