import WorkflowEngine.Definition.Basic
import WorkflowEngine.Reading.Container
import WorkflowEngine.Value.Container

/-!
# Reading definitions

Definitions come from documents in which fields may be missing, spelled in two ways or given in a form
that still has to be put right.  A node may hold its label and its configuration in a part of their
own, and a configuration that does not say its type takes that of its node.
-/

namespace WorkflowEngine

open Reading

/-- The entries of a dictionary. -/
abbrev Entries := List (Data × Data)

/-- A text that has to hold something, without the blanks at both ends. -/
def trimmed (complaint : String) (d : Data) : Reading String :=
  (text d).check fun s => if Text.isBlankText s then state complaint else .ok (Text.trim s)

/-- A text that has to hold something, as it is. -/
def filled (complaint : String) (d : Data) : Reading String :=
  (text d).check fun s => if Text.isBlankText s then state complaint else .ok s

/-- A limit in milliseconds. -/
def limit (d : Data) : Reading (Option Int) :=
  (optional int d).check fun found =>
    match found with
    | some i => if i ≤ 0 then state "Timeout must be a positive integer" else .ok (some i)
    | none => .ok none

/-- The type that a configuration says it has, which has to be that of its variant. -/
def typeOf (entries : Entries) (k : NodeKind) : Reading NodeKind :=
  withDefault .joined entries "type" k (oneOf [k] NodeKind.name)

namespace Condition

/-- Reads a condition. -/
def read : Data → Reading Condition :=
  record "Condition" fun entries =>
    .mk <$> required .joined entries "variable" (trimmed "Condition variable cannot be empty")
      <*> required .joined entries "operator" (oneOf Operator.known Operator.name)
      <*> withDefault .joined entries "value" .null any
      <*> withDefault .joined entries "case_sensitive" true bool

/-- The text under a name; there is none where something else stands. -/
def textUnder (entries : Entries) (name : String) : String :=
  ((Data.field? entries name).bind Data.str?).getD ""

/-- A condition as its entries say, without any check. -/
def unchecked (entries : Entries) : Condition :=
  ⟨textUnder entries "variable", .ofName (textUnder entries "operator"), (Data.field? entries "value").getD .null,
    (Data.field? entries "case_sensitive").all (· == .bool true)⟩

end Condition

namespace ActionConfig

/-- Reads the configuration of an action. -/
def ofEntries (entries : Entries) : Reading ActionConfig :=
  (fun _ => .mk) <$> typeOf entries .action
    <*> required .joined entries "action_type" text
    <*> withDefault .joined entries "parameters" [] (dict any)
    <*> withDefault .joined entries "timeout" none limit

end ActionConfig

namespace ConditionConfig

/-- Reads the configuration of conditions. -/
def ofEntries (entries : Entries) : Reading ConditionConfig :=
  (fun _ => .mk) <$> typeOf entries .condition
    <*> withDefault .joined entries "conditions" [] (list Condition.read)
    <*> withDefault .joined entries "logical_operator" .every (oneOf Junction.all Junction.name)

end ConditionConfig

namespace TransformConfig

/-- Reads the configuration of a transformation. -/
def ofEntries (entries : Entries) : Reading TransformConfig :=
  (fun _ => .mk) <$> typeOf entries .transform
    <*> withDefault .joined entries "transform_type" .map (oneOf TransformKind.all TransformKind.name)
    <*> required .joined entries "expression" (filled "Transform expression cannot be empty")
    <*> withDefault .joined entries "output_variable" none (optional text)

end TransformConfig

namespace DelayConfig

/-- A length of time, which is not negative. -/
def nonNegative (d : Data) : Reading Float :=
  (float d).check fun x => if 0.0 ≤ x then .ok x else refuse .negative

/-- Reads the configuration of a delay. -/
def ofEntries (entries : Entries) : Reading DelayConfig :=
  (fun _ => .mk) <$> typeOf entries .delay
    <*> required .joined entries "duration" nonNegative
    <*> withDefault .joined entries "unit" .seconds (oneOf DelayUnit.all DelayUnit.name)

end DelayConfig

namespace Authentication

/-- Reads who sends a request. -/
def read : Data → Reading Authentication :=
  record "ApiAuthentication" fun entries =>
    .mk <$> withDefault .joined entries "type" .none (oneOf AuthScheme.all AuthScheme.name)
      <*> withDefault .joined entries "credentials" [] (dict text)

end Authentication

namespace ApiConfig

/-- The method of a request, in letters of any case. -/
def readMethod (d : Data) : Reading HttpMethod :=
  let raised :=
    match d with
    | .str s => .str (Text.upper s)
    | d => d
  oneOf HttpMethod.all HttpMethod.name raised

/-- Reads the configuration of a request. -/
def ofEntries (entries : Entries) : Reading ApiConfig :=
  (fun _ => .mk) <$> typeOf entries .api
    <*> withDefault .joined entries "method" .get readMethod
    <*> required .joined entries "url" (trimmed "API url cannot be empty")
    <*> withDefault .joined entries "headers" none (optional (dict text))
    <*> withDefault .joined entries "body" .null any
    <*> withDefault .joined entries "authentication" none (optional Authentication.read)
    <*> withDefault .joined entries "timeout" none limit

end ApiConfig

namespace Task

/-- Reads a configuration as that of a kind of node. -/
def ofKind (entries : Entries) : NodeKind → Option (Reading Task)
  | .action => some (.action <$> ActionConfig.ofEntries entries)
  | .condition => some (.condition <$> ConditionConfig.ofEntries entries)
  | .transform => some (.transform <$> TransformConfig.ofEntries entries)
  | .delay => some (.delay <$> DelayConfig.ofEntries entries)
  | .api => some (.api <$> ApiConfig.ofEntries entries)
  | .trigger => none
  | .ending => none

/-- Reads a configuration, which says its type. -/
def read (d : Data) : Reading Task :=
  match d with
  | .dict entries =>
    let tag := (Data.field? entries "type").getD .null
    let kind? := tag.str?.bind NodeKind.ofName?
    match kind?.bind (ofKind entries) with
    | some reading => reading.inside ((kind?.getD .action).name)
    | none => refuse (.wrongTag tag.text (NodeKind.configured.map NodeKind.name))
  | _ => refuse .noFields

end Task

namespace Node

/-- The kinds of nodes that have no configuration. -/
def isBare (k : NodeKind) : Bool := k == .trigger || k == .ending

/-- Gives a key its value, at the place of the key or behind all others. -/
def put (entries : Entries) (key : String) (value : Data) : Entries :=
  if (Data.field? entries key).isSome then
    entries.map fun e => if e.1.str? == some key then (e.1, value) else e
  else entries ++ [(.str key, value)]

/-- Gives a key its value where the key is missing. -/
def putIfMissing (entries : Entries) (key : String) (value : Data) : Entries :=
  if (Data.field? entries key).isSome then entries else put entries key value

/-- Moves the label and the configuration out of the part that holds them. -/
def flatten (entries : Entries) : Entries :=
  let rest := entries.filter fun e => e.1.str? != some "data"
  match Data.field? entries "data" with
  | some (.dict held) =>
    let labelled := putIfMissing rest "label" ((Data.field? held "label").getD (.str ""))
    match Data.field? held "config" with
    | some config => putIfMissing labelled "config" config
    | none => labelled
  | _ => rest

/-- Why a type cannot be looked up among words; a set can, as it would be in its fixed form. -/
def typeFault? : Data → Option Kind
  | .set _ => none
  | d => d.unhashable?

/-- Puts the configuration right: bare nodes have none, and others take the type of the node. -/
def tagConfig (entries : Entries) : Except Fault Entries :=
  let type := (Data.field? entries "type").getD .null
  match typeFault? type with
  | some k => .error (.unhashable k)
  | none =>
    if (type.str?.bind NodeKind.ofName?).any isBare then .ok (put entries "config" .null)
    else
      match Data.field? entries "config" with
      | some (.dict config) =>
        if (Data.field? config "type").isSome then .ok entries
        else .ok (put entries "config" (.dict (config ++ [(.str "type", type)])))
      | _ => .ok entries

/-- Puts a node together, whose configuration has to fit unless it has no use. -/
def assemble (id : String) (kind : NodeKind) (label : String) (config : Option Task) : Reading Node :=
  match kind with
  | .trigger => .ok ⟨id, label, .trigger, config⟩
  | .ending => .ok ⟨id, label, .ending, config⟩
  | k =>
    match config with
    | none => state ("Node '" ++ id ++ "' of type '" ++ k.name ++ "' requires a config")
    | some task =>
      if task.kind == k then .ok ⟨id, label, task, none⟩
      else
        state ("Node '" ++ id ++ "' has type '" ++ k.name ++ "' but a '" ++ task.kind.name ++ "' config")

/-- Reads a node whose parts stand where they belong. -/
def ofEntries (entries : Entries) : Reading Node :=
  let parts : Reading (String × NodeKind × String × Option Task) :=
    (fun id kind label config => (id, kind, label, config))
      <$> required .joined entries "id" (trimmed "Node ID cannot be empty")
      <*> required .joined entries "type" (member NodeKind.all NodeKind.name)
      <*> withDefault .joined entries "label" "" text
      <*> withDefault .joined entries "config" none (optional Task.read)
  parts.check fun (id, kind, label, config) => assemble id kind label config

/-- Reads a node. -/
def read : Data → Reading Node :=
  record "Node" fun entries =>
    match tagConfig (flatten entries) with
    | .ok entries => ofEntries entries
    | .error f => .failed f

end Node

namespace EdgeCondition

/-- Reads when an edge is taken. -/
def read : Data → Reading EdgeCondition :=
  record "EdgeCondition" fun entries =>
    .mk <$> required .joined entries "type" (oneOf EdgeKind.all EdgeKind.name)
      <*> withDefault .joined entries "expression" none (optional text)

end EdgeCondition

namespace Edge

/-- Reads an edge. -/
def read : Data → Reading Edge :=
  record "Edge" fun entries =>
    .mk <$> required .joined entries "id" text
      <*> required .joined entries "source" text
      <*> required .joined entries "target" text
      <*> withDefault .joined entries "label" none (optional text)
      <*> withDefault .joined entries "condition" none (optional EdgeCondition.read)

end Edge

namespace ErrorHandling

/-- Reads the settings of a workflow, which say how failures are handled. -/
def read : Data → Reading ErrorHandling :=
  record "WorkflowSettings" fun entries =>
    withDefault .joined entries "error_handling" .stop (member all name)

end ErrorHandling

namespace Workflow

/-- No id stands twice in a list. -/
def areDistinct : List String → Bool
  | [] => true
  | id :: rest => !rest.contains id && areDistinct rest

/-- Reads nodes, whose ids have to differ. -/
def readNodes (d : Data) : Reading (List Node) :=
  (list Node.read d).check fun nodes =>
    if areDistinct (nodes.map Node.id) then .ok nodes else state "All node IDs must be unique"

/-- Reads a workflow from its fields. -/
def ofEntries (entries : Entries) : Reading Workflow :=
  .mk <$> required .joined entries "id" text
    <*> withDefault .joined entries "version" 1 int
    <*> withDefault .joined entries "name" "" text
    <*> withDefault .joined entries "nodes" [] readNodes
    <*> withDefault .joined entries "edges" [] (list Edge.read)
    <*> withDefault .joined entries "settings" .stop ErrorHandling.read

/-- Reads a workflow. -/
def read : Data → Reading Workflow :=
  record "WorkflowDefinition" ofEntries

end Workflow

end WorkflowEngine
