import WorkflowEngine.Definition.Reader
import WorkflowEngine.Proofs.Reading.Compositional
import WorkflowEngine.Proofs.Reading.Reason

/-!
# Faults in reading definitions

A node ends reading in a fault only by its type: the type is looked up among words before it is read, and a list
or a dictionary cannot be looked up.  A workflow ends reading in a fault only by the first such node.
-/

/-!
## Readers of definitions

A property that passes from parts to the whole holds of whatever is read of a definition, down to its configurations.
The type of a node is looked up among words before the node is read, so of a node it holds behind that look.
-/

namespace WorkflowEngine.Reading.Compositional

variable {P : (α : Type) → Reading α → Prop} (passes : Compositional P)

include passes

theorem trimmed (complaint : String) (d : Data) : P String (trimmed complaint d) := by
  refine passes.check (passes.text d) fun s => ?_
  split
  · exact passes.state _
  · exact passes.ok _

theorem filled (complaint : String) (d : Data) : P String (filled complaint d) := by
  refine passes.check (passes.text d) fun s => ?_
  split
  · exact passes.state _
  · exact passes.ok _

theorem limit (d : Data) : P (Option Int) (limit d) := by
  refine passes.check (passes.optional passes.int d) fun found => ?_
  cases found with
  | none => exact passes.ok _
  | some i =>
      dsimp only
      split
      · exact passes.state _
      · exact passes.ok _

theorem typeOf (entries : Entries) (k : NodeKind) : P NodeKind (typeOf entries k) :=
  passes.withDefault (passes.oneOf _ _)

theorem condition (d : Data) : P Condition (Condition.read d) := by
  refine passes.record (fun entries => ?_) _ d
  refine passes.seq (passes.seq (passes.seq (passes.map' ?_) ?_) ?_) ?_
  · exact passes.required (passes.trimmed _)
  · exact passes.required (passes.oneOf _ _)
  · exact passes.withDefault passes.any
  · exact passes.withDefault passes.bool

theorem actionConfig (entries : Entries) : P ActionConfig (ActionConfig.ofEntries entries) := by
  refine passes.seq (passes.seq (passes.seq (passes.map' (passes.typeOf _ _)) ?_) ?_) ?_
  · exact passes.required passes.text
  · exact passes.withDefault (passes.dict passes.any)
  · exact passes.withDefault passes.limit

theorem conditionConfig (entries : Entries) : P ConditionConfig (ConditionConfig.ofEntries entries) := by
  refine passes.seq (passes.seq (passes.map' (passes.typeOf _ _)) ?_) ?_
  · exact passes.withDefault (passes.list passes.condition)
  · exact passes.withDefault (passes.oneOf _ _)

theorem transformConfig (entries : Entries) : P TransformConfig (TransformConfig.ofEntries entries) := by
  refine passes.seq (passes.seq (passes.seq (passes.map' (passes.typeOf _ _)) ?_) ?_) ?_
  · exact passes.withDefault (passes.oneOf _ _)
  · exact passes.required (passes.filled _)
  · exact passes.withDefault (passes.optional passes.text)

theorem delayConfig (entries : Entries) : P DelayConfig (DelayConfig.ofEntries entries) := by
  have nonNegative (d : Data) : P Float (DelayConfig.nonNegative d) := by
    refine passes.check (passes.float d) fun x => ?_
    split
    · exact passes.ok _
    · exact passes.refuse _
  refine passes.seq (passes.seq (passes.map' (passes.typeOf _ _)) ?_) ?_
  · exact passes.required nonNegative
  · exact passes.withDefault (passes.oneOf _ _)

theorem authentication (d : Data) : P Authentication (Authentication.read d) := by
  refine passes.record (fun entries => passes.seq (passes.map' ?_) ?_) _ d
  · exact passes.withDefault (passes.oneOf _ _)
  · exact passes.withDefault (passes.dict passes.text)

theorem apiConfig (entries : Entries) : P ApiConfig (ApiConfig.ofEntries entries) := by
  have method (d : Data) : P HttpMethod (ApiConfig.readMethod d) := passes.oneOf _ _ _
  refine passes.seq (passes.seq (passes.seq (passes.seq (passes.seq (passes.seq (passes.map' (passes.typeOf _ _))
    ?_) ?_) ?_) ?_) ?_) ?_
  · exact passes.withDefault method
  · exact passes.required (passes.trimmed _)
  · exact passes.withDefault (passes.optional (passes.dict passes.text))
  · exact passes.withDefault passes.any
  · exact passes.withDefault (passes.optional passes.authentication)
  · exact passes.withDefault passes.limit

theorem task (d : Data) : P Task (Task.read d) := by
  unfold Task.read
  cases d with
  | dict entries =>
      dsimp only
      cases ((Data.field? entries "type").getD .null).str?.bind NodeKind.ofName? with
      | none => exact passes.refuse _
      | some k =>
          cases k with
          | action => exact passes.inside _ (passes.map' (passes.actionConfig entries))
          | condition => exact passes.inside _ (passes.map' (passes.conditionConfig entries))
          | transform => exact passes.inside _ (passes.map' (passes.transformConfig entries))
          | delay => exact passes.inside _ (passes.map' (passes.delayConfig entries))
          | api => exact passes.inside _ (passes.map' (passes.apiConfig entries))
          | trigger => exact passes.refuse _
          | ending => exact passes.refuse _
  | _ => exact passes.refuse _

/-- A node whose parts stand where they belong is put together of them. -/
theorem nodeEntries (entries : Entries) : P Node (Node.ofEntries entries) := by
  refine passes.check ?_ fun parts => ?_
  · refine passes.seq (passes.seq (passes.seq (passes.map' ?_) ?_) ?_) ?_
    · exact passes.required (passes.trimmed _)
    · exact passes.required (passes.member _ _)
    · exact passes.withDefault passes.text
    · exact passes.withDefault (passes.optional passes.task)
  · unfold Node.assemble
    repeat' split
    all_goals first | exact passes.ok _ | exact passes.state _

theorem edge (d : Data) : P Edge (Edge.read d) := by
  have condition (d : Data) : P EdgeCondition (EdgeCondition.read d) := by
    refine passes.record (fun entries => passes.seq (passes.map' ?_) ?_) _ d
    · exact passes.required (passes.oneOf _ _)
    · exact passes.withDefault (passes.optional passes.text)
  refine passes.record (fun entries => ?_) _ d
  refine passes.seq (passes.seq (passes.seq (passes.seq (passes.map' ?_) ?_) ?_) ?_) ?_
  · exact passes.required passes.text
  · exact passes.required passes.text
  · exact passes.required passes.text
  · exact passes.withDefault (passes.optional passes.text)
  · exact passes.withDefault (passes.optional condition)

theorem errorHandling (d : Data) : P ErrorHandling (ErrorHandling.read d) :=
  passes.record (fun _ => passes.withDefault (passes.member _ _)) _ d

end WorkflowEngine.Reading.Compositional

/-! ## Faults in reading definitions -/

namespace WorkflowEngine

open Reading

namespace Node

/-- What is put under one name changes nothing under another. -/
theorem field?_put {key name : String} (ne : key ≠ name) (entries : Entries) (value : Data) :
    Data.field? (put entries key value) name = Data.field? entries name := by
  unfold put
  split
  · unfold Data.field?
    rw [List.find?_map, Option.map_map]
    have keys : ((fun e : Data × Data => e.1.str? == some name) ∘
        fun e => if e.1.str? == some key then (e.1, value) else e) = fun e => e.1.str? == some name := by
      funext e
      simp only [Function.comp_apply]
      split <;> rfl
    rw [keys]
    refine Option.map_congr fun e found => ?_
    have hit : e.1.str? = some name := by simpa using List.find?_some found
    simp [hit, ne.symm]
  · unfold Data.field?
    rw [List.find?_append]
    have other : (key == name) = false := beq_false_of_ne ne
    simp [Data.str?, ne]

theorem field?_putIfMissing {key name : String} (ne : key ≠ name) (entries : Entries) (value : Data) :
    Data.field? (putIfMissing entries key value) name = Data.field? entries name := by
  unfold putIfMissing
  split
  · rfl
  · exact field?_put ne entries value

/-- A field of a node stays where it is when the part with the label and the configuration is taken away. -/
theorem field?_rest {name : String} (data : name ≠ "data") (entries : Entries) :
    Data.field? (entries.filter fun e => e.1.str? != some "data") name = Data.field? entries name := by
  unfold Data.field?
  rw [List.find?_filter]
  congr 2
  funext e
  by_cases hit : e.1.str? = some name
  · simp [hit, data]
  · simp [hit]

/-- A field of a node stays where it is when the label and the configuration are moved. -/
theorem field?_flatten {name : String} (data : name ≠ "data") (label : "label" ≠ name) (config : "config" ≠ name)
    (entries : Entries) : Data.field? (flatten entries) name = Data.field? entries name := by
  unfold flatten
  dsimp only
  split
  · split
    · rw [field?_putIfMissing config, field?_putIfMissing label, field?_rest data]
    · rw [field?_putIfMissing label, field?_rest data]
  · exact field?_rest data entries

/-- A field of a node stays where it is when the configuration is put right. -/
theorem field?_tagConfig {name : String} (config : "config" ≠ name) {entries tagged : Entries}
    (done : tagConfig entries = .ok tagged) : Data.field? tagged name = Data.field? entries name := by
  unfold tagConfig at done
  dsimp only at done
  split at done
  · cases done
  · split at done
    · cases done
      exact field?_put config entries _
    · split at done
      · split at done
        · cases done
          rfl
        · cases done
          exact field?_put config entries _
      · cases done
        rfl

/-- The configuration of a node is put right unless its type cannot be looked up. -/
theorem tagConfig_cases (entries : Entries) :
    (∃ k, ((Data.field? entries "type").bind typeFault?) = some k ∧ tagConfig entries = .error (.unhashable k)) ∨
      ((Data.field? entries "type").bind typeFault?) = none ∧ ∃ tagged, tagConfig entries = .ok tagged := by
  have looked : typeFault? ((Data.field? entries "type").getD .null) = (Data.field? entries "type").bind typeFault? := by
    cases Data.field? entries "type" <;> rfl
  unfold tagConfig
  dsimp only
  rw [looked]
  cases (Data.field? entries "type").bind typeFault? with
  | some k => exact .inl ⟨k, rfl, rfl⟩
  | none =>
      refine .inr ⟨rfl, ?_⟩
      dsimp only
      split
      · exact ⟨_, rfl⟩
      · split
        · split <;> exact ⟨_, rfl⟩
        · exact ⟨_, rfl⟩

end Node

/-- Why the type of a node in a document cannot be looked up, if it cannot. -/
def Data.nodeFault? (d : Data) : Option Fault :=
  ((d.dict?.bind fun entries => Data.field? entries "type").bind Node.typeFault?).map .unhashable

/-- The items of a workflow in a document that are to be nodes. -/
def Data.nodeItems (d : Data) : List Data :=
  ((d.dict?.bind fun entries => Data.field? entries "nodes").bind items?).getD []

/-- The fault of a node is that of its type. -/
theorem Node.fault?_read (d : Data) : (Node.read d).fault? = d.nodeFault? := by
  unfold Node.read Data.nodeFault?
  rw [fault?_record]
  cases d.dict? with
  | none => rfl
  | some entries =>
      simp only [Option.bind_some]
      rcases tagConfig_cases (flatten entries) with ⟨k, looked, failed⟩ | ⟨looked, tagged, done⟩
      · rw [field?_flatten (by decide) (by decide) (by decide)] at looked
        rw [failed, looked]
        rfl
      · rw [field?_flatten (by decide) (by decide) (by decide)] at looked
        rw [done, looked]
        exact calm.nodeEntries tagged

/-- The fault of a workflow is that of its first node with one. -/
theorem Workflow.fault?_read (d : Data) : (Workflow.read d).fault? = d.nodeItems.findSome? Data.nodeFault? := by
  have nodes (d : Data) : (readNodes d).fault? = ((items? d).getD []).findSome? Data.nodeFault? := by
    rw [readNodes, fault?_check, fault?_list]
    · simp only [Node.fault?_read]
    · intro nodes
      split <;> rfl
  unfold Workflow.read Data.nodeItems
  rw [fault?_record]
  cases d.dict? with
  | none => rfl
  | some entries =>
      have id : (required .joined entries "id" text).fault? = none := calm.required calm.text
      have version : (withDefault .joined entries "version" 1 int).fault? = none := calm.withDefault calm.int
      have name : (withDefault .joined entries "name" "" text).fault? = none := calm.withDefault calm.text
      have edges : (withDefault .joined entries "edges" [] (list Edge.read)).fault? = none :=
        calm.withDefault (calm.list calm.edge)
      have settings : (withDefault .joined entries "settings" .stop ErrorHandling.read).fault? = none :=
        calm.withDefault calm.errorHandling
      simp only [Option.bind_some, ofEntries, fault?_seq, fault?_map, id, version, name, edges, settings, Option.or_none,
        Option.none_or]
      rw [fault?_withDefault, find?_joined (by decide)]
      cases Data.field? entries "nodes" with
      | none => rfl
      | some d => exact nodes d

end WorkflowEngine
