import WorkflowEngine.Proofs.Definition.Proper

/-!
# Writing definitions and reading them back

A definition is written with all its fields, each under the name that is looked for first, and in the form that reading
leaves.  So a proper definition is read back from what is written of it, unless a spare configuration goes this time.
-/

namespace WorkflowEngine

open Reading

/-! ## What is written -/

/-- A record as entries, with its names in joined words. -/
def Record.entries (r : Record) : Entries :=
  r.map fun field => (.str (spellingOf field.1), field.2)

/-- The names of a record are told apart in joined words. -/
def Record.IsSpelled (r : Record) : Prop :=
  (r.map fun field => spellingOf field.1).Nodup

theorem Record.toData_eq (r : Record) : r.toData = .dict r.entries := by
  rw [toData, Data.ofFields, List.map_map]
  rfl

section Written

variable {α : Type} {read : Data → Reading α} {a : α} {d : Data} {name : String} {r : Record}

/-- What is written under a name stands there if no other name is spelled alike. -/
theorem field?_written (spelled : r.IsSpelled) (listed : (name, d) ∈ r) :
    Data.field? r.entries (spellingOf name) = some d := by
  induction r with
  | nil => cases listed
  | cons field rest ih =>
      rw [Record.IsSpelled, List.map_cons, List.nodup_cons] at spelled
      obtain ⟨apart, spelled⟩ := spelled
      rcases List.mem_cons.mp listed with rfl | listed
      · simp [Data.field?, Record.entries, Data.str?]
      · have other : spellingOf field.1 ≠ spellingOf name := by
          intro same
          rw [same] at apart
          exact apart (List.mem_map_of_mem listed)
        have further := ih spelled listed
        simp only [Data.field?, Record.entries, List.map_cons, List.find?_cons, Data.str?] at further ⊢
        rw [beq_false_of_ne (by simpa using other)]
        exact further

theorem find?_written (spelled : r.IsSpelled) (listed : (name, d) ∈ r) :
    find? r.entries (Spelling.joined.ways name) = some (spellingOf name, d) := by
  simp [find?, Spelling.ways, field?_written spelled listed]

theorem required_written (spelled : r.IsSpelled) (listed : (name, d) ∈ r)
    (given : read d = .ok a) : required .joined r.entries name read = .ok a := by
  rw [Reading.required, find?_written spelled listed]
  dsimp only
  rw [given]
  rfl

theorem withDefault_written {fallback : α} (spelled : r.IsSpelled)
    (listed : (name, d) ∈ r) (given : read d = .ok a) : withDefault .joined r.entries name fallback read = .ok a := by
  rw [Reading.withDefault, find?_written spelled listed]
  dsimp only
  rw [given]
  rfl

/-- The words of a family are read back. -/
theorem oneOf_written {all : List α} {name : α → String} (whole : isWhole (name a) = true)
    (found : (all.find? fun b => name b == name a) = some a) : oneOf all name (.str (name a)) = .ok a := by
  rw [oneOf]
  rw [if_pos whole, found]

theorem member_written {all : List α} {name : α → String} (found : (all.find? fun b => name b == name a) = some a) :
    member all name (.str (name a)) = .ok a := by
  rw [member]
  simp only [Reading.text]
  rw [found]

/-- A value that may be missing is read back where it is not written as one that is missing. -/
theorem optional_written {write : α → Data} {found : Option α} (back : ∀ a, found = some a → read (write a) = .ok a)
    (solid : ∀ a, write a ≠ .null) : Reading.optional read ((found.map write).getD .null) = .ok found := by
  cases found with
  | none => rfl
  | some a =>
      rw [Option.map_some, Option.getD_some, Reading.optional]
      · rw [back a rfl]
        rfl
      · exact solid a

/-- Items that are written are read back, behind those already read. -/
theorem itemsFrom_written {write : α → Data} {values : List α} (back : ∀ a ∈ values, read (write a) = .ok a)
    (index : Nat) (done : List α) :
    itemsFrom read index ⟨done, []⟩ (values.map write) = .ok (done.reverse ++ values) := by
  induction values generalizing index done with
  | nil => simp [itemsFrom, Progress.finish]
  | cons a rest ih =>
      obtain ⟨first, further⟩ := List.forall_mem_cons.mp back
      rw [List.map_cons, itemsFrom, first]
      have next := ih further (index + 1) (a :: done)
      rw [List.reverse_cons, List.append_assoc] at next
      exact next

theorem list_written {write : α → Data} {values : List α} (back : ∀ a ∈ values, read (write a) = .ok a) :
    Reading.list read (.list (values.map write)) = .ok values :=
  itemsFrom_written back 0 []

/-- Entries that are written are read back, behind those already read. -/
theorem entriesFrom_written {write : α → Data} (back : ∀ a, read (write a) = .ok a) (done values : List (String × α)) :
    entriesFrom read ⟨done, []⟩ (values.map fun e => (.str e.1, write e.2)) = .ok (done.reverse ++ values) := by
  induction values generalizing done with
  | nil => simp [entriesFrom, Progress.finish]
  | cons e rest ih =>
      have first : entry read (.str e.1, write e.2) = .ok e := by
        simp [entry, back, Reading.text, inside, both]
      rw [List.map_cons, entriesFrom, first]
      have next := ih (e :: done)
      rw [List.reverse_cons, List.append_assoc] at next
      exact next

theorem dict_written (write : α → Data) (back : ∀ a, read (write a) = .ok a) (values : List (String × α)) :
    Reading.dict read (.ofFields (values.map fun e => (e.1, write e.2))) = .ok values := by
  have plain : (values.map fun e => ((.str e.1 : Data), write e.2)).any isEncodedKey = false := by
    simp [isEncodedKey]
  have written : Data.ofFields (values.map fun e => (e.1, write e.2)) =
      .dict (values.map fun e => (.str e.1, write e.2)) := by
    rw [Data.ofFields, List.map_map]
    rfl
  have behind : entriesFrom read .start (values.map fun e => (.str e.1, write e.2)) = .ok values :=
    entriesFrom_written back [] values
  rw [written, Reading.dict, behind, Reading.map, plain]
  rfl

theorem trimmed_written {complaint s : String} (trimmed : Text.IsTrimmed s) :
    WorkflowEngine.trimmed complaint (.str s) = .ok s := by
  obtain ⟨held, same⟩ := Text.isTrimmed_iff.mp trimmed
  rw [WorkflowEngine.trimmed, Reading.text, Reading.check, held, same]
  rfl

theorem limit_written {found : Option Int} (positive : IsPositiveLimit found) : limit (limitData found) = .ok found := by
  cases found with
  | none => rfl
  | some i =>
      have above : ¬i ≤ 0 := Int.not_le.mpr (positive i rfl)
      rw [limitData, limit, Reading.optional, Reading.int]
      · change (if i ≤ 0 then _ else _) = _
        rw [if_neg above]
      · rintro ⟨⟩

theorem text_written {found : Option String} : Reading.optional Reading.text (Data.ofStr? found) = .ok found := by
  cases found <;> rfl

end Written

/-! ## Configurations -/

section Words

/-! The words of each family are read back. -/

theorem oneOf_operator {o : Operator} (known : o ∈ Operator.known) :
    oneOf Operator.known Operator.name (.str o.name) = .ok o := by
  have each : ∀ o ∈ Operator.known,
      isWhole o.name = true ∧ (Operator.known.find? fun b => b.name == o.name) = some o := by decide
  exact oneOf_written (each o known).1 (each o known).2

theorem oneOf_junction (j : Junction) : oneOf Junction.all Junction.name (.str j.name) = .ok j := by
  cases j <;> exact oneOf_written (by decide) rfl

theorem oneOf_transformKind (k : TransformKind) : oneOf TransformKind.all TransformKind.name (.str k.name) = .ok k := by
  cases k <;> exact oneOf_written (by decide) (by decide)

theorem oneOf_delayUnit (u : DelayUnit) : oneOf DelayUnit.all DelayUnit.name (.str u.name) = .ok u := by
  cases u <;> exact oneOf_written (by decide) (by decide)

theorem oneOf_authScheme (s : AuthScheme) : oneOf AuthScheme.all AuthScheme.name (.str s.name) = .ok s := by
  cases s <;> exact oneOf_written (by decide) (by decide)

theorem oneOf_edgeKind (k : EdgeKind) : oneOf EdgeKind.all EdgeKind.name (.str k.name) = .ok k := by
  cases k <;> exact oneOf_written (by decide) (by decide)

/-- The word for a method is in large letters. -/
theorem readMethod_written (m : HttpMethod) : ApiConfig.readMethod (.str m.name) = .ok m := by
  have raised : Text.upper m.name = m.name := by cases m <;> decide
  rw [ApiConfig.readMethod]
  simp only [raised]
  cases m <;> exact oneOf_written (by decide) (by decide)

theorem typeOf_written {r : Record} {k : NodeKind} (spelled : r.IsSpelled)
    (listed : ("type", .str k.name) ∈ r) : typeOf r.entries k = .ok k := by
  refine withDefault_written spelled listed (oneOf_written ?_ ?_)
  · cases k <;> decide
  · simp

end Words

theorem Condition.read_toData {c : Condition} (proper : c.IsProper) : read c.fields.toData = .ok c := by
  have spelled : c.fields.IsSpelled := by
    simp only [Record.IsSpelled, fields, List.map]
    decide
  have subject : required .joined c.fields.entries "variable" (trimmed "Condition variable cannot be empty") =
      .ok c.subject := required_written spelled (by simp [fields]) (trimmed_written proper.subject)
  have operator : required .joined c.fields.entries "operator" (oneOf Operator.known Operator.name) = .ok c.operator :=
    required_written spelled (by simp [fields]) (oneOf_operator proper.operator)
  have value : withDefault .joined c.fields.entries "value" .null Reading.any = .ok c.value :=
    withDefault_written spelled (by simp [fields]) rfl
  have sensitive : withDefault .joined c.fields.entries "case_sensitive" true Reading.bool = .ok c.caseSensitive :=
    withDefault_written (d := .bool c.caseSensitive) spelled (by simp [fields]) rfl
  rw [Record.toData_eq, read, record, subject, operator, value, sensitive]
  rfl

theorem ActionConfig.ofEntries_written {c : ActionConfig} (proper : (Task.action c).IsProper) :
    ofEntries c.fields.entries = .ok c := by
  have spelled : c.fields.IsSpelled := by
    simp only [Record.IsSpelled, fields, List.map]
    decide
  have given : Reading.dict Reading.any (.ofFields c.parameters) = .ok c.parameters := by
    have whole : Reading.dict Reading.any (.ofFields (c.parameters.map fun e => (e.1, id e.2))) = .ok c.parameters :=
      dict_written id (fun _ => rfl) c.parameters
    simpa using whole
  have type : typeOf c.fields.entries .action = .ok .action := typeOf_written spelled (by simp [fields, NodeKind.name])
  have actionType : required .joined c.fields.entries "action_type" Reading.text = .ok c.actionType :=
    required_written (d := .str c.actionType) spelled (by simp [fields]) rfl
  have parameters : withDefault .joined c.fields.entries "parameters" [] (Reading.dict Reading.any) = .ok c.parameters :=
    withDefault_written spelled (by simp [fields]) given
  have timeout : withDefault .joined c.fields.entries "timeout" none limit = .ok c.timeout :=
    withDefault_written spelled (by simp [fields]) (limit_written proper)
  rw [ofEntries, type, actionType, parameters, timeout]
  rfl

theorem ConditionConfig.ofEntries_written {c : ConditionConfig} (proper : (Task.condition c).IsProper) :
    ofEntries c.fields.entries = .ok c := by
  have spelled : c.fields.IsSpelled := by
    simp only [Record.IsSpelled, fields, List.map]
    decide
  have type : typeOf c.fields.entries .condition = .ok .condition :=
    typeOf_written spelled (by simp [fields, NodeKind.name])
  have conditions : withDefault .joined c.fields.entries "conditions" [] (Reading.list Condition.read) =
      .ok c.conditions :=
    withDefault_written spelled (by simp [fields]) (list_written fun x listed => Condition.read_toData (proper x listed))
  have junction : withDefault .joined c.fields.entries "logical_operator" .every (oneOf Junction.all Junction.name) =
      .ok c.junction :=
    withDefault_written spelled (by simp [fields]) (oneOf_junction c.junction)
  rw [ofEntries, type, conditions, junction]
  rfl

theorem TransformConfig.ofEntries_written {c : TransformConfig} (proper : (Task.transform c).IsProper) :
    ofEntries c.fields.entries = .ok c := by
  have spelled : c.fields.IsSpelled := by
    simp only [Record.IsSpelled, fields, List.map]
    decide
  have held : Text.isBlankText c.expression = false := proper
  have given : filled "Transform expression cannot be empty" (.str c.expression) = .ok c.expression := by
    rw [filled, Reading.text, Reading.check, held]
    rfl
  have type : typeOf c.fields.entries .transform = .ok .transform :=
    typeOf_written spelled (by simp [fields, NodeKind.name])
  have kind : withDefault .joined c.fields.entries "transform_type" .map
      (oneOf TransformKind.all TransformKind.name) = .ok c.kind :=
    withDefault_written spelled (by simp [fields]) (oneOf_transformKind c.kind)
  have expression : required .joined c.fields.entries "expression" (filled "Transform expression cannot be empty") =
      .ok c.expression := required_written spelled (by simp [fields]) given
  have output : withDefault .joined c.fields.entries "output_variable" none (Reading.optional Reading.text) =
      .ok c.outputVariable := withDefault_written spelled (by simp [fields]) text_written
  rw [ofEntries, type, kind, expression, output]
  rfl

theorem DelayConfig.ofEntries_written {c : DelayConfig} (proper : (Task.delay c).IsProper) :
    ofEntries c.fields.entries = .ok c := by
  have spelled : c.fields.IsSpelled := by
    simp only [Record.IsSpelled, fields, List.map]
    decide
  have given : nonNegative (.float c.duration) = .ok c.duration := if_pos proper
  have type : typeOf c.fields.entries .delay = .ok .delay := typeOf_written spelled (by simp [fields, NodeKind.name])
  have duration : required .joined c.fields.entries "duration" nonNegative = .ok c.duration :=
    required_written spelled (by simp [fields]) given
  have unit : withDefault .joined c.fields.entries "unit" .seconds (oneOf DelayUnit.all DelayUnit.name) = .ok c.unit :=
    withDefault_written spelled (by simp [fields]) (oneOf_delayUnit c.unit)
  rw [ofEntries, type, duration, unit]
  rfl

theorem Authentication.read_toData (a : Authentication) : read a.fields.toData = .ok a := by
  have spelled : a.fields.IsSpelled := by
    simp only [Record.IsSpelled, fields, List.map]
    decide
  have scheme : withDefault .joined a.fields.entries "type" .none (oneOf AuthScheme.all AuthScheme.name) = .ok a.scheme :=
    withDefault_written spelled (by simp [fields]) (oneOf_authScheme a.scheme)
  have credentials : withDefault .joined a.fields.entries "credentials" [] (Reading.dict Reading.text) =
      .ok a.credentials :=
    withDefault_written (d := Data.ofTexts a.credentials) spelled (by simp [fields])
      (dict_written .str (fun _ => rfl) a.credentials)
  rw [Record.toData_eq, read, record, scheme, credentials]
  rfl

theorem ApiConfig.ofEntries_written {c : ApiConfig} (proper : (Task.api c).IsProper) :
    ofEntries c.fields.entries = .ok c := by
  have spelled : c.fields.IsSpelled := by
    simp only [Record.IsSpelled, fields, List.map]
    decide
  obtain ⟨trimmed, positive⟩ := proper
  have type : typeOf c.fields.entries .api = .ok .api := typeOf_written spelled (by simp [fields, NodeKind.name])
  have method : withDefault .joined c.fields.entries "method" .get readMethod = .ok c.method :=
    withDefault_written spelled (by simp [fields]) (readMethod_written c.method)
  have url : required .joined c.fields.entries "url" (WorkflowEngine.trimmed "API url cannot be empty") = .ok c.url :=
    required_written spelled (by simp [fields]) (trimmed_written trimmed)
  have headers : withDefault .joined c.fields.entries "headers" none (Reading.optional (Reading.dict Reading.text)) =
      .ok c.headers := by
    refine withDefault_written (d := (c.headers.map Data.ofTexts).getD .null) spelled (by simp [fields]) ?_
    exact optional_written (fun entries _ => dict_written .str (fun _ => rfl) entries) (by rintro _ ⟨⟩)
  have body : withDefault .joined c.fields.entries "body" .null Reading.any = .ok c.body :=
    withDefault_written spelled (by simp [fields]) rfl
  have authentication : withDefault .joined c.fields.entries "authentication" none
      (Reading.optional Authentication.read) = .ok c.authentication := by
    refine withDefault_written (d := (c.authentication.map fun a => a.fields.toData).getD .null) spelled
      (by simp [fields]) ?_
    exact optional_written (fun a _ => Authentication.read_toData a) (by rintro _ ⟨⟩)
  have timeout : withDefault .joined c.fields.entries "timeout" none limit = .ok c.timeout :=
    withDefault_written spelled (by simp [fields]) (limit_written positive)
  rw [ofEntries, type, method, url, headers, body, authentication, timeout]
  rfl

/-- The configuration of a task is read back. -/
theorem Task.read_toData {task : Task} (configured : Node.isBare task.kind = false) (proper : task.IsProper) :
    Task.read task.toData = .ok task := by
  have typed := task.toData_eq
  rw [configured] at typed
  obtain ⟨entries, written, tag⟩ := typed
  have known : ((Data.field? entries "type").getD .null).str?.bind NodeKind.ofName? = some task.kind := by
    rw [tag]
    exact NodeKind.ofName?_name task.kind
  rw [written, Task.read]
  simp only [known]
  cases task with
  | trigger => cases configured
  | ending => cases configured
  | action c =>
      cases (Record.toData_eq c.fields).symm.trans written
      simp only [Task.kind, ofKind, Option.bind_some, ActionConfig.ofEntries_written proper]
      rfl
  | condition c =>
      cases (Record.toData_eq c.fields).symm.trans written
      simp only [Task.kind, ofKind, Option.bind_some, ConditionConfig.ofEntries_written proper]
      rfl
  | transform c =>
      cases (Record.toData_eq c.fields).symm.trans written
      simp only [Task.kind, ofKind, Option.bind_some, TransformConfig.ofEntries_written proper]
      rfl
  | delay c =>
      cases (Record.toData_eq c.fields).symm.trans written
      simp only [Task.kind, ofKind, Option.bind_some, DelayConfig.ofEntries_written proper]
      rfl
  | api c =>
      cases (Record.toData_eq c.fields).symm.trans written
      simp only [Task.kind, ofKind, Option.bind_some, ApiConfig.ofEntries_written proper]
      rfl

/-! ## Nodes and edges -/

namespace Node

variable {n : Node}

/-- The entries that are written for a node. -/
theorem entries_fields (n : Node) : n.fields.entries =
    [(.str "id", .str n.id), (.str "type", .str n.kind.name), (.str "label", .str n.label),
     (.str "config", n.configured.toData)] := by
  have id : spellingOf "id" = "id" := by decide
  have type : spellingOf "type" = "type" := by decide
  have label : spellingOf "label" = "label" := by decide
  have config : spellingOf "config" = "config" := by decide
  simp [fields, Record.entries, id, type, label, config]

/-- What is written of a node has no part that holds others. -/
theorem flatten_written (n : Node) : flatten n.fields.entries = n.fields.entries := by
  rw [entries_fields]
  simp [flatten, Data.field?, Data.str?]

/-- The configuration that is written is right already. -/
theorem tagConfig_written (fitted : n.IsFitted) : tagConfig n.fields.entries = .ok n.fields.entries := by
  have typed : Data.field? n.fields.entries "type" = some (.str n.kind.name) := by
    rw [entries_fields]
    simp [Data.field?, Data.str?]
  have held : Data.field? n.fields.entries "config" = some n.configured.toData := by
    rw [entries_fields]
    simp [Data.field?, Data.str?]
  have bare : (((Data.str n.kind.name).str?.bind NodeKind.ofName?).any isBare) = isBare n.kind := by
    simp [Data.str?, NodeKind.ofName?_name]
  unfold tagConfig
  rw [typed]
  dsimp only [Option.getD_some, typeFault?, Data.unhashable?]
  rw [bare, held]
  unfold IsFitted at fitted
  cases kind : isBare n.kind with
  | true =>
      rw [kind] at fitted
      rw [if_pos rfl, entries_fields, fitted]
      simp [put, Data.field?, Data.str?]
  | false =>
      rw [kind] at fitted
      obtain ⟨entries, written, tag⟩ := fitted
      rw [written]
      simp [tag]

/-- A node without a spare configuration is put together of its parts again. -/
theorem assemble_written (spare : n.spare = none) :
    assemble n.id n.kind n.label (if isBare n.kind then none else some n.task) = .ok n := by
  obtain ⟨id, label, task, _⟩ := n
  cases spare
  cases task <;> rfl

theorem read_toData (proper : n.IsProper) (spare : n.spare = none) : Node.read n.fields.toData = .ok n := by
  have spelled : n.fields.IsSpelled := by
    simp only [Record.IsSpelled, fields, List.map]
    decide
  have own := configured_eq_task spare
  have id : required .joined n.fields.entries "id" (trimmed "Node ID cannot be empty") = .ok n.id :=
    required_written spelled (by simp [fields]) (trimmed_written proper.id)
  have type : required .joined n.fields.entries "type" (member NodeKind.all NodeKind.name) = .ok n.kind :=
    required_written spelled (by simp [fields]) (member_written (NodeKind.ofName?_name n.kind))
  have label : withDefault .joined n.fields.entries "label" "" Reading.text = .ok n.label :=
    withDefault_written (d := .str n.label) spelled (by simp [fields]) rfl
  have config : withDefault .joined n.fields.entries "config" none (Reading.optional Task.read) =
      .ok (if isBare n.kind then none else some n.task) := by
    refine withDefault_written (d := n.configured.toData) spelled (by simp [fields]) ?_
    have typed := n.task.toData_eq
    rw [own]
    change (if isBare n.kind then _ else _) at typed
    cases kind : isBare n.kind with
    | true =>
        rw [kind] at typed
        rw [if_pos rfl] at typed
        rw [typed]
        rfl
    | false =>
        rw [kind] at typed
        obtain ⟨entries, written, -⟩ := typed
        have back := Task.read_toData kind proper.task
        rw [written] at back ⊢
        rw [Reading.optional, back]
        · rfl
        · rintro ⟨⟩
  rw [Record.toData_eq, Node.read, record, flatten_written, tagConfig_written (isFitted_of_spare spare)]
  simp only [ofEntries]
  rw [id, type, label, config]
  exact assemble_written spare

end Node

theorem EdgeCondition.read_toData (c : EdgeCondition) : read c.fields.toData = .ok c := by
  have spelled : c.fields.IsSpelled := by
    simp only [Record.IsSpelled, fields, List.map]
    decide
  have type : required .joined c.fields.entries "type" (oneOf EdgeKind.all EdgeKind.name) = .ok c.kind :=
    required_written spelled (by simp [fields]) (oneOf_edgeKind c.kind)
  have expression : withDefault .joined c.fields.entries "expression" none (Reading.optional Reading.text) =
      .ok c.expression := withDefault_written spelled (by simp [fields]) text_written
  rw [Record.toData_eq, read, record, type, expression]
  rfl

theorem Edge.read_toData (e : Edge) : read e.fields.toData = .ok e := by
  have spelled : e.fields.IsSpelled := by
    simp only [Record.IsSpelled, fields, List.map]
    decide
  have id : required .joined e.fields.entries "id" Reading.text = .ok e.id :=
    required_written (d := .str e.id) spelled (by simp [fields]) rfl
  have source : required .joined e.fields.entries "source" Reading.text = .ok e.source :=
    required_written (d := .str e.source) spelled (by simp [fields]) rfl
  have target : required .joined e.fields.entries "target" Reading.text = .ok e.target :=
    required_written (d := .str e.target) spelled (by simp [fields]) rfl
  have label : withDefault .joined e.fields.entries "label" none (Reading.optional Reading.text) = .ok e.label :=
    withDefault_written spelled (by simp [fields]) text_written
  have condition : withDefault .joined e.fields.entries "condition" none (Reading.optional EdgeCondition.read) =
      .ok e.condition := by
    refine withDefault_written (d := (e.condition.map fun c => c.fields.toData).getD .null) spelled (by simp [fields]) ?_
    exact optional_written (fun c _ => EdgeCondition.read_toData c) (by rintro _ ⟨⟩)
  rw [Record.toData_eq, read, record, id, source, target, label, condition]
  rfl

theorem ErrorHandling.read_toData (h : ErrorHandling) : read h.fields.toData = .ok h := by
  cases h <;> rfl

/-! ## Workflows -/

namespace Workflow

variable {w : Workflow}

/-- A proper definition is read back if no node has a spare configuration. -/
theorem read_toData (proper : w.IsProper) (spare : ∀ n ∈ w.nodes, n.spare = none) :
    Workflow.read w.toData = .ok w := by
  have spelled : w.fields.IsSpelled := by
    simp only [Record.IsSpelled, fields, List.map]
    decide
  have nodes : readNodes (.list (w.nodes.map fun n => n.fields.toData)) = .ok w.nodes := by
    have listed : Reading.list Node.read (.list (w.nodes.map fun n => n.fields.toData)) = .ok w.nodes :=
      list_written fun n member => Node.read_toData (proper.nodes n member) (spare n member)
    rw [readNodes, listed]
    exact if_pos (areDistinct_iff.mpr proper.distinct)
  have edges : Reading.list Edge.read (.list (w.edges.map fun e => e.fields.toData)) = .ok w.edges :=
    list_written fun e _ => Edge.read_toData e
  have id : required .joined w.fields.entries "id" Reading.text = .ok w.id :=
    required_written (d := .str w.id) spelled (by simp [fields]) rfl
  have version : withDefault .joined w.fields.entries "version" 1 Reading.int = .ok w.version :=
    withDefault_written (d := .int w.version) spelled (by simp [fields]) rfl
  have name : withDefault .joined w.fields.entries "name" "" Reading.text = .ok w.name :=
    withDefault_written (d := .str w.name) spelled (by simp [fields]) rfl
  have nodes : withDefault .joined w.fields.entries "nodes" [] readNodes = .ok w.nodes :=
    withDefault_written spelled (by simp [fields]) nodes
  have edges : withDefault .joined w.fields.entries "edges" [] (Reading.list Edge.read) = .ok w.edges :=
    withDefault_written spelled (by simp [fields]) edges
  have settings : withDefault .joined w.fields.entries "settings" .stop ErrorHandling.read = .ok w.errorHandling :=
    withDefault_written spelled (by simp [fields]) (ErrorHandling.read_toData w.errorHandling)
  rw [toData, Record.toData_eq, Workflow.read, record, ofEntries, id, version, name, nodes, edges, settings]
  rfl

/-- A definition that is read is read back from what is written of it, whatever the shape and the spelling of the
document, as long as the types of nodes are given as texts. -/
theorem read_written {d : Data} (given : Workflow.read d = .ok w)
    (words : ∀ item ∈ d.nodeItems, item.hasWordType = true) : Workflow.read w.toData = .ok w := by
  refine read_toData (proper_of_read given) fun n member => ?_
  obtain ⟨item, listed, read⟩ := (each_of_map_eq (parts_of_read given).1).1 n member
  exact Node.spare_of_read read (words item listed)

/-- A definition in several shapes and spellings is read back. -/
theorem read_written_loose : Workflow.read loose = .ok looseRead ∧ Workflow.read looseRead.toData = .ok looseRead :=
  ⟨read_loose, read_written read_loose (by decide)⟩

/-- The configuration of a trigger whose type was given in bytes is not read back. -/
theorem read_written_encoded :
    Workflow.read encoded = .ok encodedRead ∧ Workflow.read encodedRead.toData ≠ .ok encodedRead := by
  have back : Workflow.read encodedRead.toData = .ok ⟨"w", 1, "", [⟨"t", "", .trigger, none⟩], [], .stop⟩ := by cbv
  refine ⟨read_encoded, ?_⟩
  rw [back]
  rintro ⟨⟩

end Workflow

end WorkflowEngine
