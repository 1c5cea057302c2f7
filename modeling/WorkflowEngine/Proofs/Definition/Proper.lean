import WorkflowEngine.Definition.Writer
import WorkflowEngine.Proofs.Definition.References
import WorkflowEngine.Proofs.Walk.Journey

/-!
# Proper definitions

Reading puts a document right and refuses what cannot be put right.  So the ids of the nodes that are read are trimmed
and differ from one another, limits are positive, and the texts that a task needs hold something.  The configuration
of a node fits its kind, unless the type of a trigger or an end is given in bytes: it is looked up among words before it
is decoded, and a configuration that should go then stays as a spare one.
-/

namespace WorkflowEngine

namespace Text

/-- The text holds something, and neither begins nor ends with a blank. -/
structure IsTrimmed (s : String) : Prop where
  filled : s.toList ≠ []
  front : Unicode.isBlank (s.toList.head filled) = false
  back : Unicode.isBlank (s.toList.getLast filled) = false

/-- Trimming leaves something of every text that is not blank, and nothing of a blank one. -/
theorem trimChars_eq_nil_iff {chars : List Char} : trimChars chars = [] ↔ chars.all Unicode.isBlank = true := by
  rw [trimChars_eq, List.rdropWhile_eq_nil_iff, List.all_eq_true]
  constructor
  · intro left c member
    by_contra solid
    have kept : c ∈ chars.dropWhile Unicode.isBlank := by
      rw [← List.takeWhile_append_dropWhile (p := Unicode.isBlank) (l := chars)] at member
      rcases List.mem_append.mp member with gone | kept
      · exact absurd (List.mem_takeWhile_imp gone) solid
      · exact kept
    exact solid (left c kept)
  · intro blank c member
    exact blank c ((List.dropWhile_sublist _).mem member)

/-- A text is trimmed exactly if it is not blank and trimming leaves it as it is. -/
theorem isTrimmed_iff {s : String} : IsTrimmed s ↔ isBlankText s = false ∧ trim s = s := by
  have same : trim s = s ↔ trimChars s.toList = s.toList := by
    rw [trim, ← String.toList_inj, String.toList_ofList]
  rw [same, trimChars_eq]
  constructor
  · rintro ⟨filled, front, back⟩
    have before : s.toList.dropWhile Unicode.isBlank = s.toList := by
      rw [List.dropWhile_eq_self_iff]
      intro long
      rw [← List.head_eq_getElem_zero filled, front]
      exact Bool.false_ne_true
    have behind : s.toList.rdropWhile Unicode.isBlank = s.toList := by
      rw [List.rdropWhile_eq_self_iff]
      intro long
      rw [back]
      exact Bool.false_ne_true
    refine ⟨?_, by rw [before, behind]⟩
    rw [isBlankText, ← Bool.not_eq_true, List.all_eq_true]
    intro blank
    have first := blank _ (List.head_mem filled)
    rw [front] at first
    cases first
  · rintro ⟨solid, kept⟩
    have filled : s.toList ≠ [] := by
      intro empty
      rw [isBlankText, empty] at solid
      cases solid
    have before : s.toList.dropWhile Unicode.isBlank = s.toList := by
      have whole := (List.rdropWhile_prefix Unicode.isBlank (s.toList.dropWhile Unicode.isBlank)).length_le
      rw [kept] at whole
      exact (List.dropWhile_sublist _).eq_of_length_le whole
    have behind : s.toList.rdropWhile Unicode.isBlank = s.toList := by
      rw [before] at kept
      exact kept
    refine ⟨filled, ?_, ?_⟩
    · have first := List.dropWhile_eq_self_iff.mp before (List.length_pos_iff.mpr filled)
      rw [← List.head_eq_getElem_zero filled] at first
      exact Bool.eq_false_iff.mpr first
    · exact Bool.eq_false_iff.mpr (List.rdropWhile_eq_self_iff.mp behind filled)

/-- Trimming leaves a trimmed text of every text that is not blank. -/
theorem isTrimmed_trim {s : String} (held : isBlankText s = false) : IsTrimmed (trim s) := by
  have again : trimChars (trim s).toList = trimChars s.toList := by
    have twice := congrArg String.toList (trim_trim s)
    rw [trim, String.toList_ofList] at twice
    exact twice.trans String.toList_ofList
  refine isTrimmed_iff.mpr ⟨?_, trim_trim s⟩
  cases blank : isBlankText (trim s) with
  | false => rfl
  | true =>
      have gone : trimChars (trim s).toList = [] := trimChars_eq_nil_iff.mpr blank
      rw [again] at gone
      have empty : isBlankText s = true := trimChars_eq_nil_iff.mp gone
      rw [empty] at held
      cases held

end Text

/-! ## What is proper -/

/-- The condition names a variable, and its operator is known. -/
structure Condition.IsProper (c : Condition) : Prop where
  subject : Text.IsTrimmed c.subject
  operator : c.operator ∈ Operator.known

/-- A limit, where there is one, is positive. -/
def IsPositiveLimit (limit : Option Int) : Prop :=
  ∀ i, limit = some i → 0 < i

/-- The configuration of a task is complete, and its parts lie within their bounds. -/
def Task.IsProper : Task → Prop
  | .trigger => True
  | .action c => IsPositiveLimit c.timeout
  | .condition c => ∀ x ∈ c.conditions, x.IsProper
  | .transform c => Text.isBlankText c.expression = false
  | .delay c => 0.0 ≤ c.duration
  | .api c => Text.IsTrimmed c.url ∧ IsPositiveLimit c.timeout
  | .ending => True

namespace Node

/-- The node has a trimmed id and a proper task.  A spare configuration stands on a bare node only, and is proper. -/
structure IsProper (n : Node) : Prop where
  id : Text.IsTrimmed n.id
  task : n.task.IsProper
  spare : ∀ task, n.spare = some task → isBare n.kind = true ∧ isBare task.kind = false ∧ task.IsProper

/-- The configuration that is written for the node fits its kind: there is none for a trigger or an end, and any other
node has one that says the kind of the node as its type. -/
def IsFitted (n : Node) : Prop :=
  if isBare n.kind then n.configured.toData = .null
  else ∃ entries, n.configured.toData = .dict entries ∧ Data.field? entries "type" = some (.str n.kind.name)

end Node

/-- All nodes are proper, and their ids differ. -/
structure Workflow.IsProper (w : Workflow) : Prop where
  nodes : ∀ n ∈ w.nodes, n.IsProper
  distinct : w.nodeIds.Nodup

open Reading

/-! ## Readers -/

section Readers

variable {α : Type} {s : Spelling} {entries : Entries} {name : String} {read : Data → Reading α} {a : α} {d : Data}

theorem read_of_required (given : required s entries name read = .ok a) : ∃ d, read d = .ok a := by
  unfold Reading.required at given
  split at given
  · exact ⟨_, inside_eq_ok given⟩
  · cases given

theorem read_of_withDefault {fallback : α} (given : withDefault s entries name fallback read = .ok a) :
    a = fallback ∨ ∃ d, read d = .ok a := by
  unfold Reading.withDefault at given
  split at given
  · exact .inr ⟨_, inside_eq_ok given⟩
  · cases given
    exact .inl rfl

theorem optional_eq_ok {found : Option α} (given : Reading.optional read d = .ok found) :
    found = none ∨ ∃ a, found = some a ∧ read d = .ok a := by
  unfold Reading.optional at given
  split at given
  · cases given
    exact .inl rfl
  · obtain ⟨a, held, rfl⟩ := map_eq_ok given
    exact .inr ⟨a, rfl, held⟩

theorem isTrimmed_of_trimmed {complaint t : String} (given : trimmed complaint d = .ok t) : Text.IsTrimmed t := by
  obtain ⟨whole, -, kept⟩ := check_eq_ok given
  cases held : Text.isBlankText whole with
  | true =>
      rw [held] at kept
      cases kept
  | false =>
      rw [held] at kept
      cases kept
      exact Text.isTrimmed_trim held

theorem isPositiveLimit_of_limit {found : Option Int} (given : limit d = .ok found) : IsPositiveLimit found := by
  obtain ⟨whole, -, kept⟩ := check_eq_ok given
  cases whole with
  | none =>
      cases kept
      rintro i ⟨⟩
  | some i =>
      dsimp only at kept
      split at kept
      · cases kept
      · cases kept
        rintro j ⟨⟩
        omega

theorem isPositiveLimit_of_withDefault {found : Option Int} (given : withDefault s entries name none limit = .ok found) :
    IsPositiveLimit found := by
  rcases read_of_withDefault given with rfl | ⟨d, held⟩
  · rintro i ⟨⟩
  · exact isPositiveLimit_of_limit held

theorem mem_of_oneOf {all : List α} {name : α → String} (given : oneOf all name d = .ok a) : a ∈ all := by
  unfold oneOf at given
  split at given
  · split at given
    · split at given
      · rename_i found
        cases given
        exact List.mem_of_find?_eq_some found
      · cases given
    · cases given
  · cases given

/-- A member is found by the text that names it. -/
theorem member_eq_ok {all : List α} {name : α → String} (given : member all name d = .ok a) :
    ∃ s, Reading.text d = .ok s ∧ all.find? (fun a => name a == s) = some a := by
  unfold member at given
  cases worded : Reading.text d with
  | ok s =>
      rw [worded] at given
      dsimp only at given
      cases found : all.find? fun a => name a == s with
      | none =>
          rw [found] at given
          cases given
      | some b =>
          rw [found] at given
          cases given
          exact ⟨s, rfl, found⟩
  | refused issues =>
      rw [worded] at given
      cases given
  | failed f =>
      rw [worded] at given
      cases given

end Readers

namespace Condition

theorem proper_of_read {d : Data} {c : Condition} (given : read d = .ok c) : c.IsProper := by
  obtain ⟨entries, rfl, body⟩ := record_eq_ok given
  obtain ⟨_, _, three, -, rfl⟩ := seq_eq_ok body
  obtain ⟨_, _, two, -, rfl⟩ := seq_eq_ok three
  obtain ⟨_, operator, one, chosen, rfl⟩ := seq_eq_ok two
  obtain ⟨subject, named, rfl⟩ := map_eq_ok one
  obtain ⟨_, known⟩ := read_of_required chosen
  obtain ⟨_, held⟩ := read_of_required named
  exact ⟨isTrimmed_of_trimmed held, mem_of_oneOf known⟩

end Condition

/-! ## Configurations -/

section Configurations

variable {entries : Entries}

theorem ActionConfig.isProper_of_entries {c : ActionConfig} (given : ofEntries entries = .ok c) :
    (Task.action c).IsProper := by
  obtain ⟨_, timeout, three, limited, rfl⟩ := seq_eq_ok given
  obtain ⟨_, parameters, two, -, rfl⟩ := seq_eq_ok three
  obtain ⟨_, actionType, one, -, rfl⟩ := seq_eq_ok two
  obtain ⟨_, -, rfl⟩ := map_eq_ok one
  exact isPositiveLimit_of_withDefault limited

theorem ConditionConfig.isProper_of_entries {c : ConditionConfig} (given : ofEntries entries = .ok c) :
    (Task.condition c).IsProper := by
  obtain ⟨_, junction, two, -, rfl⟩ := seq_eq_ok given
  obtain ⟨_, conditions, one, listed, rfl⟩ := seq_eq_ok two
  obtain ⟨_, -, rfl⟩ := map_eq_ok one
  intro c member
  rcases read_of_withDefault listed with rfl | ⟨d, read⟩
  · cases member
  · obtain ⟨items, -, each⟩ := list_eq_ok reasoned.condition read
    obtain ⟨item, -, found⟩ := (each_of_map_eq each).1 c member
    exact Condition.proper_of_read found

theorem TransformConfig.isProper_of_entries {c : TransformConfig} (given : ofEntries entries = .ok c) :
    (Task.transform c).IsProper := by
  obtain ⟨_, outputVariable, three, -, rfl⟩ := seq_eq_ok given
  obtain ⟨_, expression, two, written, rfl⟩ := seq_eq_ok three
  obtain ⟨_, kind, one, -, rfl⟩ := seq_eq_ok two
  obtain ⟨_, -, rfl⟩ := map_eq_ok one
  obtain ⟨d, held⟩ := read_of_required written
  obtain ⟨text, -, kept⟩ := check_eq_ok held
  cases blank : Text.isBlankText text with
  | true =>
      rw [blank] at kept
      cases kept
  | false =>
      rw [blank] at kept
      cases kept
      exact blank

theorem DelayConfig.isProper_of_entries {c : DelayConfig} (given : ofEntries entries = .ok c) :
    (Task.delay c).IsProper := by
  obtain ⟨_, unit, two, -, rfl⟩ := seq_eq_ok given
  obtain ⟨_, duration, one, long, rfl⟩ := seq_eq_ok two
  obtain ⟨_, -, rfl⟩ := map_eq_ok one
  obtain ⟨d, held⟩ := read_of_required long
  obtain ⟨x, -, kept⟩ := check_eq_ok held
  split at kept
  · cases kept
    assumption
  · cases kept

theorem ApiConfig.isProper_of_entries {c : ApiConfig} (given : ofEntries entries = .ok c) :
    (Task.api c).IsProper := by
  obtain ⟨_, timeout, six, limited, rfl⟩ := seq_eq_ok given
  obtain ⟨_, authentication, five, -, rfl⟩ := seq_eq_ok six
  obtain ⟨_, body, four, -, rfl⟩ := seq_eq_ok five
  obtain ⟨_, headers, three, -, rfl⟩ := seq_eq_ok four
  obtain ⟨_, url, two, addressed, rfl⟩ := seq_eq_ok three
  obtain ⟨_, method, one, -, rfl⟩ := seq_eq_ok two
  obtain ⟨_, -, rfl⟩ := map_eq_ok one
  obtain ⟨d, held⟩ := read_of_required addressed
  exact ⟨isTrimmed_of_trimmed held, isPositiveLimit_of_withDefault limited⟩

/-- A configuration that is read is complete, and is not that of a bare node. -/
theorem Task.proper_of_read {d : Data} {task : Task} (given : Task.read d = .ok task) :
    Node.isBare task.kind = false ∧ task.IsProper := by
  unfold Task.read at given
  cases d with
  | dict entries =>
      dsimp only at given
      cases tagged : ((Data.field? entries "type").getD .null).str?.bind NodeKind.ofName? with
      | none =>
          rw [tagged] at given
          cases given
      | some k =>
          rw [tagged] at given
          cases k with
          | action =>
              obtain ⟨c, read, rfl⟩ := map_eq_ok (inside_eq_ok given)
              exact ⟨rfl, ActionConfig.isProper_of_entries read⟩
          | condition =>
              obtain ⟨c, read, rfl⟩ := map_eq_ok (inside_eq_ok given)
              exact ⟨rfl, ConditionConfig.isProper_of_entries read⟩
          | transform =>
              obtain ⟨c, read, rfl⟩ := map_eq_ok (inside_eq_ok given)
              exact ⟨rfl, TransformConfig.isProper_of_entries read⟩
          | delay =>
              obtain ⟨c, read, rfl⟩ := map_eq_ok (inside_eq_ok given)
              exact ⟨rfl, DelayConfig.isProper_of_entries read⟩
          | api =>
              obtain ⟨c, read, rfl⟩ := map_eq_ok (inside_eq_ok given)
              exact ⟨rfl, ApiConfig.isProper_of_entries read⟩
          | trigger => cases given
          | ending => cases given
  | _ => cases given

end Configurations

/-! ## Nodes -/

/-- The type of a node in a document is given as a text. -/
def Data.hasWordType (d : Data) : Bool :=
  ((d.dict?.bind fun entries => field? entries "type").bind str?).isSome

namespace Node

/-- What is put under a name stands there. -/
theorem field?_put_self (entries : Entries) (key : String) (value : Data) :
    Data.field? (put entries key value) key = some value := by
  unfold put
  split
  · rename_i stands
    unfold Data.field? at stands ⊢
    rw [Option.isSome_map, List.find?_isSome] at stands
    obtain ⟨e, listed, named⟩ := stands
    have kept : ((fun e : Data × Data => e.1.str? == some key) ∘
        fun e => if e.1.str? == some key then (e.1, value) else e) = fun e => e.1.str? == some key := by
      funext e
      simp only [Function.comp_apply]
      split <;> rfl
    rw [List.find?_map, kept, Option.map_map]
    have hits : (entries.find? fun e => e.1.str? == some key).isSome = true := List.find?_isSome.mpr ⟨e, listed, named⟩
    obtain ⟨first, found⟩ := Option.isSome_iff_exists.mp hits
    have hit := List.find?_some found
    rw [found, Option.map_some, Function.comp_apply, if_pos hit]
  · rename_i absent
    unfold Data.field? at absent ⊢
    rw [Option.isSome_map, Bool.not_eq_true, Option.isSome_eq_false_iff, Option.isNone_iff_eq_none] at absent
    rw [List.find?_append, absent]
    simp [Data.str?]

/-- A node is put together of its parts. -/
theorem assemble_eq_ok {id label : String} {kind : NodeKind} {config : Option Task} {n : Node}
    (given : assemble id kind label config = .ok n) :
    n.id = id ∧ n.kind = kind ∧
      (isBare kind = true ∧ n.spare = config ∨ isBare kind = false ∧ n.spare = none ∧ config = some n.task) := by
  unfold assemble at given
  split at given
  · cases given
    exact ⟨rfl, rfl, .inl ⟨rfl, rfl⟩⟩
  · cases given
    exact ⟨rfl, rfl, .inl ⟨rfl, rfl⟩⟩
  · rename_i trigger ending
    have bare : isBare kind = false := by
      cases kind with
      | trigger => exact absurd rfl trigger
      | ending => exact absurd rfl ending
      | _ => rfl
    split at given
    · cases given
    · split at given
      · rename_i task fits
        cases given
        exact ⟨rfl, eq_of_beq fits, .inr ⟨bare, rfl, rfl⟩⟩
      · cases given

/-- The configuration of a bare node goes if the type of the node is given as a text. -/
theorem field?_tagConfig_bare {entries tagged : Entries} {word : String} {kind : NodeKind}
    (typed : Data.field? entries "type" = some (.str word)) (named : NodeKind.ofName? word = some kind)
    (bare : isBare kind = true) (done : tagConfig entries = .ok tagged) :
    Data.field? tagged "config" = some .null := by
  have any : (((Data.str word).str?.bind NodeKind.ofName?).any isBare) = true := by
    simp [Data.str?, named, bare]
  unfold tagConfig at done
  rw [typed] at done
  dsimp only [Option.getD_some] at done
  rw [if_pos any] at done
  cases done
  exact field?_put_self entries "config" .null

/-- A node is read from its id, its type, its label and its configuration, once that is put right. -/
theorem parts_of_read {d : Data} {n : Node} (given : Node.read d = .ok n) :
    ∃ entries tagged id kind label config, d = .dict entries ∧ tagConfig (flatten entries) = .ok tagged ∧
      required .joined tagged "id" (trimmed "Node ID cannot be empty") = .ok id ∧
      required .joined tagged "type" (member NodeKind.all NodeKind.name) = .ok kind ∧
      withDefault .joined tagged "config" none (Reading.optional Task.read) = .ok config ∧
      assemble id kind label config = .ok n := by
  obtain ⟨entries, rfl, body⟩ := record_eq_ok given
  cases done : tagConfig (flatten entries) with
  | error f =>
      rw [done] at body
      cases body
  | ok tagged =>
      rw [done] at body
      obtain ⟨parts, listed, assembled⟩ := check_eq_ok body
      obtain ⟨_, config, three, held, rfl⟩ := seq_eq_ok listed
      obtain ⟨_, label, two, -, rfl⟩ := seq_eq_ok three
      obtain ⟨_, kind, one, typed, rfl⟩ := seq_eq_ok two
      obtain ⟨id, named, rfl⟩ := map_eq_ok one
      exact ⟨entries, tagged, id, kind, label, config, rfl, done, named, typed, held, assembled⟩

theorem proper_of_read {d : Data} {n : Node} (given : Node.read d = .ok n) : n.IsProper := by
  obtain ⟨entries, tagged, id, kind, label, config, rfl, done, named, typed, held, assembled⟩ := parts_of_read given
  obtain ⟨rfl, rfl, fits⟩ := assemble_eq_ok assembled
  obtain ⟨_, trimmed⟩ := read_of_required named
  have configured : ∀ task, config = some task → isBare task.kind = false ∧ task.IsProper := by
    rintro task rfl
    rcases read_of_withDefault held with missing | ⟨d, read⟩
    · cases missing
    · rcases optional_eq_ok read with missing | ⟨_, same, read⟩
      · cases missing
      · cases same
        exact Task.proper_of_read read
  refine ⟨isTrimmed_of_trimmed trimmed, ?_, ?_⟩
  · rcases fits with ⟨bare, -⟩ | ⟨-, -, given⟩
    · unfold Node.kind at bare
      cases task : n.task with
      | trigger => trivial
      | ending => trivial
      | _ =>
          rw [task] at bare
          cases bare
    · exact (configured _ given).2
  · intro task spare
    rcases fits with ⟨bare, same⟩ | ⟨-, none, -⟩
    · obtain ⟨other, proper⟩ := configured task (same.symm.trans spare)
      exact ⟨bare, other, proper⟩
    · cases none.symm.trans spare

/-- No configuration is left over where the type of the node is given as a text. -/
theorem spare_of_read {d : Data} {n : Node} (given : Node.read d = .ok n) (words : d.hasWordType = true) :
    n.spare = none := by
  obtain ⟨entries, tagged, id, kind, label, config, rfl, done, -, typed, held, assembled⟩ := parts_of_read given
  obtain ⟨-, -, fits⟩ := assemble_eq_ok assembled
  rcases fits with ⟨bare, same⟩ | ⟨-, none, -⟩
  · obtain ⟨d, found, read⟩ := field_of_required (by decide) typed
    rw [field?_tagConfig (by decide) done] at found
    have stands := found
    rw [field?_flatten (by decide) (by decide) (by decide)] at stands
    obtain ⟨word, rfl⟩ : ∃ word, d = .str word := by
      cases d with
      | str word => exact ⟨word, rfl⟩
      | _ => simp [Data.hasWordType, Data.dict?, stands, Data.str?] at words
    obtain ⟨s, worded, known⟩ := member_eq_ok read
    cases worded
    have gone := field?_tagConfig_bare found known bare done
    rcases field_of_withDefault (by decide) held with ⟨absent, -⟩ | ⟨d, there, read⟩
    · cases gone.symm.trans absent
    · cases gone.symm.trans there
      cases read
      exact same
  · exact none

end Node

/-- A configuration that is written is that of its task, and a bare task has none. -/
theorem Task.toData_eq (task : Task) :
    if Node.isBare task.kind then task.toData = .null
    else ∃ entries, task.toData = .dict entries ∧ Data.field? entries "type" = some (.str task.kind.name) := by
  cases task with
  | trigger => rfl
  | ending => rfl
  | _ => exact ⟨_, rfl, by cbv⟩

/-- Without a spare configuration, the one that is written for a node is that of its own task. -/
theorem Node.configured_eq_task {n : Node} (none : n.spare = none) : n.configured = n.task := by
  rw [configured, none]
  cases n.task <;> rfl

/-- The configuration that is written for a node fits unless there is a spare one. -/
theorem Node.isFitted_of_spare {n : Node} (none : n.spare = none) : n.IsFitted := by
  rw [IsFitted, configured_eq_task none]
  exact Task.toData_eq n.task

/-- The node is what is read of a part of a document: its id stands there up to blanks around it, its kind is named
there, and the configuration that is written for it fits if the type is given as a text. -/
structure Node.Renders (n : Node) (d : Data) : Prop where
  id : ∃ s, d.textUnder? "id" = some s ∧ n.id = Text.trim s
  kind : d.textUnder? "type" = some n.kind.name
  fitted : d.hasWordType = true → n.IsFitted

theorem Node.renders_of_read {d : Data} {n : Node} (given : Node.read d = .ok n) : n.Renders d := by
  refine ⟨Node.id_of_read given, ?_, fun words => Node.isFitted_of_spare (Node.spare_of_read given words)⟩
  obtain ⟨entries, tagged, id, kind, label, config, rfl, done, -, typed, -, assembled⟩ := Node.parts_of_read given
  obtain ⟨-, rfl, -⟩ := Node.assemble_eq_ok assembled
  obtain ⟨d, found, read⟩ := field_of_required (by decide) typed
  rw [Node.field?_tagConfig (by decide) done, Node.field?_flatten (by decide) (by decide) (by decide)] at found
  obtain ⟨s, worded, known⟩ := member_eq_ok read
  have same : n.kind.name = s := by simpa using List.find?_some known
  exact same ▸ Data.textUnder?_eq found worded

namespace Workflow

variable {d : Data} {w : Workflow}

/-- The nodes of a workflow are read one by one. -/
theorem nodes_of_read (given : Workflow.read d = .ok w) :
    List.Forall₂ (fun n item => Node.read item = .ok n) w.nodes d.nodeItems := by
  have each : List.Forall₂ (fun a b => b = a) (w.nodes.map Reading.ok) (d.nodeItems.map Node.read) := by
    rw [(parts_of_read given).1]
    exact List.forall₂_same.mpr fun _ _ => rfl
  rw [List.forall₂_map_left_iff, List.forall₂_map_right_iff] at each
  exact each

/-- The ids of the nodes that are read differ. -/
theorem nodup_of_read (given : Workflow.read d = .ok w) : w.nodeIds.Nodup := by
  obtain ⟨entries, -, named, -⟩ := read_eq_ok given
  rcases read_of_withDefault named with none | ⟨held, read⟩
  · rw [nodeIds, none]
    exact List.nodup_nil
  · exact areDistinct_iff.mp (readNodes_eq_ok read).2

theorem proper_of_read (given : Workflow.read d = .ok w) : w.IsProper := by
  refine ⟨fun n listed => ?_, nodup_of_read given⟩
  obtain ⟨item, -, read⟩ := (each_of_map_eq (parts_of_read given).1).1 n listed
  exact Node.proper_of_read read

/-- A definition that is read is proper, and each of its nodes renders its part of the document. -/
theorem isProper_of_read (given : Workflow.read d = .ok w) :
    w.IsProper ∧ List.Forall₂ Node.Renders w.nodes d.nodeItems := by
  refine ⟨proper_of_read given, ?_⟩
  exact (nodes_of_read given).imp fun n item read => Node.renders_of_read read

/-- The document of a workflow in which nodes are given in several shapes, with names spelled in both ways, blanks
around texts, and letters of either case. -/
def loose : Data :=
  .ofFields
    [("id", .str "w"),
     ("nodes", .list
       [.ofFields [("id", .str " t "), ("type", .str "trigger"), ("config", .ofFields [("type", .str "api")])],
        .ofFields
          [("id", .str "c"), ("type", .str "condition"),
           ("data", .ofFields
             [("label", .str "Choose"),
              ("config", .ofFields
                [("conditions", .list
                  [.ofFields [("variable", .str " a.b "), ("operator", .str "equals"), ("caseSensitive", .int 0)]])])])],
        .ofFields
          [("id", .str "x"), ("type", .str "transform"),
           ("config", .ofFields [("expression", .str " a "), ("output_variable", .str "y"), ("type", .str "transform")])],
        .ofFields
          [("id", .str "p\n"), ("type", .str "api"),
           ("config", .ofFields [("url", .str " u "), ("method", .str "post"), ("timeout", .bool true)])]]),
     ("settings", .ofFields [("error_handling", .str "continue")])]

/-- What is read of it. -/
def looseRead : Workflow :=
  ⟨"w", 1, "",
    [⟨"t", "", .trigger, none⟩,
     ⟨"c", "Choose", .condition ⟨[⟨"a.b", .equals, .null, false⟩], .every⟩, none⟩,
     ⟨"x", "", .transform ⟨.map, " a ", some "y"⟩, none⟩,
     ⟨"p", "", .api ⟨.post, "u", none, .null, none, some 1⟩, none⟩],
    [], .continue⟩

theorem read_loose : Workflow.read loose = .ok looseRead := by
  cbv

/-- The nodes of such a document are put right. -/
theorem isProper_of_read_loose :
    Workflow.read loose = .ok looseRead ∧ looseRead.IsProper ∧ List.Forall₂ Node.Renders looseRead.nodes loose.nodeItems :=
  ⟨read_loose, isProper_of_read read_loose⟩

/-- The document of a workflow with a trigger whose type is given in bytes beside a configuration. -/
def encoded : Data :=
  .ofFields
    [("id", .str "w"),
     ("nodes", .list
       [.ofFields
         [("id", .str "t"), ("type", .bytes [116, 114, 105, 103, 103, 101, 114]),
          ("config", .ofFields [("type", .str "action"), ("actionType", .str "log")])]])]

/-- What is read of it, where the trigger has a configuration. -/
def encodedRead : Workflow :=
  ⟨"w", 1, "", [⟨"t", "", .trigger, some (.action ⟨"log", [], none⟩)⟩], [], .stop⟩

theorem read_encoded : Workflow.read encoded = .ok encodedRead := by
  cbv

/-- A trigger may have a configuration, so that nodes without one are not told by their kinds. -/
theorem unfitted_encoded :
    Workflow.read encoded = .ok encodedRead ∧
      ∃ n ∈ encodedRead.nodes, n.kind = .trigger ∧ n.configured.toData ≠ .null := by
  refine ⟨read_encoded, _, List.mem_singleton_self _, rfl, ?_⟩
  rintro ⟨⟩

end Workflow

end WorkflowEngine
