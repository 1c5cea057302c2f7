import Mathlib.Data.List.DropRight
import WorkflowEngine.Proofs.Definition.Fault
import WorkflowEngine.Proofs.Reading.Reason
import WorkflowEngine.Proofs.Reading.Telling
import WorkflowEngine.Proofs.Validation.Findings

/-!
# References by id

A document names its nodes by ids, and its edges refer to them.  Reading trims the id of a node and leaves the ends of
an edge as they are written.  `Workflow.missing_iff_padded` says which references that breaks: those that are written
with blanks at one end.
-/

namespace WorkflowEngine

namespace Text

theorem trimChars_eq (chars : List Char) :
    trimChars chars = (chars.dropWhile Unicode.isBlank).rdropWhile Unicode.isBlank := by
  rw [trimChars, dropBlanks, dropBlanks, List.rdropWhile]

/-- Where no blanks stand in front, none do when those behind are gone. -/
theorem dropWhile_rdropWhile {p : Char → Bool} {chars : List Char} (front : chars.dropWhile p = chars) :
    (chars.rdropWhile p).dropWhile p = chars.rdropWhile p := by
  cases kept : chars.rdropWhile p with
  | nil => rfl
  | cons c rest =>
      obtain ⟨gone, whole⟩ := kept ▸ List.rdropWhile_prefix p chars
      have solid : p c = false := by
        rw [← whole, List.cons_append, List.dropWhile_cons] at front
        split at front
        · have shorter := (List.dropWhile_sublist p (l := rest ++ gone)).length_le
          rw [front, List.length_cons] at shorter
          omega
        · exact Bool.eq_false_iff.mpr ‹_›
      rw [List.dropWhile_cons, solid, if_neg Bool.false_ne_true]

/-- What is trimmed has no blanks left at its ends. -/
theorem trim_trim (s : String) : trim (trim s) = trim s := by
  have front := List.dropWhile_idempotent Unicode.isBlank s.toList
  rw [trim, trim, String.toList_ofList, trimChars_eq s.toList, trimChars_eq, dropWhile_rdropWhile front,
    List.rdropWhile_idempotent]

end Text

open Reading

/-- A node that is refused is refused for a reason. -/
theorem Node.hasReason_read (d : Data) : (Node.read d).HasReason := by
  refine reasoned.record (fun entries => ?_) _ d
  split
  · exact reasoned.nodeEntries _
  · exact nofun

/-! ## What is written -/

namespace Data

/-- The text that stands under a name in a document. -/
def textUnder? (d : Data) (name : String) : Option String :=
  match (d.dict?.bind fun entries => field? entries name).map Reading.text with
  | some (.ok s) => some s
  | _ => none

/-- The items of a workflow in a document that are to be edges. -/
def edgeItems (d : Data) : List Data :=
  ((d.dict?.bind fun entries => field? entries "edges").bind items?).getD []

/-- The ends of an edge in a document. -/
def ends (d : Data) : List String :=
  ["source", "target"].filterMap d.textUnder?

theorem textUnder?_eq {entries : Entries} {name s : String} {d : Data} (found : field? entries name = some d)
    (given : Reading.text d = .ok s) : (Data.dict entries).textUnder? name = some s := by
  simp [textUnder?, dict?, found, given]

end Data

/-- A node is named by what stands under its id, without the blanks around it. -/
theorem Node.id_of_read {d : Data} {n : Node} (given : Node.read d = .ok n) :
    ∃ s, d.textUnder? "id" = some s ∧ n.id = Text.trim s := by
  obtain ⟨entries, rfl, body⟩ := record_eq_ok given
  cases done : tagConfig (flatten entries) with
  | error f =>
      rw [done] at body
      cases body
  | ok tagged =>
      rw [done] at body
      obtain ⟨parts, listed, assembled⟩ := check_eq_ok body
      obtain ⟨_, config, three, -, rfl⟩ := seq_eq_ok listed
      obtain ⟨_, label, two, -, rfl⟩ := seq_eq_ok three
      obtain ⟨_, kind, one, -, rfl⟩ := seq_eq_ok two
      obtain ⟨id, named, rfl⟩ := map_eq_ok one
      obtain ⟨held, found, trimmed⟩ := field_of_required (by decide) named
      rw [field?_tagConfig (by decide) done, field?_flatten (by decide) (by decide) (by decide)] at found
      obtain ⟨s, whole, kept⟩ := check_eq_ok trimmed
      refine ⟨s, Data.textUnder?_eq found whole, ?_⟩
      have same : n.id = id := by
        dsimp only at assembled
        unfold assemble at assembled
        repeat' split at assembled
        all_goals cases assembled
        all_goals rfl
      split at kept
      · cases kept
      · cases kept
        exact same

/-- An edge is read as it is written. -/
theorem Edge.ends_of_read {d : Data} {e : Edge} (given : Edge.read d = .ok e) :
    d.textUnder? "id" = some e.id ∧ d.ends = [e.source, e.target] := by
  obtain ⟨entries, rfl, body⟩ := record_eq_ok given
  obtain ⟨_, condition, four, -, rfl⟩ := seq_eq_ok body
  obtain ⟨_, label, three, -, rfl⟩ := seq_eq_ok four
  obtain ⟨_, target, two, last, rfl⟩ := seq_eq_ok three
  obtain ⟨_, source, one, first, rfl⟩ := seq_eq_ok two
  obtain ⟨id, named, rfl⟩ := map_eq_ok one
  have written {name s : String} (same : spellingOf name = name)
      (given : required .joined entries name text = .ok s) : (Data.dict entries).textUnder? name = some s := by
    obtain ⟨held, found, whole⟩ := field_of_required same given
    exact Data.textUnder?_eq found whole
  refine ⟨written (by decide) named, ?_⟩
  simp [Data.ends, written (by decide) first, written (by decide) last]

namespace Workflow

variable {d : Data} {w : Workflow}

/-- The nodes and the edges of a workflow are read from the fields of its document. -/
theorem read_eq_ok (given : Workflow.read d = .ok w) :
    ∃ entries, d = .dict entries ∧ withDefault .joined entries "nodes" [] readNodes = .ok w.nodes ∧
      withDefault .joined entries "edges" [] (list Edge.read) = .ok w.edges := by
  obtain ⟨entries, rfl, body⟩ := record_eq_ok given
  obtain ⟨_, settings, five, -, rfl⟩ := seq_eq_ok body
  obtain ⟨_, edges, four, joined, rfl⟩ := seq_eq_ok five
  obtain ⟨_, nodes, three, named, rfl⟩ := seq_eq_ok four
  obtain ⟨_, name, two, -, rfl⟩ := seq_eq_ok three
  obtain ⟨_, version, one, -, rfl⟩ := seq_eq_ok two
  obtain ⟨id, -, rfl⟩ := map_eq_ok one
  exact ⟨entries, rfl, named, joined⟩

/-- Nodes that are read are read one by one, and their ids differ. -/
theorem readNodes_eq_ok {nodes : List Node} (read : readNodes d = .ok nodes) :
    list Node.read d = .ok nodes ∧ areDistinct (nodes.map Node.id) = true := by
  obtain ⟨all, listed, distinct⟩ := check_eq_ok read
  split at distinct
  · rename_i differ
    cases distinct
    exact ⟨listed, differ⟩
  · cases distinct

/-- The nodes and the edges of a workflow are read item by item. -/
theorem parts_of_read (given : Workflow.read d = .ok w) :
    d.nodeItems.map Node.read = w.nodes.map .ok ∧ d.edgeItems.map Edge.read = w.edges.map .ok := by
  obtain ⟨entries, rfl, named, joined⟩ := read_eq_ok given
  constructor
  · rcases field_of_withDefault (by decide) named with ⟨lacking, none⟩ | ⟨held, found, read⟩
    · simp [Data.nodeItems, Data.dict?, lacking, none]
    · obtain ⟨items, whole, each⟩ := list_eq_ok Node.hasReason_read (readNodes_eq_ok read).1
      simpa [Data.nodeItems, Data.dict?, found, whole] using each
  · rcases field_of_withDefault (by decide) joined with ⟨lacking, none⟩ | ⟨held, found, read⟩
    · simp [Data.edgeItems, Data.dict?, lacking, none]
    · obtain ⟨items, whole, each⟩ := list_eq_ok reasoned.edge read
      simpa [Data.edgeItems, Data.dict?, found, whole] using each

/-- The check complains about an edge exactly if one of its ends is no node. -/
theorem reports_edge_iff {report : Report} (checked : w.validate = .ok report) (id : String) :
    (∃ x ∈ report.errors, x.kind = .missingConnection ∧ x.edgeId = some id) ↔
      ∃ e ∈ w.edges, e.id = id ∧ ¬(e.source ∈ w.nodeIds ∧ e.target ∈ w.nodeIds) := by
  obtain ⟨expressions, found, rfl⟩ := validate_eq_ok checked
  constructor
  · rintro ⟨x, listed, kind, named⟩
    simp only [Report.of, List.mem_append] at listed
    rcases listed with ((listed | listed) | listed) | listed
    · cases (edgeId_of_mem_triggerErrors listed).symm.trans named
    · obtain ⟨e, member, complaint⟩ := List.mem_flatMap.mp listed
      refine ⟨e, member, Option.some.inj ((of_mem_endErrors complaint).2.symm.trans named), fun joined => ?_⟩
      rw [endErrors_eq_nil_iff.mpr joined] at complaint
      cases complaint
    · cases (kind_of_mem_cycleErrors listed).symm.trans kind
    · cases (kind_of_mem_expressionErrors found listed).symm.trans kind
  · rintro ⟨e, member, rfl, apart⟩
    obtain ⟨x, complaint⟩ := List.exists_mem_of_ne_nil _ (mt endErrors_eq_nil_iff.mp apart)
    have listed : x ∈ w.edgeErrors := List.mem_flatMap.mpr ⟨e, member, complaint⟩
    exact ⟨x, by simp [Report.of, listed], of_mem_endErrors complaint⟩

/-- An id that is written on a node is the id of a node exactly if it has no blanks around it. -/
theorem mem_nodeIds_iff (given : Workflow.read d = .ok w) {s : String}
    (written : ∃ node ∈ d.nodeItems, node.textUnder? "id" = some s) : s ∈ w.nodeIds ↔ Text.trim s = s := by
  obtain ⟨from_item, to_node⟩ := each_of_map_eq (parts_of_read given).1
  constructor
  · intro listed
    obtain ⟨n, member, rfl⟩ := List.mem_map.mp listed
    obtain ⟨item, -, read⟩ := from_item n member
    obtain ⟨t, -, named⟩ := Node.id_of_read read
    rw [named, Text.trim_trim]
  · intro bare
    obtain ⟨item, member, held⟩ := written
    obtain ⟨n, listed, read⟩ := to_node item member
    obtain ⟨t, stands, named⟩ := Node.id_of_read read
    obtain rfl : t = s := Option.some.inj (stands.symm.trans held)
    exact List.mem_map.mpr ⟨n, listed, named.trans bare⟩

/-- In a document whose edges refer to ids as they are written on nodes, the check misses the ends of exactly those
edges that refer to an id with blanks around it. -/
theorem missing_iff_padded {report : Report} (given : Workflow.read d = .ok w)
    (matched : ∀ edge ∈ d.edgeItems, ∀ x ∈ edge.ends, ∃ node ∈ d.nodeItems, node.textUnder? "id" = some x)
    (checked : w.validate = .ok report) (id : String) :
    (∃ x ∈ report.errors, x.kind = .missingConnection ∧ x.edgeId = some id) ↔
      ∃ edge ∈ d.edgeItems, edge.textUnder? "id" = some id ∧ ∃ x ∈ edge.ends, Text.trim x ≠ x := by
  obtain ⟨from_item, to_edge⟩ := each_of_map_eq (parts_of_read given).2
  have padded_iff {item : Data} {e : Edge} (listed : item ∈ d.edgeItems) (read : Edge.read item = .ok e) :
      ¬(e.source ∈ w.nodeIds ∧ e.target ∈ w.nodeIds) ↔ ∃ x ∈ item.ends, Text.trim x ≠ x := by
    have written := matched item listed
    rw [(Edge.ends_of_read read).2] at written ⊢
    rw [mem_nodeIds_iff given (written _ (by simp)), mem_nodeIds_iff given (written _ (by simp)), not_and_or]
    simp
  rw [reports_edge_iff checked]
  constructor
  · rintro ⟨e, member, rfl, apart⟩
    obtain ⟨item, listed, read⟩ := from_item e member
    exact ⟨item, listed, (Edge.ends_of_read read).1, (padded_iff listed read).mp apart⟩
  · rintro ⟨item, listed, named, padded⟩
    obtain ⟨e, member, read⟩ := to_edge item listed
    exact ⟨e, member, Option.some.inj ((Edge.ends_of_read read).1.symm.trans named), (padded_iff listed read).mpr padded⟩

/-- The document of a workflow with one edge, which refers to a trigger by the id that is written on it. -/
def referring (id : String) : Data :=
  .ofFields
    [("id", .str "w"),
     ("nodes", .list
       [.ofFields [("id", .str id), ("type", .str "trigger")], .ofFields [("id", .str "e"), ("type", .str "end")]]),
     ("edges", .list [.ofFields [("id", .str "1"), ("source", .str id), ("target", .str "e")]])]

/-- What is read from such a document, where the id of the trigger is trimmed. -/
def referringTo (id : String) : Workflow :=
  ⟨"w", 1, "", [⟨"t", "", .trigger, none⟩, ⟨"e", "", .ending, none⟩], [⟨"1", id, "e", none, none⟩], .stop⟩

/-- The edge refers to ids as they are written. -/
theorem matched_referring (id : String) :
    ∀ edge ∈ (referring id).edgeItems, ∀ x ∈ edge.ends,
      ∃ node ∈ (referring id).nodeItems, node.textUnder? "id" = some x := by
  have edges : (referring id).edgeItems =
      [.ofFields [("id", .str "1"), ("source", .str id), ("target", .str "e")]] := rfl
  have nodes : (referring id).nodeItems =
      [.ofFields [("id", .str id), ("type", .str "trigger")], .ofFields [("id", .str "e"), ("type", .str "end")]] := rfl
  rw [edges, nodes, List.forall_mem_singleton]
  intro x named
  have ends : x = id ∨ x = "e" := by
    simpa [Data.ends, Data.textUnder?, Data.ofFields, Data.dict?, Data.field?, Data.str?, Reading.text] using named
  rcases ends with rfl | rfl
  · exact ⟨_, List.mem_cons_self, rfl⟩
  · exact ⟨_, List.mem_cons_of_mem _ List.mem_cons_self, rfl⟩

/-- A reference without blanks around it is kept. -/
theorem missing_iff_padded_plain : ∃ report, (referringTo "t").validate = .ok report ∧
    ¬∃ x ∈ report.errors, x.kind = .missingConnection ∧ x.edgeId = some "1" := by
  have given : Workflow.read (referring "t") = .ok (referringTo "t") := by cbv
  have checked : (referringTo "t").validate = .ok (.of [] []) := by cbv
  refine ⟨_, checked, fun reported => ?_⟩
  obtain ⟨edge, listed, -, x, ends, padded⟩ := (missing_iff_padded given (matched_referring "t") checked "1").mp reported
  have bare : ∀ edge ∈ (referring "t").edgeItems, ∀ x ∈ edge.ends, Text.trim x = x := by decide +kernel
  exact padded (bare edge listed x ends)

/-- A reference with blanks around it is broken although it stands on the node just so. -/
theorem padded_reference_breaks :
    Workflow.read (referring " t ") = .ok (referringTo " t ") ∧
      (∀ edge ∈ (referring " t ").edgeItems, ∀ x ∈ edge.ends,
        ∃ node ∈ (referring " t ").nodeItems, node.textUnder? "id" = some x) ∧
      ∃ report, (referringTo " t ").validate = .ok report ∧
        ∃ x ∈ report.errors, x.kind = .missingConnection ∧ x.edgeId = some "1" := by
  have checked : (referringTo " t ").validate = .ok (.of (referringTo " t ").edgeErrors []) := by cbv
  refine ⟨by cbv, matched_referring " t ", _, checked, ?_⟩
  exact ⟨⟨.missingConnection, "Edge '1' references non-existent source node: ' t '", .critical, none, some "1"⟩,
    by decide +kernel, rfl, rfl⟩

end Workflow

end WorkflowEngine
