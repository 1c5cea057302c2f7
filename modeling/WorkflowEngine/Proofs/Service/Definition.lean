import Mathlib
import WorkflowEngine.Proofs.Definition.Fault
import WorkflowEngine.Proofs.Definition.Telling
import WorkflowEngine.Service.Basic

/-!
# Answers to requests with a definition

A definition is read, or refused with a list of issues, unless the type of one of its nodes cannot be looked up.
The service answers a definition that it refuses with status 422 and what is wrong with it, as long as the
document can be sent, and a definition whose reading ends in a fault with status 500.
`answer_unreadable_definition` says so for nodes, for workflows and for requests.
-/

namespace WorkflowEngine

open Text

namespace Finding

/-- A part of what can be sent can be sent. -/
theorem isSendable_partAt {d : Data} (sendable : d.IsSendable) (path : List String) : (partAt path d).IsSendable := by
  induction path generalizing d with
  | nil =>
      rw [partAt]
      exact sendable
  | cons step rest ih =>
      cases sendable with
      | dict keys values =>
          rw [partAt]
          split
          · exact ih ((Data.IsSendable.dict keys values).field? ‹_›)
          · exact ih (.dict keys values)
      | list each =>
          rw [partAt]
          split
          case h_1 part found =>
            obtain ⟨index, -, there⟩ := Option.bind_eq_some_iff.mp found
            exact ih (each part (List.mem_of_getElem? there))
          case h_2 => exact ih (.list each)
      | null => exact .null
      | bool b => exact .bool b
      | int short => exact .int short
      | float finite => exact .float finite
      | str whole => exact .str whole

/-- What is said about an issue that can be told can be sent. -/
theorem isSendable_findingData {d : Data} {i : Issue} (sendable : d.IsSendable) (tellable : i.IsTellable) :
    (Reply.findingData (ofIssue d i)).IsSendable := by
  have kind (cause : Cause) : IsWhole cause.kind := by
    unfold Cause.kind
    split <;> decide
  have message : IsWhole (ofIssue d i).issue.cause.message := by
    unfold ofIssue
    dsimp only
    split
    · decide
    · exact tellable.message
  have path : ∀ step ∈ "body" :: i.path, IsWhole step := List.forall_mem_cons.mpr ⟨by decide, tellable.path⟩
  refine Data.isSendable_ofFields fun f listed => ?_
  simp only [List.mem_cons, List.not_mem_nil, or_false] at listed
  rcases listed with rfl | rfl | rfl | rfl
  · exact ⟨(by decide : IsWhole "type"), .str (kind _)⟩
  · exact ⟨(by decide : IsWhole "loc"), .list (List.forall_mem_map.mpr fun step listed => .str (path step listed))⟩
  · exact ⟨(by decide : IsWhole "msg"), .str message⟩
  · exact ⟨(by decide : IsWhole "input"), isSendable_partAt sendable i.path⟩

end Finding

/-- What the caller is told where a document is refused for a list of issues. -/
def Reply.refused (d : Data) (issues : List Issue) : Reply :=
  ⟨422, some (Data.ofFields [("detail", .list ((issues.map (Finding.ofIssue d)).map Reply.findingData))]), true⟩

/-- The issues of a document that can be sent make a reply. -/
theorem Reply.unreadable_eq {d : Data} {issues : List Issue} (sendable : d.IsSendable)
    (tellable : ∀ i ∈ issues, i.IsTellable) :
    Reply.unreadable (issues.map (Finding.ofIssue d)) = .ok (Reply.refused d issues) := by
  have detail : (Data.ofFields
      [("detail", .list ((issues.map (Finding.ofIssue d)).map Reply.findingData))]).IsSendable := by
    refine Data.isSendable_ofFields fun f listed => ?_
    obtain rfl := List.mem_singleton.mp listed
    refine ⟨(by decide : IsWhole "detail"), .list (List.forall_mem_map.mpr (List.forall_mem_map.mpr fun i listed => ?_))⟩
    exact Finding.isSendable_findingData sendable (tellable i listed)
  obtain ⟨text, written⟩ := Json.writeStrict_of_isSendable detail
  unfold Reply.unreadable Reply.refusal Reply.plain
  rw [written]
  rfl

/-- A text that opens an object holds the document that is read from its characters. -/
theorem RequestBody.ofText?_of_readChars {text : String} {chars : List Char} {d : Data}
    (spelled : text.toList = '\x7b' :: chars) (read : Json.readChars ('\x7b' :: chars) = .ok d) :
    RequestBody.ofText? (some text) = .document d := by
  have filled : text.isEmpty = false := by
    rw [← Bool.not_eq_true, String.isEmpty_iff, ← String.toList_eq_nil_iff, spelled]
    exact List.cons_ne_nil _ _
  unfold RequestBody.ofText?
  dsimp only
  rw [filled, spelled]
  change RequestBody.ofChars ('\x7b' :: chars) = _
  rw [RequestBody.ofChars, read]

/-- The request to check the definition that a text holds. -/
def Request.toCheck (text : String) : Request :=
  ⟨"POST", "/api/v1/workflows/validate", some text⟩

namespace Service

/-- The engine of a service works on the document that a body holds. -/
theorem withDocument_eq {α : Type} {s : Service} {e : Engine} {body : RequestBody} {d : Data} {read : Data → Reading α}
    {work : α → Step} (started : s.engine = some e) (held : body = .document d) :
    s.withDocument read body work = ((readDocument read d work e).1,
      { s with clock := (readDocument read d work e).2.clock, engine := some (readDocument read d work e).2 }) := by
  subst held
  unfold withDocument withRuns withEngine
  dsimp only
  rw [started]

/-- The service does with a definition what follows from reading it. -/
theorem answer_toCheck {s : Service} {e : Engine} {text : String} {d : Data} (started : s.engine = some e)
    (held : RequestBody.ofText? (some text) = .document d) :
    s.handle (.toCheck text) = ((readDocument Workflow.read d validation e).1,
      { s with clock := (readDocument Workflow.read d validation e).2.clock,
               engine := some (readDocument Workflow.read d validation e).2 }) := by
  have routed : Routing.of "POST" "/api/v1/workflows/validate" = .found .validation := by decide
  unfold handle Request.toCheck
  dsimp only
  rw [routed]
  exact withDocument_eq started held

/-- Reading nodes and workflows gives a value or issues exactly where the type of each node can be looked up.  A
definition that is not read is answered with its issues then, if it can be sent, and with status 500 otherwise. -/
theorem answer_unreadable_definition (d : Data) :
    (((∃ n, Node.read d = .ok n) ∨ ∃ issues, Node.read d = .refused issues) ↔ d.nodeFault? = none) ∧
    (((∃ w, Workflow.read d = .ok w) ∨ ∃ issues, Workflow.read d = .refused issues) ↔
      ∀ item ∈ d.nodeItems, item.nodeFault? = none) ∧
    ∀ (s : Service) (e : Engine) (text : String), s.engine = some e →
      RequestBody.ofText? (some text) = .document d → (∀ w, Workflow.read d ≠ .ok w) →
      ((∀ item ∈ d.nodeItems, item.nodeFault? = none) → d.IsSendable →
        ∃ issues, Workflow.read d = .refused issues ∧ (s.answer (.toCheck text)).1 = Reply.refused d issues) ∧
      (¬(∀ item ∈ d.nodeItems, item.nodeFault? = none) → (s.answer (.toCheck text)).1.status = 500) := by
  have items : (Workflow.read d).fault? = none ↔ ∀ item ∈ d.nodeItems, item.nodeFault? = none := by
    rw [Workflow.fault?_read, List.findSome?_eq_none_iff]
  refine ⟨?_, ?_, fun s e text started held unread => ⟨fun fine sendable => ?_, fun loose => ?_⟩⟩
  · rw [← Node.fault?_read]
    exact Reading.ok_or_refused_iff
  · rw [← items]
    exact Reading.ok_or_refused_iff
  · rcases Reading.ok_or_refused_iff.mpr (items.mpr fine) with ⟨w, read⟩ | ⟨issues, read⟩
    · exact absurd read (unread w)
    · refine ⟨issues, read, ?_⟩
      have tellable : ∀ i ∈ issues, i.IsTellable := by
        have told := Workflow.tells_read d sendable
        rwa [read] at told
      unfold answer
      rw [answer_toCheck started held]
      unfold readDocument
      rw [read]
      dsimp only
      rw [Reply.unreadable_eq sendable tellable]
  · cases read : Workflow.read d with
    | ok w => exact absurd read (unread w)
    | refused issues => exact absurd (items.mp (by rw [read]; rfl)) loose
    | failed f =>
        unfold answer
        rw [answer_toCheck started held]
        unfold readDocument
        rw [read]
        rfl

/-- A started service with the usual configuration. -/
def usual : Service :=
  ⟨.usual, .start, some (.ofConfig Registry.empty ⟨[], []⟩ .start false .usual)⟩

/-- A definition without an id, whose only node is a list. -/
def shapeless : Data :=
  .dict [(.str "nodes", .list [.list []])]

theorem ofText?_shapeless : RequestBody.ofText? (some "\x7b\"nodes\":[[]]\x7d") = .document shapeless := by
  have spelled : "\x7b\"nodes\":[[]]\x7d".toList =
      ['\x7b', '"', 'n', 'o', 'd', 'e', 's', '"', ':', '[', '[', ']', ']', '\x7d'] := rfl
  exact RequestBody.ofText?_of_readChars spelled (by cbv)

theorem answer_shapeless_definition :
    RequestBody.ofText? (some "\x7b\"nodes\":[[]]\x7d") = .document shapeless ∧ (∀ w, Workflow.read shapeless ≠ .ok w) ∧
      (usual.answer (.toCheck "\x7b\"nodes\":[[]]\x7d")).1.status = 422 := by
  have unread (w : Workflow) : Workflow.read shapeless ≠ .ok w := by
    have refused : Workflow.read shapeless =
        .refused [⟨.missing, ["id"]⟩, ⟨.notRecord "Node", ["nodes", "0"]⟩] := by cbv
    rw [refused]
    rintro ⟨⟩
  have fine : ∀ item ∈ shapeless.nodeItems, item.nodeFault? = none := by
    intro item listed
    obtain rfl := List.mem_singleton.mp listed
    rfl
  have sendable : (Data.ofFields [("nodes", .list [.list []])]).IsSendable := by
    refine Data.isSendable_ofFields fun f listed => ?_
    obtain rfl := List.mem_singleton.mp listed
    refine ⟨(by decide : IsWhole "nodes"), .list (List.forall_mem_singleton.mpr (.list ?_))⟩
    exact List.forall_mem_nil _
  obtain ⟨issues, -, answered⟩ :=
    ((answer_unreadable_definition shapeless).2.2 usual _ _ rfl ofText?_shapeless unread).1 fine sendable
  exact ⟨ofText?_shapeless, unread, by rw [answered]; rfl⟩

/-- A node that gives a list for its type. -/
def listTyped : Data :=
  .dict [(.str "type", .list [])]

/-- A definition with such a node. -/
def holdingListTyped : Data :=
  .dict [(.str "nodes", .list [listTyped])]

theorem read_fails_on_list_typed :
    (¬∃ n, Node.read listTyped = .ok n) ∧ (¬∃ issues, Node.read listTyped = .refused issues) ∧
      RequestBody.ofText? (some "\x7b\"nodes\":[\x7b\"type\":[]\x7d]\x7d") = .document holdingListTyped ∧
      (usual.answer (.toCheck "\x7b\"nodes\":[\x7b\"type\":[]\x7d]\x7d")).1.status = 500 := by
  have failed : Node.read listTyped = .failed (.unhashable .list) := by cbv
  have held : RequestBody.ofText? (some "\x7b\"nodes\":[\x7b\"type\":[]\x7d]\x7d") = .document holdingListTyped := by
    have spelled : "\x7b\"nodes\":[\x7b\"type\":[]\x7d]\x7d".toList =
        ['\x7b', '"', 'n', 'o', 'd', 'e', 's', '"', ':', '[', '\x7b', '"', 't', 'y', 'p', 'e', '"', ':', '[', ']', '\x7d',
          ']', '\x7d'] := rfl
    exact RequestBody.ofText?_of_readChars spelled (by cbv)
  have unread : Workflow.read holdingListTyped = .failed (.unhashable .list) := by cbv
  refine ⟨?_, ?_, held, ?_⟩
  · rintro ⟨n, read⟩
    cases failed.symm.trans read
  · rintro ⟨issues, read⟩
    cases failed.symm.trans read
  · unfold answer
    rw [answer_toCheck rfl held, readDocument, unread]
    rfl

end Service

end WorkflowEngine
