import WorkflowEngine.Proofs.Json.Tellable
import WorkflowEngine.Proofs.Run.Log
import WorkflowEngine.Proofs.Service.Definition
import WorkflowEngine.Proofs.Service.Reached

/-!
# Answers to requests for a run

A run ends with a settled record whatever happens in it, and the service answers with this record and with the log that
it reads back.  Both have to be told to other programs for that: `answer_toRun` says that the answer has status 200
exactly where everything in them can be told, and 500 otherwise.  `logs_toRun` says which log is read back: the lines of
the run, unless the record is due as soon as it is final.
-/

namespace WorkflowEngine

open Text

namespace Json

/-- An array has as many items as there were. -/
theorem length_publishedItems {items done : List Data} {told : Data} (written : publishedItems done items = .ok told) :
    ∃ parts, told = .list parts ∧ parts.length = done.length + items.length := by
  induction items generalizing done with
  | nil =>
      rw [publishedItems] at written
      cases written
      exact ⟨_, rfl, by simp⟩
  | cons item rest ih =>
      rw [publishedItems] at written
      split at written
      · cases written
      · obtain ⟨parts, rfl, counted⟩ := ih written
        refine ⟨parts, rfl, ?_⟩
        simp only [List.length_cons] at counted ⊢
        omega

/-- Lines are told by no items only where there are none. -/
theorem eq_nil_of_published_listIn {zone : String} {lines : List LogLine}
    (written : published (LogLine.listIn zone lines) = .ok (.list [])) : lines = [] := by
  rw [LogLine.listIn, published] at written
  obtain ⟨parts, same, counted⟩ := length_publishedItems written
  cases same
  exact List.eq_nil_of_length_eq_zero (by simpa using counted.symm)

/-- An object with two fields is told by its values. -/
theorem published_pair {first second : String} {a b told : Data} (whole : IsWhole first ∧ IsWhole second)
    (written : published (Data.ofFields [(first, a), (second, b)]) = .ok told) :
    ∃ a' b', published a = .ok a' ∧ published b = .ok b' ∧
      told = .dict [(.str first, a'), (.str second, b')] := by
  have key {s : String} (whole : IsWhole s) : publishedKey (.str s) = .ok s := by
    rw [publishedKey, wholeText, encodingFault?_eq_none whole]
  simp only [Data.ofFields, List.map_cons, List.map_nil, published, publishedEntries, key whole.1, key whole.2] at written
  split at written
  · cases written
  · split at written
    · cases written
    · cases written
      exact ⟨_, _, ‹_›, ‹_›, rfl⟩

end Json

/-- The request to run what a text asks for. -/
def Request.toRun (text : String) : Request :=
  ⟨"POST", "/api/v1/workflows/execute", some text⟩

namespace Service

/-- A record with its log can be told if both can. -/
theorem isTellable_recordData (r : Run) (log : List LogLine) :
    (recordData r log).IsTellable ↔ r.IsTellable ∧ ∀ l ∈ log, l.IsTellable := by
  have letter : IsWhole Instant.universalLetter := by decide
  have names : IsWhole "execution" ∧ IsWhole "logs" := by decide
  rw [recordData, Data.isTellable_ofFields]
  · simp only [List.forall_mem_cons, List.not_mem_nil, false_implies, implies_true, and_true,
      Run.isTellable_fieldsIn letter, LogLine.isTellable_listIn letter]
  · simp only [List.forall_mem_cons, List.not_mem_nil, false_implies, implies_true, and_true, names]

/-- What the service makes of the record of a run and of the log that is read back. -/
def replyOf (now : Instant) (record : Run) (lines : List LogLine) : Reply :=
  match record.copy.bind fun record => Reply.published (recordData record lines) with
  | .ok reply => reply
  | .error f => Reply.broken now f.cls.name

/-- The record and the log are told if they can be. -/
theorem replyOf_cases (now : Instant) (record : Run) (lines : List LogLine) :
    (∃ told, Json.published (recordData record lines) = .ok told ∧
      replyOf now record lines = ⟨200, some told, true⟩ ∧ (recordData record lines).IsTellable) ∨
    ((replyOf now record lines).status = 500 ∧ ¬(recordData record lines).IsTellable) := by
  have published_iff := Json.published_eq_ok_iff (d := recordData record lines)
  unfold replyOf
  rw [Run.copy, Data.copy]
  cases faulty : record.vars.copyFault? with
  | some f =>
      refine .inr ⟨rfl, fun tellable => ?_⟩
      have free := ((isTellable_recordData record lines).mp tellable).1.vars.copyFault?
      rw [faulty] at free
      cases free
  | none =>
      change (∃ told, _ ∧ (match Reply.published (recordData record lines) with
        | .ok reply => reply
        | .error f => Reply.broken now f.cls.name) = _ ∧ _) ∨ (match Reply.published (recordData record lines) with
        | .ok reply => reply
        | .error f => Reply.broken now f.cls.name).status = 500 ∧ _
      rw [Reply.published]
      cases told : Json.published (recordData record lines) with
      | ok d => exact .inl ⟨d, rfl, rfl, published_iff.mp ⟨d, told⟩⟩
      | error f =>
          refine .inr ⟨rfl, fun tellable => ?_⟩
          obtain ⟨d, done⟩ := published_iff.mpr tellable
          rw [told] at done
          cases done

variable {c : Config} {e : Engine} {s : Service} {text : String} {d : Data} {r : RunRequest}

/-- What the engine of a service answers to a request for a run: the record that the run is concluded with and the log
that is read back, unless a variable cannot be copied. -/
theorem execution_eq (serves : e.InService c) (r : RunRequest) :
    (execution r e).1 = (e.ended r.workflow (Data.ofFields r.input) r.triggeredBy).1.copy.bind fun record =>
      Reply.published (recordData record ((e.after r.workflow (Data.ofFields r.input) r.triggeredBy).log e.nextId).1) := by
  have lasting : e.lasting r.workflow (Data.ofFields r.input) r.triggeredBy =
      .ok ((e.after r.workflow (Data.ofFields r.input) r.triggeredBy).clock.reading + c.retentionSeconds) := by
    rw [Engine.lasting, serves.retention]
    rfl
  have named : (e.ended r.workflow (Data.ofFields r.input) r.triggeredBy).1.id = e.nextId := Order.settle_id _ _ _
  unfold execution
  rw [Engine.execute_eq serves.fresh, lasting, ← named]
  dsimp only [Except.bind]
  rw [Run.copy, Data.copy]
  cases (e.ended r.workflow (Data.ofFields r.input) r.triggeredBy).1.vars.copyFault? <;> rfl

/-- The service answers a request for a run with the record that the run is concluded with. -/
theorem answer_toRun_eq (serves : e.InService c) (running : s.engine = some e)
    (held : RequestBody.ofText? (some text) = .document d) (read : RunRequest.read d = .ok r) :
    ∃ now, (s.answer (.toRun text)).1 = replyOf now (e.ended r.workflow (Data.ofFields r.input) r.triggeredBy).1
      ((e.after r.workflow (Data.ofFields r.input) r.triggeredBy).log e.nextId).1 := by
  have routed : Routing.of "POST" "/api/v1/workflows/execute" = .found .execution := by decide
  have handled : s.handle (.toRun text) =
      ((execution r e).1, { s with clock := (execution r e).2.clock, engine := some (execution r e).2 }) := by
    unfold handle Request.toRun
    dsimp only
    rw [routed]
    refine (withDocument_eq running held).trans ?_
    rw [readDocument, read]
  refine ⟨(execution r e).2.clock.now, ?_⟩
  unfold answer replyOf
  rw [handled, ← execution_eq serves]
  cases (execution r e).1 <;> rfl

/-! ## A service and two requests -/

/-- What a text asks to run, if it asks for anything. -/
def asked? (text : String) : Option RunRequest :=
  match RequestBody.ofText? (some text) with
  | .document d =>
    match RunRequest.read d with
    | .ok r => some r
    | _ => none
  | _ => none

theorem asked?_eq_some {text : String} {r : RunRequest} (asked : asked? text = some r) :
    ∃ d, RequestBody.ofText? (some text) = .document d ∧ RunRequest.read d = .ok r := by
  unfold asked? at asked
  split at asked
  · split at asked
    · cases asked
      exact ⟨_, ‹_›, ‹_›⟩
    · cases asked
  · cases asked

/-- A configuration with a structured journal that says for how long records are kept. -/
def keepingFor (seconds : Float) : Config :=
  { Config.usual with logStructured := true, retentionSeconds := seconds }

/-- The engine of a service with it. -/
def engineFor (seconds : Float) : Engine :=
  .ofConfig Registry.empty.registerBuiltin.2 ⟨[], []⟩ .start false (keepingFor seconds)

/-- The service once it is started. -/
def startedFor (seconds : Float) : Service :=
  ⟨keepingFor seconds, .start, some (engineFor seconds)⟩

theorem nextId_engineFor (seconds : Float) : (engineFor seconds).nextId = "exec-1" := by
  have issued : (engineFor seconds).issued = 0 := rfl
  rw [Engine.nextId, issued]
  decide

theorem startedFor_reached (seconds : Float) : (startedFor seconds).Reached (keepingFor seconds) := by
  have ready : (Journal.setup ⟨"INFO", none, some Config.usualFormat, true, 10485760, 5⟩).toOption.isSome = true := by
    decide +kernel
  have begun : (prepare (keepingFor seconds) .start).start = .ok (startedFor seconds) := by
    unfold start
    change (Journal.setup ⟨"INFO", none, some Config.usualFormat, true, 10485760, 5⟩).map _ = _
    cases set : Journal.setup ⟨"INFO", none, some Config.usualFormat, true, 10485760, 5⟩ with
    | error f =>
        rw [set] at ready
        cases ready
    | ok journal => rfl
  exact .started begun

/-- A request to run a trigger alone. -/
def plainText : String :=
  "\x7b\"workflow\":\x7b\"id\":\"w\",\"nodes\":[\x7b\"id\":\"t\",\"type\":\"trigger\"\x7d]\x7d\x7d"

/-- A request to run a trigger and a node that computes a routine. -/
def routineText : String :=
  "\x7b\"workflow\":\x7b\"id\":\"w\",\"nodes\":[\x7b\"id\":\"t\",\"type\":\"trigger\"\x7d," ++
    "\x7b\"id\":\"a\",\"type\":\"transform\",\"config\":\x7b\"expression\":\"len\"\x7d\x7d]," ++
    "\"edges\":[\x7b\"id\":\"1\",\"source\":\"t\",\"target\":\"a\"\x7d]\x7d\x7d"

theorem asked?_plainText : ∃ r, asked? plainText = some r := by
  have some_asked : (asked? plainText).isSome = true := by decide +kernel
  exact Option.isSome_iff_exists.mp some_asked

theorem status_plainText : ((startedFor 300.0).answer (.toRun plainText)).1.status = 200 := by
  decide +kernel

/-- A service that was started answers a request for a run with status 200 exactly if everything in the record of the
run, and in the log that is read back, can be told to other programs; it is answered with these then, and the record is
settled.  Otherwise the answer has status 500. -/
theorem answer_toRun (reached : s.Reached c) (running : s.engine = some e)
    (held : RequestBody.ofText? (some text) = .document d) (read : RunRequest.read d = .ok r) :
    let after := (e.execute r.workflow (Data.ofFields r.input) r.triggeredBy).2
    let lines := (after.log e.nextId).1
    let reply := (s.answer (.toRun text)).1
    ∃ record : Run, record.id = e.nextId ∧ record.IsSettled ∧
      ((after.store.find? e.nextId).map Entry.record) = some record ∧
      (reply.status = 200 ↔ record.IsTellable ∧ ∀ l ∈ lines, l.IsTellable) ∧
      (reply.status = 200 →
        ∃ told, Json.published (recordData record lines) = .ok told ∧ reply.body = some told) ∧
      (reply.status ≠ 200 → reply.status = 500) := by
  obtain ⟨e', same, serves⟩ := reached.inService
  obtain rfl := Option.some.inj (running.symm.trans same)
  have lasting : e.store.retention.toFloat = .ok c.retentionSeconds := by
    rw [serves.retention]
    rfl
  obtain ⟨record, named, settled, kept, -, -⟩ :=
    e.execute_settles r.workflow (Data.ofFields r.input) r.triggeredBy serves.fresh lasting serves.words
  obtain ⟨now, answered⟩ := answer_toRun_eq serves running held read
  rw [Engine.execute_eq serves.fresh] at kept ⊢
  intro after lines reply
  refine ⟨record, named, settled, kept, ?_⟩
  rw [Engine.find?_after serves.fresh] at kept
  cases kept
  change reply = _ at answered
  rw [answered, ← isTellable_recordData]
  rcases replyOf_cases now (e.ended r.workflow (Data.ofFields r.input) r.triggeredBy).1 lines with
    ⟨told, published, same, tellable⟩ | ⟨broken, untellable⟩
  · have status := congrArg Reply.status same
    exact ⟨⟨fun _ => tellable, fun _ => status⟩, fun _ => ⟨told, published, congrArg Reply.body same⟩,
      fun other => absurd status other⟩
  · have apart (ok : _ = (200 : Int)) : False := absurd (ok.symm.trans broken) (by decide)
    exact ⟨⟨fun ok => (apart ok).elim, fun tellable => absurd tellable untellable⟩, fun ok => (apart ok).elim,
      fun _ => broken⟩

/-- A run of a trigger alone is answered with its record. -/
theorem answer_toRun_plain :
    ∃ d r, (startedFor 300.0).Reached (keepingFor 300.0) ∧ RequestBody.ofText? (some plainText) = .document d ∧
      RunRequest.read d = .ok r ∧ ((startedFor 300.0).answer (.toRun plainText)).1.status = 200 ∧
      ∃ record : Run, record.id = "exec-1" ∧ record.IsSettled ∧ record.IsTellable := by
  obtain ⟨r, asked⟩ := asked?_plainText
  obtain ⟨d, held, read⟩ := asked?_eq_some asked
  have running : (startedFor 300.0).engine = some (engineFor 300.0) := rfl
  obtain ⟨record, named, settled, -, told, -⟩ := answer_toRun (startedFor_reached 300.0) running held read
  rw [nextId_engineFor] at named
  exact ⟨d, r, startedFor_reached 300.0, held, read, status_plainText, record, named, settled,
    (told.mp status_plainText).1⟩

/-- A run that computes a routine is not answered with its record, although it was read. -/
theorem answer_routine_fails :
    (startedFor 300.0).Reached (keepingFor 300.0) ∧
      (∃ d r, RequestBody.ofText? (some routineText) = .document d ∧ RunRequest.read d = .ok r) ∧
      ((startedFor 300.0).answer (.toRun routineText)).1.status = 500 := by
  have some_asked : (asked? routineText).isSome = true := by decide +kernel
  obtain ⟨r, asked⟩ := Option.isSome_iff_exists.mp some_asked
  obtain ⟨d, held, read⟩ := asked?_eq_some asked
  exact ⟨startedFor_reached 300.0, ⟨d, r, held, read⟩, by decide +kernel⟩

/-- The log of a run ends with the line that says how the run ended. -/
theorem entered_closes (e : Engine) (w : Workflow) (input : Data) (triggeredBy : String) :
    ∃ first last, (e.entered w input triggeredBy).log.reverse = first ++ [last] ∧
      (e.entered w input triggeredBy).record.ClosingLine last := by
  obtain ⟨last, lines, closes, -, -⟩ := (e.order w input).conclude_log
    (Run.pending e.nextId w.id w.version triggeredBy e.clock.now) (s := Scene.start e.clock e.transport) rfl rfl
  exact ⟨_, last, lines, closes⟩

/-- The log in the answer to a request for a run is that of the run, which ends with the line that says how the run
ended, as long as the record is not due as soon as it is final; it is empty otherwise.  Read back at another time, the
log is that of the run until the record is due. -/
theorem logs_toRun (reached : s.Reached c) (running : s.engine = some e)
    (held : RequestBody.ofText? (some text) = .document d) (read : RunRequest.read d = .ok r)
    (answered : (s.answer (.toRun text)).1.status = 200) :
    let after := (e.execute r.workflow (Data.ofFields r.input) r.triggeredBy).2
    let deadline := after.clock.reading + c.retentionSeconds
    ∃ entry : Entry Float Run LogLine, after.store.find? e.nextId = some entry ∧
      (∃ first last, entry.log.reverse = first ++ [last] ∧ entry.record.ClosingLine last) ∧
      (∀ clock : Clock, (Engine.log { after with clock := clock } e.nextId).1 =
        if deadline ≤ clock.reading then [] else entry.log.reverse) ∧
      ∃ execution logs,
        (s.answer (.toRun text)).1.body = some (.dict [(.str "execution", execution), (.str "logs", logs)]) ∧
        (deadline ≤ after.clock.reading → logs = .list []) ∧
        (Json.published (LogLine.listIn Instant.universalLetter entry.log.reverse) = .ok logs ↔
          ¬deadline ≤ after.clock.reading) := by
  obtain ⟨e', same, serves⟩ := reached.inService
  obtain rfl := Option.some.inj (running.symm.trans same)
  obtain ⟨now, replied⟩ := answer_toRun_eq serves running held read
  rw [replied] at answered ⊢
  rw [Engine.execute_eq serves.fresh]
  intro after deadline
  have logged (clock : Clock) : (Engine.log { after with clock := clock } e.nextId).1 =
      if deadline ≤ clock.reading then []
      else (e.ended r.workflow (Data.ofFields r.input) r.triggeredBy).2.log.reverse := by
    rw [Engine.log_after serves.fresh, Engine.isDue_entered serves.retention]
    simp only [decide_eq_true_eq]
    rfl
  obtain ⟨first, last, lines, closes⟩ := entered_closes e r.workflow (Data.ofFields r.input) r.triggeredBy
  refine ⟨_, Engine.find?_after serves.fresh, ⟨first, last, lines, closes⟩, logged, ?_⟩
  rcases replyOf_cases now (e.ended r.workflow (Data.ofFields r.input) r.triggeredBy).1 (after.log e.nextId).1 with
    ⟨told, published, same, -⟩ | ⟨broken, -⟩
  · obtain ⟨execution, logs, -, written, rfl⟩ := Json.published_pair (by decide) published
    refine ⟨execution, logs, congrArg Reply.body same, ?_⟩
    have back : (after.log e.nextId).1 = _ := logged after.clock
    rw [back] at written
    by_cases due : deadline ≤ after.clock.reading
    · rw [if_pos due] at written
      have empty : logs = .list [] := by
        rw [LogLine.listIn, List.map_nil, Json.published, Json.publishedItems] at written
        cases written
        rfl
      refine ⟨fun _ => empty, fun told => ?_, fun live => absurd due live⟩
      rw [empty] at told
      have silent := Json.eq_nil_of_published_listIn told
      exact absurd (lines.symm.trans silent) (List.append_ne_nil_of_right_ne_nil _ (List.cons_ne_nil _ _))
    · rw [if_neg due] at written
      exact ⟨fun reached => absurd reached due, fun _ => due, fun _ => written⟩
  · exact absurd (answered.symm.trans broken) (by decide)

/-- A log is read back with the usual retention. -/
theorem logs_toRun_plain :
    ∃ d r, (startedFor 300.0).Reached (keepingFor 300.0) ∧ RequestBody.ofText? (some plainText) = .document d ∧
      RunRequest.read d = .ok r ∧ ((startedFor 300.0).answer (.toRun plainText)).1.status = 200 ∧
      ∃ entry : Entry Float Run LogLine,
        ((engineFor 300.0).execute r.workflow (Data.ofFields r.input) r.triggeredBy).2.store.find? "exec-1" = some entry ∧
        ∃ first last, entry.log.reverse = first ++ [last] ∧ entry.record.ClosingLine last := by
  obtain ⟨r, asked⟩ := asked?_plainText
  obtain ⟨d, held, read⟩ := asked?_eq_some asked
  have running : (startedFor 300.0).engine = some (engineFor 300.0) := rfl
  obtain ⟨entry, found, closes, -⟩ := logs_toRun (startedFor_reached 300.0) running held read status_plainText
  rw [nextId_engineFor] at found
  exact ⟨d, r, startedFor_reached 300.0, held, read, status_plainText, entry, found, closes⟩

/-- The lines that a reply tells. -/
def linesOf (r : Reply) : Option (List Data) :=
  match r.body with
  | some (.dict [_, (_, .list lines)]) => some lines
  | _ => none

/-- Where records are not kept at all, which a configuration may say, the log in the answer is empty, although the run
wrote lines. -/
theorem logs_toRun_lost :
    Config.readRetention (.float 0.0) = .ok 0.0 ∧ (startedFor 0.0).Reached (keepingFor 0.0) ∧
      ((startedFor 0.0).answer (.toRun plainText)).1.status = 200 ∧
      (linesOf ((startedFor 0.0).answer (.toRun plainText)).1).map List.length = some 0 ∧
      ∃ d r, RequestBody.ofText? (some plainText) = .document d ∧ RunRequest.read d = .ok r ∧
        ∃ entry : Entry Float Run LogLine,
          ((engineFor 0.0).execute r.workflow (Data.ofFields r.input) r.triggeredBy).2.store.find? "exec-1" = some entry ∧
          entry.log ≠ [] := by
  refine ⟨?_, startedFor_reached 0.0, ?_, ?_, ?_⟩
  · have taken : ¬(0.0 : Float) < 0.0 := by decide +kernel
    change (if (0.0 : Float) < 0.0 then Reading.state "Execution retention cannot be negative" else .ok 0.0) = _
    rw [if_neg taken]
  · decide +kernel
  · decide +kernel
  · obtain ⟨r, asked⟩ := asked?_plainText
    obtain ⟨d, held, read⟩ := asked?_eq_some asked
    obtain ⟨e, running, serves⟩ := (startedFor_reached 0.0).inService
    obtain rfl : engineFor 0.0 = e := Option.some.inj running
    have found : ((engineFor 0.0).after r.workflow (Data.ofFields r.input) r.triggeredBy).store.find?
        (engineFor 0.0).nextId = some _ := Engine.find?_after serves.fresh
    obtain ⟨first, last, lines, -⟩ := entered_closes (engineFor 0.0) r.workflow (Data.ofFields r.input) r.triggeredBy
    rw [nextId_engineFor] at found
    refine ⟨d, r, held, read, (engineFor 0.0).entered r.workflow (Data.ofFields r.input) r.triggeredBy, ?_, ?_⟩
    · rw [Engine.execute_eq serves.fresh]
      exact found
    · intro silent
      rw [silent] at lines
      exact List.append_ne_nil_of_right_ne_nil _ (List.cons_ne_nil _ _) lines.symm

end Service

end WorkflowEngine
