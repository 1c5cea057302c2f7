import WorkflowEngine.Json.Published
import WorkflowEngine.Proofs.Region.Snapshot
import WorkflowEngine.Proofs.Text.Whole
import WorkflowEngine.Trace.Basic

/-!
# Data that can be told to other programs

Data can be told if its texts are whole, its bytes are text, its keys have a text, and nothing in it works only
inside a run: no routine, no type, no method, no lock and no container that holds itself.  `published_eq_ok_iff` says
that such data is all that can be published.  The record of a run can be told if everything that it keeps can.
-/

namespace WorkflowEngine

open Text

namespace Data

/-- A key that has a text of its own. -/
inductive IsTellableKey : Data → Prop where
  | null : IsTellableKey .null
  | bool (b : Bool) : IsTellableKey (.bool b)
  | int (i : Int) : IsTellableKey (.int i)
  | float (x : Float) : IsTellableKey (.float x)
  | nan (mark : Nat) : IsTellableKey (.nan mark)
  | complex (re im : Float) : IsTellableKey (.complex re im)
  | str {s : String} (whole : IsWhole s) : IsTellableKey (.str s)
  | bytes {bs : List UInt8} {s : String} (decoded : Utf8.decodeWhole? bs = some s) : IsTellableKey (.bytes bs)
  | tuple {items : List Data} (each : ∀ item ∈ items, IsTellableKey item) : IsTellableKey (.tuple items)

/-- Data that other programs can be told. -/
inductive IsTellable : Data → Prop where
  | null : IsTellable .null
  | bool (b : Bool) : IsTellable (.bool b)
  | int (i : Int) : IsTellable (.int i)
  | float (x : Float) : IsTellable (.float x)
  | nan (mark : Nat) : IsTellable (.nan mark)
  | complex (re im : Float) : IsTellable (.complex re im)
  | str {s : String} (whole : IsWhole s) : IsTellable (.str s)
  | bytes {bs : List UInt8} {s : String} (decoded : Utf8.decodeWhole? bs = some s) : IsTellable (.bytes bs)
  | list {items : List Data} (each : ∀ item ∈ items, IsTellable item) : IsTellable (.list items)
  | tuple {items : List Data} (each : ∀ item ∈ items, IsTellable item) : IsTellable (.tuple items)
  | set {items : List Data} (each : ∀ item ∈ items, IsTellable item) : IsTellable (.set items)
  | dict {entries : List (Data × Data)} (keys : ∀ e ∈ entries, IsTellableKey e.1)
      (values : ∀ e ∈ entries, IsTellable e.2) : IsTellable (.dict entries)

end Data

namespace Text

/-- A text that can be encoded is whole. -/
theorem areWhole_of_encodingFault? {chars : List Char} (sound : encodingFault? chars = none) : AreWhole chars := by
  have all : chars.dropWhile (fun c => (Surrogate.half? c).isNone) = [] := by
    by_contra left
    obtain ⟨first, rest, same⟩ := List.exists_cons_of_ne_nil left
    simp only [encodingFault?, unencodable?, same] at sound
    split at sound
    · cases sound
    · cases sound
    · rename_i lacking
      cases lacking
  intro c listed
  simpa using List.dropWhile_eq_nil_iff.mp all c listed

end Text

namespace Json

open Data

theorem wholeText_eq_ok_iff {s : String} : (∃ told, wholeText s = .ok told) ↔ IsWhole s := by
  unfold wholeText
  constructor
  · rintro ⟨told, written⟩
    split at written
    · cases written
    · exact areWhole_of_encodingFault? ‹_›
  · intro whole
    rw [encodingFault?_eq_none whole]
    exact ⟨s, rfl⟩

theorem textOfBytes_eq_ok_iff {bytes : List UInt8} :
    (∃ told, textOfBytes bytes = .ok told) ↔ ∃ s, Utf8.decodeWhole? bytes = some s := by
  unfold textOfBytes
  constructor
  · rintro ⟨told, written⟩
    split at written
    · exact ⟨_, ‹_›⟩
    · cases written
  · rintro ⟨s, decoded⟩
    rw [decoded]
    exact ⟨s, rfl⟩

/-- Keys have texts if each of them has one. -/
theorem publishedKeys_of_each {items : List Data} (each : ∀ item ∈ items, ∃ text, publishedKey item = .ok text)
    (done : List String) : ∃ texts, publishedKeys done items = .ok texts := by
  induction items generalizing done with
  | nil => exact ⟨done.reverse, by rw [publishedKeys]⟩
  | cons item rest ih =>
      obtain ⟨text, written⟩ := each item List.mem_cons_self
      rw [publishedKeys, written]
      exact ih (fun item listed => each item (List.mem_cons_of_mem _ listed)) _

/-- Items are published if each of them is. -/
theorem publishedItems_of_each {items : List Data} (each : ∀ item ∈ items, ∃ told, published item = .ok told)
    (done : List Data) : ∃ told, publishedItems done items = .ok told := by
  induction items generalizing done with
  | nil => exact ⟨.list done.reverse, by rw [publishedItems]⟩
  | cons item rest ih =>
      obtain ⟨told, written⟩ := each item List.mem_cons_self
      rw [publishedItems, written]
      exact ih (fun item listed => each item (List.mem_cons_of_mem _ listed)) _

/-- Entries are published if each key has a text and each value is published. -/
theorem publishedEntries_of_each {entries : List (Data × Data)}
    (keys : ∀ e ∈ entries, ∃ text, publishedKey e.1 = .ok text)
    (values : ∀ e ∈ entries, ∃ told, published e.2 = .ok told) (done : List (Data × Data)) :
    ∃ told, publishedEntries done entries = .ok told := by
  induction entries generalizing done with
  | nil => exact ⟨.dict done.reverse, by rw [publishedEntries]⟩
  | cons e rest ih =>
      obtain ⟨key, value⟩ := e
      obtain ⟨text, named⟩ := keys (key, value) List.mem_cons_self
      obtain ⟨told, written⟩ := values (key, value) List.mem_cons_self
      rw [publishedEntries, named, written]
      exact ih (fun e listed => keys e (List.mem_cons_of_mem _ listed))
        (fun e listed => values e (List.mem_cons_of_mem _ listed)) _

theorem publishedKey_of_isTellableKey {d : Data} (tellable : d.IsTellableKey) : ∃ text, publishedKey d = .ok text := by
  induction tellable with
  | str whole =>
      rw [publishedKey]
      exact wholeText_eq_ok_iff.mpr whole
  | bytes decoded =>
      rw [publishedKey]
      exact textOfBytes_eq_ok_iff.mpr ⟨_, decoded⟩
  | tuple each ih =>
      obtain ⟨texts, written⟩ := publishedKeys_of_each ih []
      rw [publishedKey, written]
      exact ⟨_, rfl⟩
  | _ => exact ⟨_, by rw [publishedKey]⟩

/-- Data that can be told is published. -/
theorem published_of_isTellable {d : Data} (tellable : d.IsTellable) : ∃ told, published d = .ok told := by
  induction tellable with
  | str whole =>
      obtain ⟨told, written⟩ := wholeText_eq_ok_iff.mpr whole
      rw [published, written]
      exact ⟨_, rfl⟩
  | bytes decoded =>
      obtain ⟨told, written⟩ := textOfBytes_eq_ok_iff.mpr ⟨_, decoded⟩
      rw [published, written]
      exact ⟨_, rfl⟩
  | list each ih =>
      rw [published]
      exact publishedItems_of_each ih []
  | tuple each ih =>
      rw [published]
      exact publishedItems_of_each ih []
  | set each ih =>
      rw [published]
      exact publishedItems_of_each ih []
  | dict keys values ih =>
      rw [published]
      exact publishedEntries_of_each (fun e listed => publishedKey_of_isTellableKey (keys e listed)) ih []
  | _ => exact ⟨_, by rw [published]⟩

mutual

theorem isTellableKey_of_publishedKey {d : Data} {text : String} (written : publishedKey d = .ok text) :
    d.IsTellableKey := by
  cases d with
  | null => exact .null
  | bool b => exact .bool b
  | int i => exact .int i
  | float x => exact .float x
  | nan mark => exact .nan mark
  | complex re im => exact .complex re im
  | str s =>
      rw [publishedKey] at written
      exact .str (wholeText_eq_ok_iff.mp ⟨text, written⟩)
  | bytes bs =>
      rw [publishedKey] at written
      obtain ⟨s, decoded⟩ := textOfBytes_eq_ok_iff.mp ⟨text, written⟩
      exact .bytes decoded
  | tuple items =>
      rw [publishedKey] at written
      split at written
      · cases written
      · exact .tuple (isTellableKey_of_publishedKeys ‹_›)
  | _ => simp [publishedKey] at written
termination_by structural d

theorem isTellableKey_of_publishedKeys {items : List Data} {done texts : List String}
    (written : publishedKeys done items = .ok texts) : ∀ item ∈ items, item.IsTellableKey := by
  cases items with
  | nil => exact List.forall_mem_nil _
  | cons item rest =>
      rw [publishedKeys] at written
      split at written
      · cases written
      · exact List.forall_mem_cons.mpr ⟨isTellableKey_of_publishedKey ‹_›, isTellableKey_of_publishedKeys written⟩
termination_by structural items

end

mutual

theorem isTellable_of_published {d told : Data} (written : published d = .ok told) : d.IsTellable := by
  cases d with
  | null => exact .null
  | bool b => exact .bool b
  | int i => exact .int i
  | float x => exact .float x
  | nan mark => exact .nan mark
  | complex re im => exact .complex re im
  | str s =>
      rw [published] at written
      cases whole : wholeText s with
      | error f =>
          rw [whole] at written
          cases written
      | ok text => exact .str (wholeText_eq_ok_iff.mp ⟨text, whole⟩)
  | bytes bs =>
      rw [published] at written
      cases whole : textOfBytes bs with
      | error f =>
          rw [whole] at written
          cases written
      | ok text =>
          obtain ⟨s, decoded⟩ := textOfBytes_eq_ok_iff.mp ⟨text, whole⟩
          exact .bytes decoded
  | list items =>
      rw [published] at written
      exact .list (isTellable_of_publishedItems written)
  | tuple items =>
      rw [published] at written
      exact .tuple (isTellable_of_publishedItems written)
  | set items =>
      rw [published] at written
      exact .set (isTellable_of_publishedItems written)
  | dict entries =>
      rw [published] at written
      obtain ⟨keys, values⟩ := isTellable_of_publishedEntries written
      exact .dict keys values
  | _ => simp [published] at written
termination_by structural d

theorem isTellable_of_publishedItems {items done : List Data} {told : Data}
    (written : publishedItems done items = .ok told) : ∀ item ∈ items, item.IsTellable := by
  cases items with
  | nil => exact List.forall_mem_nil _
  | cons item rest =>
      rw [publishedItems] at written
      split at written
      · cases written
      · exact List.forall_mem_cons.mpr ⟨isTellable_of_published ‹_›, isTellable_of_publishedItems written⟩
termination_by structural items

theorem isTellable_of_publishedEntries {entries done : List (Data × Data)} {told : Data}
    (written : publishedEntries done entries = .ok told) :
    (∀ e ∈ entries, e.1.IsTellableKey) ∧ ∀ e ∈ entries, e.2.IsTellable := by
  cases entries with
  | nil => exact ⟨List.forall_mem_nil _, List.forall_mem_nil _⟩
  | cons e rest =>
      obtain ⟨key, value⟩ := e
      rw [publishedEntries] at written
      split at written
      · cases written
      · split at written
        · cases written
        · obtain ⟨keys, values⟩ := isTellable_of_publishedEntries written
          exact ⟨List.forall_mem_cons.mpr ⟨isTellableKey_of_publishedKey ‹_›, keys⟩,
            List.forall_mem_cons.mpr ⟨isTellable_of_published ‹_›, values⟩⟩
termination_by structural entries

end

/-- Data is published exactly where it can be told. -/
theorem published_eq_ok_iff {d : Data} : (∃ told, published d = .ok told) ↔ d.IsTellable :=
  ⟨fun ⟨_, written⟩ => isTellable_of_published written, published_of_isTellable⟩

end Json

namespace Data

@[simp] theorem isTellable_null : Data.null.IsTellable ↔ True :=
  ⟨fun _ => trivial, fun _ => .null⟩

@[simp] theorem isTellable_bool {b : Bool} : (Data.bool b).IsTellable ↔ True :=
  ⟨fun _ => trivial, fun _ => .bool b⟩

@[simp] theorem isTellable_int {i : Int} : (Data.int i).IsTellable ↔ True :=
  ⟨fun _ => trivial, fun _ => .int i⟩

@[simp] theorem isTellable_str {s : String} : (Data.str s).IsTellable ↔ IsWhole s :=
  ⟨fun | .str whole => whole, .str⟩

@[simp] theorem isTellable_list {items : List Data} : (Data.list items).IsTellable ↔ ∀ item ∈ items, item.IsTellable :=
  ⟨fun | .list each => each, .list⟩

@[simp] theorem isTellable_ofStr? {s : Option String} : (ofStr? s).IsTellable ↔ ∀ text ∈ s, IsWhole text := by
  cases s <;> simp [ofStr?]

/-- Fields with whole names can be told if their values can. -/
theorem isTellable_ofFields {fields : List (String × Data)} (names : ∀ f ∈ fields, IsWhole f.1) :
    (ofFields fields).IsTellable ↔ ∀ f ∈ fields, f.2.IsTellable := by
  constructor
  · rintro (_ | _)
    rename_i values
    exact fun f listed => values _ (List.mem_map_of_mem listed)
  · intro each
    refine .dict (List.forall_mem_map.mpr fun f listed => ?_) (List.forall_mem_map.mpr each)
    exact .str (names f listed)

theorem IsTellableKey.copyFault? {d : Data} (tellable : d.IsTellableKey) : d.copyFault? = none := by
  induction tellable with
  | tuple each ih =>
      rw [Data.copyFault?]
      exact copyFaultIn?_eq_none_iff.mpr ih
  | _ => simp only [Data.copyFault?]

/-- Data that can be told can be copied. -/
theorem IsTellable.copyFault? {d : Data} (tellable : d.IsTellable) : d.copyFault? = none := by
  induction tellable with
  | list each ih =>
      rw [Data.copyFault?]
      exact copyFaultIn?_eq_none_iff.mpr ih
  | tuple each ih =>
      rw [Data.copyFault?]
      exact copyFaultIn?_eq_none_iff.mpr ih
  | set each ih =>
      rw [Data.copyFault?]
      exact copyFaultIn?_eq_none_iff.mpr ih
  | dict keys values ih =>
      rw [Data.copyFault?]
      exact copyFaultAmong?_eq_none_iff.mpr fun e listed => ⟨(keys e listed).copyFault?, ih e listed⟩
  | _ => simp only [Data.copyFault?]

end Data

/-! ## Records of runs -/

/-- A record with known names that are whole can be told if its values can. -/
theorem Record.isTellable_toData {r : Record} (names : List String) (same : r.map Prod.fst = names)
    (whole : ∀ name ∈ names, IsWhole (Reading.spellingOf name)) :
    r.toData.IsTellable ↔ ∀ f ∈ r, f.2.IsTellable := by
  subst same
  have spelled : ∀ f ∈ r.map fun field => (Reading.spellingOf field.1, field.2), IsWhole f.1 :=
    List.forall_mem_map.mpr fun f listed => whole f.1 (List.mem_map_of_mem listed)
  rw [toData, Data.isTellable_ofFields spelled, List.forall_mem_map]

namespace Instant

variable {zone : String}

theorem isWhole_padded (width value : Nat) : IsWhole (padded width value) :=
  isWhole_ofList.mpr (Decimal.areWhole_padZeros (Decimal.areWhole_digitChars value))

theorem isWhole_textIn (whole : IsWhole zone) (i : Instant) : IsWhole (i.textIn zone) := by
  have marks : IsWhole "-" ∧ IsWhole "T" ∧ IsWhole ":" := by decide
  have fraction (part : Nat) : IsWhole (if part == 0 then "" else "." ++ padded 6 part) := by
    split
    · decide
    · exact .append (by decide) (isWhole_padded 6 part)
  have numbers := isWhole_padded
  unfold IsWhole at *
  simp only [textIn, String.toList_append, areWhole_append, marks, numbers, fraction, whole, and_self]

end Instant

/-- The line is written in whole texts, and its data can be told. -/
structure LogLine.IsTellable (l : LogLine) : Prop where
  message : IsWhole l.message
  data : l.data.IsTellable

/-- The failure is told in whole texts. -/
structure RunError.IsTellable (e : RunError) : Prop where
  message : IsWhole e.message
  node : ∀ id ∈ e.nodeId, IsWhole id

/-- All that a visit kept can be told. -/
structure Visit.IsTellable (v : Visit) : Prop where
  node : IsWhole v.nodeId
  input : v.input.IsTellable
  output : v.output.IsTellable
  error : ∀ e ∈ v.error, e.IsTellable
  log : ∀ l ∈ v.log, l.IsTellable

/-- All that a run kept can be told. -/
structure Run.IsTellable (r : Run) : Prop where
  id : IsWhole r.id
  workflow : IsWhole r.workflowId
  visits : ∀ v ∈ r.visits, v.IsTellable
  vars : r.vars.IsTellable
  cause : IsWhole r.triggeredBy
  error : ∀ e ∈ r.error, e.IsTellable

section Fields

variable {zone : String}

theorem LogLine.isTellable_fieldsIn (whole : IsWhole zone) (l : LogLine) :
    (l.fieldsIn zone).toData.IsTellable ↔ l.IsTellable := by
  have level : IsWhole l.level.name := by cases l.level <;> decide
  have time := l.time.isWhole_textIn whole
  rw [Record.isTellable_toData ["timestamp", "level", "message", "data"] rfl (by decide)]
  simp only [fieldsIn, List.forall_mem_cons, Data.isTellable_str, level, time, true_and]
  exact ⟨fun ⟨message, data, _⟩ => ⟨message, data⟩, fun l => ⟨l.message, l.data, List.forall_mem_nil _⟩⟩

theorem LogLine.isTellable_listIn (whole : IsWhole zone) (lines : List LogLine) :
    (listIn zone lines).IsTellable ↔ ∀ l ∈ lines, l.IsTellable := by
  simp only [listIn, Data.isTellable_list, List.forall_mem_map, isTellable_fieldsIn whole]

theorem Instant.isTellable_dataIn (whole : IsWhole zone) (i : Option Instant) : (dataIn zone i).IsTellable := by
  cases i with
  | none => exact .null
  | some i => exact .str (i.isWhole_textIn whole)

theorem isTellable_spanData (span : Option Float) : (spanData span).IsTellable := by
  cases span with
  | none => exact .null
  | some x => exact .float x

theorem RunError.isTellable_dataIn (whole : IsWhole zone) (e : Option RunError) :
    (dataIn zone e).IsTellable ↔ ∀ e' ∈ e, e'.IsTellable := by
  cases e with
  | none => exact ⟨nofun, fun _ => .null⟩
  | some e =>
      have code : IsWhole e.code.name := by cases e.code <;> decide
      have time := e.time.isWhole_textIn whole
      have stack : IsWhole stackMark := by decide
      rw [dataIn, Record.isTellable_toData ["code", "message", "timestamp", "recoverable", "node_id", "stack"] rfl
        (by decide)]
      simp only [fieldsIn, List.forall_mem_cons, Data.isTellable_str, Data.isTellable_bool, Data.isTellable_ofStr?, code,
        time, stack, true_and, Option.mem_some_iff, forall_eq']
      exact ⟨fun ⟨message, node, _⟩ => ⟨message, node⟩, fun e => ⟨e.message, e.node, List.forall_mem_nil _⟩⟩

theorem RunStatus.isWhole_name (s : RunStatus) : IsWhole s.name := by
  cases s <;> decide

theorem Visit.isTellable_fieldsIn (whole : IsWhole zone) (v : Visit) :
    (v.fieldsIn zone).toData.IsTellable ↔ v.IsTellable := by
  have start := v.start.isWhole_textIn whole
  rw [Record.isTellable_toData ["node_id", "status", "start_time", "end_time", "duration", "input", "output", "error",
    "logs"] rfl (by decide)]
  simp only [fieldsIn, List.forall_mem_cons, Data.isTellable_str, v.status.isWhole_name, start,
    Instant.isTellable_dataIn whole, isTellable_spanData, RunError.isTellable_dataIn whole,
    LogLine.isTellable_listIn whole, true_and]
  exact ⟨fun ⟨node, input, output, error, log, _⟩ => ⟨node, input, output, error, log⟩,
    fun v => ⟨v.node, v.input, v.output, v.error, v.log, List.forall_mem_nil _⟩⟩

/-- The record of a run can be told if all that it keeps can. -/
theorem Run.isTellable_fieldsIn (whole : IsWhole zone) (r : Run) :
    (r.fieldsIn zone).toData.IsTellable ↔ r.IsTellable := by
  have start := r.start.isWhole_textIn whole
  rw [Record.isTellable_toData ["id", "workflow_id", "workflow_version", "status", "start_time", "end_time", "duration",
    "node_executions", "variables", "triggered_by", "error"] rfl (by decide)]
  simp only [fieldsIn, List.forall_mem_cons, Data.isTellable_str, Data.isTellable_int, Data.isTellable_list,
    List.forall_mem_map, r.status.isWhole_name, start, Instant.isTellable_dataIn whole, isTellable_spanData,
    RunError.isTellable_dataIn whole, Visit.isTellable_fieldsIn whole, true_and]
  exact ⟨fun ⟨id, workflow, visits, vars, cause, error, _⟩ => ⟨id, workflow, visits, vars, cause, error⟩,
    fun r => ⟨r.id, r.workflow, r.visits, r.vars, r.cause, r.error, List.forall_mem_nil _⟩⟩

end Fields

end WorkflowEngine
