import WorkflowEngine.Proofs.Run.Retention
import WorkflowEngine.Proofs.Service.Execution

/-!
# What the service tells about its health

The service tells how many entries its store has.  An entry that is due stays there until somebody asks for it, or until
another run is asked for, and the record of an entry can be read only before that, and only if it can be copied.
`health_counts` splits the number accordingly, after whatever the engine was asked for: it is the number of ids whose
record can be read exactly if nothing in the store is due and every record can be copied.
-/

namespace WorkflowEngine

/-! ## Distinct ids -/

namespace Store

variable {σ τ ρ κ : Type} {s t : Store σ τ ρ κ}

theorem Distinct.sublist (distinct : s.Distinct) (fewer : t.entries.Sublist s.entries) : t.Distinct :=
  List.Nodup.sublist (fewer.map Entry.id) distinct

theorem Distinct.replace (distinct : s.Distinct) (id : String) (record : ρ) : (s.replace id record).Distinct :=
  distinct.change fun _ => rfl

theorem Distinct.appendAll (distinct : s.Distinct) (id : String) (lines : List κ) :
    (lines.foldl (fun kept l => kept.append id l) s).Distinct := by
  induction lines generalizing s with
  | nil => exact distinct
  | cons line rest ih => exact ih (distinct.change fun _ => rfl)

variable [LE τ] [DecidableLE τ]

/-- Looking an entry up leaves the others where they are. -/
theorem live?_sublist (s : Store σ τ ρ κ) (now : τ) (id : String) :
    (s.live? now id).2.entries.Sublist s.entries := by
  unfold live?
  split
  · exact List.Sublist.refl _
  · split
    · exact List.filter_sublist
    · exact List.Sublist.refl _

theorem Distinct.create (distinct : s.Distinct) (now : τ) (id : String) (record : ρ) :
    (s.create now id record).2.Distinct := by
  have kept : (s.purge now).2.Distinct := distinct.filter _
  unfold Store.create
  dsimp only
  split
  · exact kept
  · exact kept.snoc (Option.not_isSome_iff_eq_none.mp ‹_›)

/-- Every entry is due or is kept when what is due is taken out. -/
theorem size_purge (s : Store σ τ ρ κ) (now : τ) : s.size = (s.purge now).1 + (s.purge now).2.size := by
  have fewer : (s.entries.filter fun e => !e.isDue now).length ≤ s.entries.length := List.length_filter_le _ _
  unfold size purge
  dsimp only
  omega

/-- Nothing is taken out exactly if nothing is due. -/
theorem purge_eq_zero_iff (s : Store σ τ ρ κ) (now : τ) :
    (s.purge now).1 = 0 ↔ ∀ k ∈ s.entries, k.isDue now = false := by
  have fewer : (s.entries.filter fun e => !e.isDue now).length ≤ s.entries.length := List.length_filter_le _ _
  calc (s.purge now).1 = 0
    _ ↔ (s.entries.filter fun e => !e.isDue now).length = s.entries.length := by
      unfold purge
      dsimp only
      omega
    _ ↔ ∀ k ∈ s.entries, k.isDue now = false := by simp [List.length_filter_eq_length_iff]

end Store

namespace Engine

variable {e : Engine}

theorem distinct_finalizeNow {s t : RunStore} (distinct : s.Distinct) {clock : Clock} {id : String}
    (done : s.finalizeNow clock id = .ok t) : t.Distinct := by
  unfold RunStore.finalizeNow at done
  split at done
  · cases limit : RunStore.deadline s clock with
    | error f =>
        rw [limit] at done
        cases done
    | ok reading =>
        rw [limit] at done
        cases done
        exact distinct.change fun _ => rfl
  · cases done
    exact distinct

theorem distinct_carryOut (distinct : e.store.Distinct) (w : Workflow) (input : Data) (pending : Run) :
    (e.carryOut w input pending).2.store.Distinct := by
  unfold carryOut
  dsimp only
  split
  · exact (distinct.replace _ _).appendAll _ _
  · rename_i final done
    exact distinct_finalizeNow ((distinct.replace _ _).appendAll _ _) done

theorem distinct_execute (distinct : e.store.Distinct) (w : Workflow) (input : Data) (triggeredBy : String) :
    (e.execute w input triggeredBy).2.store.Distinct := by
  have created := distinct.create e.clock.reading (Run.pending e.nextId w.id w.version triggeredBy e.clock.now).id
    (Run.pending e.nextId w.id w.version triggeredBy e.clock.now)
  unfold execute
  dsimp only
  split
  · rename_i refusal store same
    rw [same] at created
    exact created
  · rename_i store same
    rw [same] at created
    exact distinct_carryOut created w input _

/-- Whatever an engine is asked for, no id gets a second entry. -/
theorem distinct_serve (distinct : e.store.Distinct) (clock : Clock) (d : Demand) :
    (e.serve clock d).store.Distinct := by
  cases d with
  | run w input triggeredBy => exact distinct_execute (e := e.timed clock) distinct w input triggeredBy
  | record id =>
      rw [serve_record]
      exact distinct.sublist (e.store.live?_sublist clock.reading id)
  | log id => exact distinct.sublist (e.store.live?_sublist clock.reading id)
  | purge => exact distinct.filter _

theorem distinct_serveAll (distinct : e.store.Distinct) (asked : List (Clock × Demand)) :
    (e.serveAll asked).store.Distinct := by
  induction asked generalizing e with
  | nil => exact distinct
  | cons a rest ih => exact ih (distinct_serve distinct a.1 a.2)

/-! ## Records that can be read -/

/-- The ids under which an engine answers with a record. -/
def readable (e : Engine) : Set String :=
  {id | ∃ record, (e.get? id).1 = .ok (some record)}

/-- The entries that are not due, but whose records cannot be copied. -/
def locked (e : Engine) : List (Entry Float Run LogLine) :=
  (e.store.purge e.clock.reading).2.entries.filter fun k => k.record.vars.copyFault?.isSome

theorem locked_eq_nil_iff :
    e.locked = [] ↔
      ∀ k ∈ e.store.entries, k.isDue e.clock.reading = false → k.record.vars.copyFault? = none := by
  rw [locked, List.filter_eq_nil_iff]
  constructor
  · intro free k listed waits
    simpa using free k (List.mem_filter.mpr ⟨listed, by simp [waits]⟩)
  · intro free k kept
    obtain ⟨listed, waits⟩ := List.mem_filter.mp kept
    simp [free k listed (by simpa using waits)]

theorem copy_eq_ok_iff {r : Run} : (∃ record, r.copy.map some = .ok (some record)) ↔ r.vars.copyFault? = none := by
  unfold Run.copy Data.copy
  cases r.vars.copyFault? with
  | none => exact ⟨fun _ => rfl, fun _ => ⟨_, rfl⟩⟩
  | some f =>
      constructor
      · rintro ⟨record, read⟩
        cases read
      · exact nofun

/-- A record is read if it belongs to an entry that is kept when what is due is taken out, and can be copied. -/
theorem mem_readable_iff (distinct : e.store.Distinct) {id : String} :
    id ∈ e.readable ↔ ∃ k ∈ (e.store.purge e.clock.reading).2.entries, k.record.vars.copyFault? = none ∧ k.id = id := by
  constructor
  · rintro ⟨record, read⟩
    cases found : e.store.find? id with
    | none =>
        rw [get?_of_missing (Store.get?_of_missing found _)] at read
        cases read
    | some k =>
        have named : k.id = id := by simpa using List.find?_some found
        have kept := Store.get?_of_find? found e.clock.reading
        cases due : k.isDue e.clock.reading with
        | true =>
            rw [due, if_pos rfl] at kept
            rw [get?_of_missing kept] at read
            cases read
        | false =>
            rw [due, if_neg Bool.false_ne_true] at kept
            rw [get?_of_found kept] at read
            exact ⟨k, List.mem_filter.mpr ⟨List.mem_of_find?_eq_some found, by simp [due]⟩,
              copy_eq_ok_iff.mp ⟨record, read⟩, named⟩
  · rintro ⟨k, kept, copied, rfl⟩
    obtain ⟨listed, waits⟩ := List.mem_filter.mp kept
    have early : ¬ k.isDue e.clock.reading = true := by simpa using waits
    have found := Store.find?_of_mem distinct listed
    obtain ⟨record, read⟩ := copy_eq_ok_iff.mpr copied
    refine ⟨record, ?_⟩
    rw [get?_of_found ((Store.get?_of_find? found _).trans (if_neg early))]
    exact read

/-- The entries that are kept when what is due is taken out have a record that can be read, or one that is locked. -/
theorem size_purge_eq (distinct : e.store.Distinct) :
    (e.store.purge e.clock.reading).2.size = e.readable.ncard + e.locked.length := by
  let kept := (e.store.purge e.clock.reading).2.entries
  let copied := kept.filter fun k => !k.record.vars.copyFault?.isSome
  have ids : e.readable = {id | id ∈ copied.map Entry.id} := by
    ext id
    rw [mem_readable_iff distinct]
    simp [copied, kept, and_assoc]
  have apart : (copied.map Entry.id).Nodup :=
    List.Nodup.sublist ((List.filter_sublist.trans List.filter_sublist).map Entry.id) distinct
  have counted : e.readable.ncard = copied.length := by
    rw [ids, ← List.coe_toFinset, Set.ncard_coe_finset, List.toFinset_card_of_nodup apart, List.length_map]
  rw [counted, locked, Nat.add_comm]
  exact List.length_eq_length_filter_add _

end Engine

/-! ## The answer -/

/-- The request for the health of the service. -/
def Request.forHealth : Request :=
  ⟨"GET", "/api/v1/health", none⟩

namespace Service

open Text

/-- What is told about an engine and a number of runs that are kept. -/
def healthBody (e : Engine) (retained : Nat) : Data :=
  Data.ofFields
    [("status", .str "healthy"), ("activeExecutions", .int e.store.active.length),
     ("retainedExecutions", .int retained), ("timestamp", .str e.clock.now.text)]

theorem healthBody_inj {e : Engine} {m n : Nat} : healthBody e m = healthBody e n ↔ m = n := by
  simp [healthBody, Data.ofFields]

/-- What is told about the health can be told to other programs. -/
theorem published_healthBody (e : Engine) (retained : Nat) :
    Json.published (healthBody e retained) = .ok (healthBody e retained) := by
  have word {s : String} (whole : IsWhole s) : Json.wholeText s = .ok s := by
    rw [Json.wholeText, encodingFault?_eq_none whole]
  have names : IsWhole "status" ∧ IsWhole "activeExecutions" ∧ IsWhole "retainedExecutions" ∧ IsWhole "timestamp" ∧
      IsWhole "healthy" := by decide
  have time : IsWhole e.clock.now.text := Instant.isWhole_textIn (by decide) _
  obtain ⟨status, active, retained, timestamp, healthy⟩ := names
  simp only [healthBody, Data.ofFields, List.map_cons, List.map_nil, Json.published, Json.publishedEntries,
    Json.publishedKey, word status, word active, word retained, word timestamp, word healthy, word time, Except.map,
    List.reverse_cons, List.reverse_nil, List.nil_append, List.cons_append]

/-- A service that was started tells how many entries its store has. -/
theorem answer_forHealth {s : Service} {e : Engine} (running : s.engine = some e) :
    (s.answer .forHealth).1 = ⟨200, some (healthBody e e.store.size), true⟩ := by
  have routed : Routing.of "GET" "/api/v1/health" = .found .health := by decide
  have told : (health e).1 = .ok ⟨200, some (healthBody e e.store.size), true⟩ := by
    change (Json.published (healthBody e e.store.size)).map _ = _
    rw [published_healthBody]
    rfl
  unfold answer handle Request.forHealth
  dsimp only
  rw [routed]
  unfold serve withRuns withEngine
  rw [running]
  dsimp only
  rw [told]

/-- Whatever an engine is asked for, and at what times, the number of runs that the service tells is that of the ids
whose record can be read, of the entries that are due, but still there, and of the entries whose record cannot be
copied.  So it tells the number of ids whose record can be read exactly if nothing in the store is due and every record
can be copied, and once what is due is taken out, only the records that cannot be copied are counted too. -/
theorem health_counts {e : Engine} (distinct : e.store.Distinct) (asked : List (Clock × Engine.Demand)) (now : Clock)
    (s : Service) (running : s.engine = some ((e.serveAll asked).timed now)) :
    let final := (e.serveAll asked).timed now
    let overdue := (final.store.purge now.reading).1
    (s.answer .forHealth).1 =
        ⟨200, some (healthBody final (overdue + (final.readable.ncard + final.locked.length))), true⟩ ∧
      ((s.answer .forHealth).1.body = some (healthBody final final.readable.ncard) ↔
        ∀ k ∈ final.store.entries, k.isDue now.reading = false ∧ k.record.vars.copyFault? = none) ∧
      (final.serve now .purge).store.size = final.readable.ncard + final.locked.length := by
  intro final overdue
  have apart : final.store.Distinct := Engine.distinct_serveAll distinct asked
  have kept : (final.store.purge now.reading).2.size = final.readable.ncard + final.locked.length :=
    Engine.size_purge_eq apart
  have counted : final.store.size = overdue + (final.readable.ncard + final.locked.length) :=
    kept ▸ final.store.size_purge now.reading
  have answered : (s.answer .forHealth).1 =
      ⟨200, some (healthBody final (overdue + (final.readable.ncard + final.locked.length))), true⟩ :=
    counted ▸ answer_forHealth running
  have unlocked : final.locked.length = 0 ↔
      ∀ k ∈ final.store.entries, k.isDue now.reading = false → k.record.vars.copyFault? = none :=
    List.length_eq_zero_iff.trans Engine.locked_eq_nil_iff
  refine ⟨answered, ?_, kept⟩
  calc (s.answer .forHealth).1.body = some (healthBody final final.readable.ncard)
    _ ↔ overdue + (final.readable.ncard + final.locked.length) = final.readable.ncard := by
      rw [answered, Option.some_inj, healthBody_inj]
    _ ↔ overdue = 0 ∧ final.locked.length = 0 := by omega
    _ ↔ ∀ k ∈ final.store.entries, k.isDue now.reading = false ∧ k.record.vars.copyFault? = none := by
      rw [Store.purge_eq_zero_iff, unlocked]
      exact ⟨fun ⟨early, free⟩ k listed => ⟨early k listed, free k listed (early k listed)⟩,
        fun each => ⟨fun k listed => (each k listed).1, fun k listed _ => (each k listed).2⟩⟩

/-- An engine that keeps records for two seconds, at some time after a run. -/
def ranOnce (now : Clock) : Engine :=
  ((Engine.engineKeeping 2.0).serveAll [(.start, .run (Engine.pair .ending) .null "")]).timed now

/-- The record of a run is counted as long as it can be read. -/
theorem health_counts_kept :
    (Engine.engineKeeping 2.0).store.Distinct ∧
      (answer ⟨Engine.keeping 2.0, .start, some (ranOnce .start)⟩ .forHealth).1.body =
        some (healthBody (ranOnce .start) (ranOnce .start).readable.ncard) := by
  have distinct : (Engine.engineKeeping 2.0).store.Distinct := List.nodup_nil
  have kept : ((ranOnce .start).store.entries.all fun k =>
      !k.isDue Clock.start.reading && k.record.vars.copyFault?.isNone) = true := by decide +kernel
  refine ⟨distinct, (health_counts distinct _ .start ⟨_, .start, some (ranOnce .start)⟩ rfl).2.1.mpr ?_⟩
  intro k listed
  simpa using List.all_eq_true.mp kept k listed

/-- After five seconds the record can no longer be read, and is still counted. -/
theorem health_counts_overdue :
    let late := ranOnce (Clock.start.advance 5.0)
    late.readable = ∅ ∧
      (answer ⟨Engine.keeping 2.0, .start, some late⟩ .forHealth).1 = ⟨200, some (healthBody late 1), true⟩ := by
  intro late
  have empty : (Engine.engineKeeping 2.0).store.Distinct := List.nodup_nil
  have distinct : late.store.Distinct := Engine.distinct_serveAll empty _
  have gone : (late.store.purge late.clock.reading).2.size = 0 := by decide +kernel
  have stays : late.store.size = 1 := by decide +kernel
  constructor
  · ext id
    rw [Engine.mem_readable_iff distinct, List.eq_nil_of_length_eq_zero gone]
    simp
  · exact stays ▸ answer_forHealth rfl

end Service

end WorkflowEngine
