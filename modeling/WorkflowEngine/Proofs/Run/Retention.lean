import WorkflowEngine.Proofs.Decimal.Bound
import WorkflowEngine.Proofs.Reading.Reason
import WorkflowEngine.Proofs.Reading.Telling
import WorkflowEngine.Proofs.Run.Installed

/-!
# How long records are kept

A configuration says for how long records are kept, and accepts every double that is not below zero, infinity and the
missing number among them.  The record of a run is there until the clock reaches the deadline that is set when the run
ends, whatever else the engine is asked for, and gone from then on.  `record_ends` says when the clock reaches it.
-/

namespace WorkflowEngine

/-! ## Configurations -/

namespace Reading

variable {α β : Type}

/-- Whatever is read has a property. -/
def Ensures (P : α → Prop) (r : Reading α) : Prop :=
  ∀ a, r = .ok a → P a

/-- A property of a whole that its last part has no influence on. -/
theorem Ensures.seq {P : β → Prop} {f : Reading (α → β)} {r : Reading α} (head : f.Ensures fun g => ∀ a, P (g a)) :
    (f <*> r).Ensures P := by
  intro b read
  obtain ⟨g, a, first, -, rfl⟩ := seq_eq_ok read
  exact head g first a

/-- A property of a whole that comes from its last part. -/
theorem Ensures.last {P : β → Prop} {Q : α → Prop} {f : Reading (α → β)} {r : Reading α} (part : r.Ensures Q)
    (head : f.Ensures fun g => ∀ a, Q a → P (g a)) : (f <*> r).Ensures P := by
  intro b read
  obtain ⟨g, a, first, second, rfl⟩ := seq_eq_ok read
  exact head g first a (part a second)

theorem Ensures.map {P : β → Prop} {f : α → β} {r : Reading α} (holds : ∀ a, P (f a)) : (f <$> r).Ensures P := by
  intro b read
  obtain ⟨a, -, rfl⟩ := map_eq_ok read
  exact holds a

theorem Ensures.withDefault {P : α → Prop} {s : Spelling} {entries : List (Data × Data)} {name : String} {fallback : α}
    {read : Data → Reading α} (usual : P fallback) (given : ∀ d, (read d).Ensures P) :
    (withDefault s entries name fallback read).Ensures P := by
  intro a found
  unfold Reading.withDefault at found
  split at found
  · exact given _ a (inside_eq_ok found)
  · cases found
    exact usual

end Reading

namespace Config

open Reading

/-- The configuration is read from entries, or from the environment. -/
def IsAccepted (c : Config) : Prop :=
  (∃ entries, ofEntries entries = .ok c) ∨ ∃ environment, Environment.config environment = .ok c

/-- A length of time that is read does not lie below zero; it need not be a number, though. -/
theorem ensures_readRetention (d : Data) : (readRetention d).Ensures fun seconds => ¬ seconds < 0.0 := by
  intro seconds read
  obtain ⟨x, -, kept⟩ := check_eq_ok read
  split at kept
  · cases kept
  · cases kept
    assumption

theorem ensures_ofEntries (entries : List (Data × Data)) :
    (ofEntries entries).Ensures fun c => ¬ c.retentionSeconds < 0.0 := by
  unfold ofEntries
  -- Ten fields are read behind the length of time, and six in front of it.
  iterate 10 refine Ensures.seq ?_
  refine Ensures.last (.withDefault (by decide +kernel) ensures_readRetention) ?_
  iterate 5 refine Ensures.seq ?_
  exact .map fun _ _ _ _ _ _ _ positive _ _ _ _ _ _ _ _ _ _ => positive

theorem IsAccepted.not_negative {c : Config} (accepted : c.IsAccepted) : ¬ c.retentionSeconds < 0.0 := by
  rcases accepted with ⟨entries, read⟩ | ⟨environment, read⟩
  · exact ensures_ofEntries entries c read
  · unfold Environment.config at read
    split at read
    · cases read
    · exact ensures_ofEntries _ c read

end Config

/-! ## What an engine is asked for -/

namespace Store

variable {σ τ ρ κ : Type} {s : Store σ τ ρ κ} {id name : String} {k : Entry τ ρ κ}

theorem under_remove_of_ne (ne : id ≠ name) : (s.remove name).under id = s.under id := by
  unfold under remove
  rw [List.filter_filter]
  refine List.filter_congr fun k _ => ?_
  by_cases hit : k.id = id
  · simp [hit, ne]
  · simp [hit]

theorem under_remove_self : (s.remove id).under id = [] := by
  unfold under remove
  rw [List.filter_filter, List.filter_eq_nil_iff]
  intro k _
  simp

variable [LE τ] [DecidableLE τ]

/-- Looking entries up takes the only one under an id out of the store at most when it is due. -/
theorem under_live? (alone : s.under id = [k]) (now : τ) (name : String) :
    (s.live? now name).2.under id = [k] ∨ (s.live? now name).2.under id = [] ∧ k.isDue now = true := by
  unfold live?
  by_cases same : id = name
  · subst same
    rw [find?_of_under alone]
    dsimp only
    split
    · exact .inr ⟨under_remove_self, ‹_›⟩
    · exact .inl alone
  · split
    · exact .inl alone
    · split
      · exact .inl ((under_remove_of_ne same).trans alone)
      · exact .inl alone

theorem under_live?_nil (lost : s.under id = []) (now : τ) (name : String) : (s.live? now name).2.under id = [] := by
  unfold live?
  split
  · exact lost
  · split
    · by_cases same : id = name
      · exact same ▸ under_remove_self
      · exact (under_remove_of_ne same).trans lost
    · exact lost

end Store

namespace Engine

variable {e : Engine} {id : String} {k : Entry Float Run LogLine}

/-- What an engine is asked for. -/
inductive Demand where
  | run (w : Workflow) (input : Data) (triggeredBy : String)
  | record (id : String)
  | log (id : String)
  | purge

/-- The engine at a time. -/
def timed (e : Engine) (clock : Clock) : Engine :=
  { e with clock := clock }

/-- The engine when it was asked for something at a time. -/
def serve (e : Engine) (clock : Clock) : Demand → Engine
  | .run w input triggeredBy => ((e.timed clock).execute w input triggeredBy).2
  | .record id => ((e.timed clock).get? id).2
  | .log id => ((e.timed clock).log id).2
  | .purge => { e.timed clock with store := (e.store.purge clock.reading).2 }

/-- The engine when it was asked for one thing after another. -/
def serveAll (e : Engine) (asked : List (Clock × Demand)) : Engine :=
  asked.foldl (fun e a => e.serve a.1 a.2) e

/-- Asking for a record looks it up, as asking for its log does. -/
theorem serve_record (e : Engine) (clock : Clock) (id : String) :
    e.serve clock (.record id) = e.serve clock (.log id) :=
  get?_store (e.timed clock) id

/-- An engine whose ids of runs are those that it has given out, and which keeps records for a length of time. -/
structure Keeps (retention : Number) (e : Engine) : Prop where
  retention : e.store.retention = retention
  numbered : e.IsNumbered

variable {retention : Number}

theorem keeps_ofConfig (registry : Registry) (transport : Http.Transport) (clock : Clock) (isPermissive : Bool)
    (c : Config) : (ofConfig registry transport clock isPermissive c).Keeps (.float c.retentionSeconds) :=
  ⟨rfl, fun _ listed => absurd listed List.not_mem_nil⟩

namespace Keeps

theorem timed (keeps : e.Keeps retention) (clock : Clock) : (e.timed clock).Keeps retention :=
  ⟨keeps.retention, keeps.numbered⟩

theorem looked (keeps : e.Keeps retention) (now : Float) (name : String) :
    { e with store := (e.store.live? now name).2 }.Keeps retention := by
  obtain ⟨retained, fewer⟩ := live?_fewer e.store now name
  exact ⟨retained.trans keeps.retention, keeps.numbered.fewer fewer e.clock⟩

/-- An engine goes on with what a run leaves. -/
theorem serve_run (keeps : e.Keeps retention) (clock : Clock) (w : Workflow) (input : Data) (triggeredBy : String) :
    e.serve clock (.run w input triggeredBy) = (e.timed clock).after w input triggeredBy :=
  congrArg Prod.snd (execute_eq (keeps.timed clock).numbered.fresh)

theorem serve (keeps : e.Keeps retention) (clock : Clock) (d : Demand) : (e.serve clock d).Keeps retention := by
  cases d with
  | run w input triggeredBy =>
      rw [keeps.serve_run]
      exact ⟨keeps.retention, IsNumbered.after (keeps.timed clock).numbered⟩
  | record id =>
      rw [serve_record]
      exact (keeps.timed clock).looked _ _
  | log id => exact (keeps.timed clock).looked _ _
  | purge => exact ⟨keeps.retention, keeps.numbered.fewer (List.filter_subset_self _) clock⟩

theorem serveAll (keeps : e.Keeps retention) (asked : List (Clock × Demand)) : (e.serveAll asked).Keeps retention := by
  induction asked generalizing e with
  | nil => exact keeps
  | cons a rest ih => exact ih (keeps.serve a.1 a.2)

end Keeps

/-! ## An entry followed through what comes later -/

theorem issued_le_serve (keeps : e.Keeps retention) (clock : Clock) (d : Demand) :
    e.issued ≤ (e.serve clock d).issued := by
  cases d with
  | run w input triggeredBy =>
      rw [keeps.serve_run]
      exact Nat.le_succ _
  | record id =>
      rw [serve_record]
      exact Nat.le_refl _
  | log id => exact Nat.le_refl _
  | purge => exact Nat.le_refl _

/-- Whatever an engine is asked for, an entry stays in its store as long as it is not due. -/
theorem under_serve (keeps : e.Keeps retention) {n : Nat} (given : n ≤ e.issued)
    (alone : e.store.under ("exec-" ++ toString n) = [k]) (clock : Clock) (d : Demand) :
    (e.serve clock d).store.under ("exec-" ++ toString n) = [k] ∨
      (e.serve clock d).store.under ("exec-" ++ toString n) = [] ∧ k.isDue clock.reading = true := by
  have kept : (([k] : List (Entry Float Run LogLine)).filter fun k => !k.isDue clock.reading) = [k] ∨
      (([k] : List (Entry Float Run LogLine)).filter fun k => !k.isDue clock.reading) = [] ∧
        k.isDue clock.reading = true := by
    cases due : k.isDue clock.reading with
    | true => exact .inr ⟨by simp [due], rfl⟩
    | false => exact .inl (by simp [due])
  cases d with
  | run w input triggeredBy =>
      rw [keeps.serve_run, under_after_of_given (e := e.timed clock) given]
      exact alone.symm ▸ kept
  | record id =>
      rw [serve_record]
      exact Store.under_live? alone clock.reading id
  | log id => exact Store.under_live? alone clock.reading id
  | purge =>
      change (e.store.purge clock.reading).2.under _ = _ ∨ (e.store.purge clock.reading).2.under _ = _ ∧ _
      rw [Store.under_purge, alone]
      exact kept

/-- Nothing comes back under an id that was given out before. -/
theorem under_serve_nil (keeps : e.Keeps retention) {n : Nat} (given : n ≤ e.issued)
    (lost : e.store.under ("exec-" ++ toString n) = []) (clock : Clock) (d : Demand) :
    (e.serve clock d).store.under ("exec-" ++ toString n) = [] := by
  cases d with
  | run w input triggeredBy =>
      rw [keeps.serve_run, under_after_of_given (e := e.timed clock) given]
      exact congrArg (List.filter _) lost
  | record id =>
      rw [serve_record]
      exact Store.under_live?_nil lost clock.reading id
  | log id => exact Store.under_live?_nil lost clock.reading id
  | purge =>
      change (e.store.purge clock.reading).2.under _ = _
      rw [Store.under_purge, lost]
      rfl

theorem under_serveAll_nil (keeps : e.Keeps retention) {n : Nat} (given : n ≤ e.issued)
    (lost : e.store.under ("exec-" ++ toString n) = []) (asked : List (Clock × Demand)) :
    (e.serveAll asked).store.under ("exec-" ++ toString n) = [] := by
  induction asked generalizing e with
  | nil => exact lost
  | cons a rest ih =>
      exact ih (keeps.serve a.1 a.2) (given.trans (issued_le_serve keeps a.1 a.2))
        (under_serve_nil keeps given lost a.1 a.2)

/-- Whatever an engine is asked for from some time on, an entry stays in its store unless it is due at a time at which
the engine is asked. -/
theorem under_serveAll (keeps : e.Keeps retention) {n : Nat} (given : n ≤ e.issued)
    (alone : e.store.under ("exec-" ++ toString n) = [k]) (asked : List (Clock × Demand)) :
    (e.serveAll asked).store.under ("exec-" ++ toString n) = [k] ∨
      (e.serveAll asked).store.under ("exec-" ++ toString n) = [] ∧
        ∃ a ∈ asked, k.isDue a.1.reading = true := by
  induction asked generalizing e with
  | nil => exact .inl alone
  | cons a rest ih =>
      have later := issued_le_serve keeps a.1 a.2
      rcases under_serve keeps given alone a.1 a.2 with stays | ⟨lost, due⟩
      · rcases ih (keeps.serve a.1 a.2) (given.trans later) stays with stays | ⟨lost, b, listed, due⟩
        · exact .inl stays
        · exact .inr ⟨lost, b, List.mem_cons_of_mem _ listed, due⟩
      · exact .inr ⟨under_serveAll_nil (keeps.serve a.1 a.2) (given.trans later) lost rest, a, List.mem_cons_self, due⟩

/-! ## The end of a record -/

/-- Nothing is read under an id at a time, and nothing stands there once what is due is taken out. -/
structure Lacks (e : Engine) (now : Clock) (id : String) : Prop where
  record : ((e.timed now).get? id).1 = .ok none
  log : ((e.timed now).log id).1 = []
  purged : (e.store.purge now.reading).2.find? id = none

/-- An entry is read under an id at a time, and stands there when what is due is taken out. -/
structure Holds (e : Engine) (now : Clock) (id : String) (k : Entry Float Run LogLine) : Prop where
  record : ((e.timed now).get? id).1 = k.record.copy.map some
  log : ((e.timed now).log id).1 = k.log.reverse
  kept : (e.store.purge now.reading).2.find? id = some k

theorem lacks_of_nil (lost : e.store.under id = []) (now : Clock) : e.Lacks now id := by
  have missing : e.store.find? id = none := Store.find?_of_under_nil lost
  refine ⟨?_, Store.log_of_missing missing now.reading, ?_⟩
  · exact get?_of_missing (e := e.timed now) (Store.get?_of_missing missing now.reading)
  · exact Store.find?_of_under_nil (by rw [Store.under_purge, lost]; rfl)

theorem lacks_of_due (alone : e.store.under id = [k]) {now : Clock} (due : k.isDue now.reading = true) :
    e.Lacks now id := by
  have found : e.store.find? id = some k := Store.find?_of_under alone
  refine ⟨?_, ?_, ?_⟩
  · exact get?_of_missing (e := e.timed now) ((Store.get?_of_find? found now.reading).trans (if_pos due))
  · exact (Store.log_of_find? found now.reading).trans (if_pos due)
  · exact Store.find?_of_under_nil (by rw [Store.under_purge, alone]; simp [due])

theorem holds_of_not_due (alone : e.store.under id = [k]) {now : Clock} (waits : k.isDue now.reading = false) :
    e.Holds now id k := by
  have found : e.store.find? id = some k := Store.find?_of_under alone
  have early : ¬ k.isDue now.reading = true := Bool.eq_false_iff.mp waits
  refine ⟨?_, ?_, ?_⟩
  · exact get?_of_found (e := e.timed now) ((Store.get?_of_find? found now.reading).trans (if_neg early))
  · exact (Store.log_of_find? found now.reading).trans (if_neg early)
  · exact Store.find?_of_under (by rw [Store.under_purge, alone]; simp [waits])

/-- The clock at which every finite deadline is reached. -/
def lastClock : Clock := ⟨Decimal.largest, false, []⟩

theorem reading_lastClock : lastClock.reading = Decimal.largest := by
  decide +kernel

/-- The record of a run stays until its deadline, whatever the engine is asked for after the run, and is gone from then
on. -/
theorem record_until {seconds : Float} (keeps : e.Keeps (.float seconds)) (clock : Clock) (w : Workflow) (input : Data)
    (triggeredBy : String) (later : List (Clock × Demand)) (now : Clock) :
    let ran := e.serve clock (.run w input triggeredBy)
    let limit := ran.clock.reading + seconds
    (limit ≤ now.reading → (ran.serveAll later).Lacks now e.nextId) ∧
      ((∀ a ∈ later, ¬ limit ≤ a.1.reading) → ¬ limit ≤ now.reading →
        (ran.serveAll later).Holds now e.nextId ((e.timed clock).entered w input triggeredBy)) := by
  intro ran limit
  have numbered : (e.timed clock).IsNumbered := (keeps.timed clock).numbered
  have same : ran = (e.timed clock).after w input triggeredBy := keeps.serve_run clock w input triggeredBy
  have due (reading : Float) :
      ((e.timed clock).entered w input triggeredBy).isDue reading = decide (limit ≤ reading) := by
    rw [isDue_entered (keeps.timed clock).retention, ← same]
  have given : e.issued + 1 ≤ ran.issued := Nat.le_of_eq (same ▸ rfl)
  have alone : ran.store.under e.nextId = [(e.timed clock).entered w input triggeredBy] :=
    same ▸ under_after numbered w input triggeredBy
  rcases under_serveAll (keeps.serve clock (.run w input triggeredBy)) given alone later with
    stays | ⟨lost, a, listed, passed⟩
  · refine ⟨fun reached => lacks_of_due stays ((due _).trans (decide_eq_true reached)), fun _ waits => ?_⟩
    exact holds_of_not_due stays ((due _).trans (decide_eq_false waits))
  · refine ⟨fun _ => lacks_of_nil lost now, fun early _ => absurd ?_ (early a listed)⟩
    exact of_decide_eq_true ((due _).symm.trans passed)

/-- The record of a run stays until its deadline, which a configuration that was accepted sets, and is gone from then
on.  If the deadline is finite, the clock reaches it at a finite time, and nothing is read from then on, whatever the
engine is asked for.  If records are to be kept for an infinite or a missing length of time, as a configuration may say,
the clock does not reach it at any finite time, and the record stays for good. -/
theorem record_ends {c : Config} (accepted : c.IsAccepted) (registry : Registry) (transport : Http.Transport)
    (start : Clock) (isPermissive : Bool) (earlier : List (Clock × Demand)) (clock : Clock) (w : Workflow) (input : Data)
    (triggeredBy : String) :
    let e := (ofConfig registry transport start isPermissive c).serveAll earlier
    let ran := e.serve clock (.run w input triggeredBy)
    let limit := ran.clock.reading + c.retentionSeconds
    let k := (e.timed clock).entered w input triggeredBy
    (∀ later now, limit ≤ now.reading → (ran.serveAll later).Lacks now e.nextId) ∧
      (∀ later now, (∀ a ∈ later, ¬ limit ≤ a.1.reading) → ¬ limit ≤ now.reading →
        (ran.serveAll later).Holds now e.nextId k) ∧
      (limit.isFinite = true → ∃ now : Clock, now.reading.isFinite = true ∧ ran.clock.reading ≤ now.reading ∧
        ∀ later, (ran.serveAll later).Lacks now e.nextId) ∧
      (c.retentionSeconds.isFinite = false → ran.clock.reading.isFinite = true → ∀ later now,
        (∀ a ∈ later, a.1.reading.isFinite = true) → now.reading.isFinite = true →
          (ran.serveAll later).Holds now e.nextId k) := by
  intro e ran limit k
  have keeps : e.Keeps (.float c.retentionSeconds) :=
    (keeps_ofConfig registry transport start isPermissive c).serveAll earlier
  have ends := record_until keeps clock w input triggeredBy
  refine ⟨fun later now => (ends later now).1, fun later now => (ends later now).2, fun finite => ?_,
    fun unbounded begun later now others finite => ?_⟩
  · refine ⟨lastClock, by rw [reading_lastClock]; decide +kernel, ?_, fun later => (ends later lastClock).1 ?_⟩
    · rw [reading_lastClock]
      exact Decimal.le_largest_of_isFinite (Decimal.isFinite_of_add finite)
    · rw [reading_lastClock]
      exact Decimal.le_largest_of_isFinite finite
  · have never {x : Float} (finite : x.isFinite = true) : ¬ limit ≤ x := fun reached =>
      Decimal.not_add_le_largest begun unbounded accepted.not_negative (Decimal.le_largest_of_le reached finite)
    exact (ends later now).2 (fun a listed => never (others a listed)) (never finite)

/-- A configuration that says for how long records are kept, and nothing else. -/
def keeping (seconds : Float) : Config :=
  { Config.usual with retentionSeconds := seconds }

/-- An engine as it describes it. -/
def engineKeeping (seconds : Float) : Engine :=
  ofConfig .empty ⟨[], []⟩ .start false (keeping seconds)

theorem ofEntries_keeping {seconds : Float} (positive : ¬ seconds < 0.0) :
    Config.ofEntries [(.str "execution_retention_seconds", .float seconds)] = .ok (keeping seconds) := by
  have read : Config.readRetention (.float seconds) = .ok seconds := if_neg positive
  have given : Reading.withDefault .plain [(.str "execution_retention_seconds", .float seconds)]
      "execution_retention_seconds" Config.usual.retentionSeconds Config.readRetention = .ok seconds := by
    change (Config.readRetention (.float seconds)).inside _ = _
    rw [read]
    rfl
  unfold Config.ofEntries
  dsimp only
  rw [given]
  rfl

/-- A record that is kept for two seconds is gone after five, and at some finite time whatever else is asked for. -/
theorem record_ends_keeping :
    let ran := (engineKeeping 2.0).serve .start (.run (pair .ending) .null "")
    (keeping 2.0).IsAccepted ∧ (ran.clock.reading + (keeping 2.0).retentionSeconds).isFinite = true ∧
      ran.Lacks (Clock.start.advance 5.0) "exec-1" ∧
      ∃ now : Clock, now.reading.isFinite = true ∧ ran.clock.reading ≤ now.reading ∧
        ∀ later, (ran.serveAll later).Lacks now "exec-1" := by
  intro ran
  have accepted : (keeping 2.0).IsAccepted := .inl ⟨_, ofEntries_keeping (by decide +kernel)⟩
  have finite : (ran.clock.reading + (keeping 2.0).retentionSeconds).isFinite = true := by decide +kernel
  have reached : ran.clock.reading + (keeping 2.0).retentionSeconds ≤ (Clock.start.advance 5.0).reading := by
    decide +kernel
  have named : (engineKeeping 2.0).nextId = "exec-1" := by decide +kernel
  obtain ⟨gone, -, ends, -⟩ := record_ends accepted .empty ⟨[], []⟩ .start false [] .start (pair .ending) .null ""
  refine ⟨accepted, finite, ?_, ?_⟩
  · exact named ▸ gone [] _ reached
  · exact named ▸ ends finite

/-- A configuration may give the missing number as the time for which records are kept, also as a word in the
environment.  The record of a run is then read at every finite time. -/
theorem missing_retention_lasts :
    let seconds := Decimal.missingNumber
    let e := engineKeeping seconds
    Config.ofEntries [(.str "execution_retention_seconds", .float seconds)] = .ok (keeping seconds) ∧
      (match Environment.config [("NODEFLOW_EXECUTION_RETENTION_SECONDS", "nan")] with
        | .ok c => c.retentionSeconds.isNaN
        | _ => false) = true ∧
      ∀ now : Clock, now.reading.isFinite = true →
        (e.serve .start (.run (pair .ending) .null "")).Holds now "exec-1" (e.entered (pair .ending) .null "") := by
  intro seconds e
  have positive : ¬ seconds < 0.0 := by decide +kernel
  have unbounded : seconds.isFinite = false := by decide +kernel
  have keeps : e.Keeps (.float seconds) := keeps_ofConfig .empty ⟨[], []⟩ .start false (keeping seconds)
  have begun : (e.serve .start (.run (pair .ending) .null "")).clock.reading.isFinite = true := by decide +kernel
  have named : e.nextId = "exec-1" := by decide +kernel
  refine ⟨ofEntries_keeping positive, by decide +kernel, fun now finite => ?_⟩
  have lasts := (record_until keeps .start (pair .ending) .null "" [] now).2 (fun _ listed => nomatch listed) fun reached =>
    Decimal.not_add_le_largest begun unbounded positive (Decimal.le_largest_of_le reached finite)
  exact named ▸ lasts

end Engine

end WorkflowEngine
