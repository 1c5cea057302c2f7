import Mathlib
import WorkflowEngine.Proofs.Run.Record

/-!
# Runs apart from each other

The store of an engine holds the records of other runs.  A run under an id that is not taken goes on as if there were
none: `execute_eq` gives its answer and the entry that it leaves, in which only the retention of the store occurs, and
the other entries stay as they are unless they were due when it began.  `execute_isolated` compares two engines that
hold different records.
-/

namespace WorkflowEngine

namespace Store

variable {σ τ ρ κ : Type} (retention : σ) {kept : List (Entry τ ρ κ)} (last : Entry τ ρ κ)

/-- The last entry is found under its id if no other one has this id. -/
theorem find?_last (apart : ∀ e ∈ kept, e.id ≠ last.id) :
    (⟨retention, kept ++ [last]⟩ : Store σ τ ρ κ).find? last.id = some last := by
  have before : kept.find? (fun e => e.id == last.id) = none :=
    List.find?_eq_none.mpr fun e listed => by simpa using apart e listed
  simp [find?, List.find?_append, before]

/-- A change under the id of the last entry is a change of this entry if no other one has this id. -/
theorem change_last (apart : ∀ e ∈ kept, e.id ≠ last.id) (f : Entry τ ρ κ → Entry τ ρ κ) :
    (⟨retention, kept ++ [last]⟩ : Store σ τ ρ κ).change last.id f = ⟨retention, kept ++ [f last]⟩ := by
  have same : kept.map (fun e => if e.id == last.id then f e else e) = kept := by
    refine (List.map_congr_left fun e listed => ?_).trans (List.map_id kept)
    simp [apart e listed]
  unfold change
  rw [List.map_append, same]
  simp

/-- Lines that are written under the id of the last entry go into its log. -/
theorem append_last (apart : ∀ e ∈ kept, e.id ≠ last.id) (lines : List κ) :
    lines.foldl (fun s l => s.append last.id l) (⟨retention, kept ++ [last]⟩ : Store σ τ ρ κ) =
      ⟨retention, kept ++ [{ last with log := lines.reverse ++ last.log }]⟩ := by
  induction lines generalizing last with
  | nil => rfl
  | cons line rest ih =>
      rw [List.foldl_cons, append, change_last retention last apart]
      have further := ih { last with log := line :: last.log } apart
      simpa using further

/-- The log of an entry is read as long as the entry is not due. -/
theorem log_of_find? [LE τ] [DecidableLE τ] {s : Store σ τ ρ κ} {id : String} {e : Entry τ ρ κ}
    (found : s.find? id = some e) (now : τ) :
    (s.log now id).1 = if e.isDue now then [] else e.log.reverse := by
  unfold log live?
  rw [found]
  dsimp only
  split <;> rfl

end Store

namespace Engine

variable (e : Engine) (w : Workflow) (input : Data) (triggeredBy : String)

/-- How the next run is concluded. -/
def ended : Run × Scene :=
  (e.order w input).conclude (Run.pending e.nextId w.id w.version triggeredBy e.clock.now)
    (Scene.start e.clock e.transport)

/-- How long the record of the next run is kept. -/
def lasting : Except Fault Float :=
  e.store.retention.toFloat.map fun seconds => (e.ended w input triggeredBy).2.clock.reading + seconds

/-- What the next run leaves in the store. -/
def entered : Entry Float Run LogLine :=
  ⟨e.nextId, (e.ended w input triggeredBy).1, (e.ended w input triggeredBy).2.log,
    (e.lasting w input triggeredBy).toOption⟩

/-- The engine after the next run. -/
def after : Engine :=
  { e with
    issued := e.issued + 1
    clock := (e.ended w input triggeredBy).2.clock
    transport := (e.ended w input triggeredBy).2.transport
    store := ⟨e.store.retention, (e.store.purge e.clock.reading).2.entries ++ [e.entered w input triggeredBy]⟩ }

variable {e w input triggeredBy}

/-- No entry has the id of a run to come. -/
def IsNumbered (e : Engine) : Prop :=
  ∀ k ∈ e.store.entries, ∀ n, k.id = "exec-" ++ toString n → n ≤ e.issued

/-- Ids of runs tell them apart by their numbers. -/
theorem id_inj {m n : Nat} (same : "exec-" ++ toString m = "exec-" ++ toString n) : m = n :=
  Nat.repr_inj.mp ((String.append_right_inj "exec-").mp same)

/-- The id of the next run is not taken. -/
theorem IsNumbered.fresh (numbered : e.IsNumbered) : (e.store.purge e.clock.reading).2.find? e.nextId = none := by
  refine List.find?_eq_none.mpr fun k listed same => ?_
  have bound := numbered k (List.mem_of_mem_filter listed) (e.issued + 1) (beq_iff_eq.mp same)
  omega

/-- Fewer entries and another clock make no difference. -/
theorem IsNumbered.fewer (numbered : e.IsNumbered) {store : RunStore} (kept : store.entries ⊆ e.store.entries)
    (clock : Clock) : { e with store := store, clock := clock }.IsNumbered :=
  fun k listed => numbered k (kept listed)

/-- Looking up an entry takes at most this entry out of the store. -/
theorem live?_fewer (s : RunStore) (now : Float) (id : String) :
    (s.live? now id).2.retention = s.retention ∧ (s.live? now id).2.entries ⊆ s.entries := by
  unfold Store.live?
  split
  · exact ⟨rfl, List.Subset.refl _⟩
  · split
    · exact ⟨rfl, List.filter_subset_self _⟩
    · exact ⟨rfl, List.Subset.refl _⟩

/-- Reading a record only looks its entry up. -/
theorem get?_store (e : Engine) (id : String) :
    (e.get? id).2 = { e with store := (e.store.live? e.clock.reading id).2 } := by
  unfold Engine.get? Store.get?
  rcases e.store.live? e.clock.reading id with ⟨found, store⟩
  cases found <;> rfl

/-- Entries that are not due have other ids than the next run, if its id is not taken. -/
theorem apart_of_fresh (fresh : (e.store.purge e.clock.reading).2.find? e.nextId = none) :
    ∀ k ∈ (e.store.purge e.clock.reading).2.entries, k.id ≠ e.nextId := by
  intro k listed same
  exact List.find?_eq_none.mp fresh k listed (by simp [same])

/-- A run whose pending record is the last entry of the store puts what it is concluded with there. -/
theorem carryOut_last {kept : List (Entry Float Run LogLine)} {pending : Run} {retention : Number}
    (stored : e.store = ⟨retention, kept ++ [⟨pending.id, pending, [], none⟩]⟩) (apart : ∀ k ∈ kept, k.id ≠ pending.id) :
    let ended := (e.order w input).conclude pending (Scene.start e.clock e.transport)
    let lasting := retention.toFloat.map fun seconds => ended.2.clock.reading + seconds
    e.carryOut w input pending =
      (lasting.bind fun _ => ended.1.copy,
        { e with
          clock := ended.2.clock
          transport := ended.2.transport
          store := ⟨retention, kept ++ [⟨pending.id, ended.1, ended.2.log, lasting.toOption⟩]⟩ }) := by
  unfold carryOut Order.conclude
  rcases (e.order w input).carryOut (Scene.start e.clock e.transport) with ⟨outcome, s⟩
  have named := Order.settle_id pending outcome s
  dsimp only
  rcases settling : Order.settle pending outcome s with ⟨record, t⟩
  rw [settling] at named
  dsimp only at named ⊢
  have replaced : e.store.replace pending.id record = ⟨retention, kept ++ [⟨pending.id, record, [], none⟩]⟩ := by
    rw [stored]
    exact Store.change_last retention ⟨pending.id, pending, [], none⟩ apart _
  have logged := Store.append_last retention ⟨pending.id, record, [], none⟩ apart t.log.reverse
  simp only [List.reverse_reverse, List.append_nil] at logged
  have found := Store.find?_last retention ⟨pending.id, record, t.log, none⟩ apart
  have limited (limit : Float) := Store.change_last retention ⟨pending.id, record, t.log, none⟩ apart
    fun k => { k with deadline := some limit }
  rw [named, replaced, logged, RunStore.finalizeNow, found, RunStore.deadline]
  cases retention.toFloat with
  | error f => rfl
  | ok seconds =>
      dsimp only [Option.isSome, Except.map]
      rw [if_pos rfl, Store.finalize, limited]
      rfl

/-- Under an id that is not taken, a run is answered with what it is concluded with, and nothing else than its own
entry comes into the store. -/
theorem execute_eq (fresh : (e.store.purge e.clock.reading).2.find? e.nextId = none) :
    e.execute w input triggeredBy =
      ((e.lasting w input triggeredBy).bind fun _ => (e.ended w input triggeredBy).1.copy,
        e.after w input triggeredBy) := by
  have created : e.store.create e.clock.reading e.nextId
      (Run.pending e.nextId w.id w.version triggeredBy e.clock.now) =
        (.ok (), ⟨e.store.retention, (e.store.purge e.clock.reading).2.entries ++
          [⟨e.nextId, Run.pending e.nextId w.id w.version triggeredBy e.clock.now, [], none⟩]⟩) := by
    rw [Store.create, fresh]
    rfl
  unfold execute
  dsimp only
  rw [show (Run.pending e.nextId w.id w.version triggeredBy e.clock.now).id = e.nextId from rfl, created]
  exact carryOut_last rfl (apart_of_fresh fresh)

theorem IsNumbered.after (numbered : e.IsNumbered) : (e.after w input triggeredBy).IsNumbered := by
  refine List.forall_mem_append.mpr ⟨fun k listed n named => ?_, List.forall_mem_singleton.mpr fun n named => ?_⟩
  · exact Nat.le_succ_of_le (numbered k (List.mem_of_mem_filter listed) n named)
  · exact Nat.le_of_eq (id_inj named).symm

/-- The entry of a run is found under its id. -/
theorem find?_after (fresh : (e.store.purge e.clock.reading).2.find? e.nextId = none) :
    (e.after w input triggeredBy).store.find? e.nextId = some (e.entered w input triggeredBy) :=
  Store.find?_last _ (e.entered w input triggeredBy) (apart_of_fresh fresh)

/-- The log of a run is read back at any time after it, unless its entry is due by then. -/
theorem log_after (fresh : (e.store.purge e.clock.reading).2.find? e.nextId = none) (clock : Clock) :
    (log { e.after w input triggeredBy with clock := clock } e.nextId).1 =
      if (e.entered w input triggeredBy).isDue clock.reading then [] else (e.ended w input triggeredBy).2.log.reverse :=
  Store.log_of_find? (find?_after fresh) clock.reading

/-- The entry of a run is due from its deadline on. -/
theorem isDue_entered {seconds : Float} (retained : e.store.retention = .float seconds) (now : Float) :
    (e.entered w input triggeredBy).isDue now =
      decide ((e.after w input triggeredBy).clock.reading + seconds ≤ now) := by
  unfold entered lasting Entry.isDue
  rw [retained]
  rfl

/-- Engines that differ in the records they hold answer a run alike, as long as its id is not taken, and keep the same
entry for it.  Apart from this entry a run takes only those out of the store that were due when it began. -/
theorem execute_isolated (e : Engine) (s : RunStore) (w : Workflow) (input : Data) (triggeredBy : String)
    (retained : s.retention = e.store.retention)
    (fresh : (e.store.purge e.clock.reading).2.find? e.nextId = none)
    (fresh' : (s.purge e.clock.reading).2.find? e.nextId = none) :
    let other := { e with store := s }
    let mine := (e.execute w input triggeredBy).2
    let yours := (other.execute w input triggeredBy).2
    (other.execute w input triggeredBy).1 = (e.execute w input triggeredBy).1 ∧
      (yours.log e.nextId).1 = (mine.log e.nextId).1 ∧
      ∃ entry : Entry Float Run LogLine, entry.id = e.nextId ∧
        mine.store.entries = e.store.entries.filter (fun k => !k.isDue e.clock.reading) ++ [entry] ∧
        yours.store.entries = s.entries.filter (fun k => !k.isDue e.clock.reading) ++ [entry] ∧
        yours = { mine with store := yours.store } := by
  obtain ⟨retention, entries⟩ := s
  cases retained
  intro other mine yours
  have first : e.execute w input triggeredBy = _ := execute_eq fresh
  have second : other.execute w input triggeredBy = _ := execute_eq (e := other) fresh'
  refine ⟨?_, ?_, e.entered w input triggeredBy, rfl, ?_, ?_, ?_⟩
  · rw [first, second]
    rfl
  · change ((other.execute w input triggeredBy).2.log e.nextId).1 = ((e.execute w input triggeredBy).2.log e.nextId).1
    rw [first, second]
    exact (log_after (e := other) fresh' _).trans (log_after fresh _).symm
  · change (e.execute w input triggeredBy).2.store.entries = _
    rw [first]
    rfl
  · change (other.execute w input triggeredBy).2.store.entries = _
    rw [second]
    rfl
  · change (other.execute w input triggeredBy).2 =
      { (e.execute w input triggeredBy).2 with store := (other.execute w input triggeredBy).2.store }
    rw [first, second]
    rfl

/-- A store with the record of a run under way and one that is due. -/
def crowded : RunStore :=
  ⟨usualRetention, [⟨"exec-7", Run.pending "exec-7" "other" 1 "" (.ofSeconds 0.0), [], none⟩,
    ⟨"exec-8", Run.pending "exec-8" "other" 1 "" (.ofSeconds 0.0), [], some 1.0⟩]⟩

theorem execute_pair_isolated :
    let e := fresh .empty
    let w := pair .ending
    crowded.retention = e.store.retention ∧ (e.store.purge e.clock.reading).2.find? e.nextId = none ∧
      (crowded.purge e.clock.reading).2.find? e.nextId = none ∧
      ∃ entry : Entry Float Run LogLine, entry.id = e.nextId ∧
        (execute { e with store := crowded } w .null "").2.store.entries =
          [⟨"exec-7", Run.pending "exec-7" "other" 1 "" (.ofSeconds 0.0), [], none⟩, entry] := by
  intro e w
  have unused : (crowded.purge e.clock.reading).2.find? e.nextId = none := by
    decide +kernel
  obtain ⟨-, -, entry, named, -, kept, -⟩ := execute_isolated e crowded w .null "" rfl rfl unused
  have due : decide ((1.0 : Float) ≤ e.clock.reading) = true := by
    decide +kernel
  simp only [crowded, List.filter, Entry.isDue, due] at kept
  exact ⟨rfl, rfl, unused, entry, named, kept⟩

end Engine

end WorkflowEngine
