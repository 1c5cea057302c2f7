import Mathlib
import WorkflowEngine.Proofs.Run.Isolation

/-!
# Engines with a store of their own

An engine may be given a store when it is made.  It works on this store if there is an entry in it, and on a fresh one
otherwise.  `Installed.given_keeps` follows a run through the store that was given: its entry comes into it, and is read
there as by the engine until its deadline, which is set by the retention of that store.
-/

namespace WorkflowEngine

namespace Store

variable {σ τ ρ κ : Type} {s : Store σ τ ρ κ} {id : String}

/-- The entries under an id. -/
def under (s : Store σ τ ρ κ) (id : String) : List (Entry τ ρ κ) :=
  s.entries.filter fun e => e.id == id

theorem find?_eq_head? (s : Store σ τ ρ κ) (id : String) : s.find? id = (s.under id).head? :=
  List.head?_filter.symm

theorem find?_of_under {k : Entry τ ρ κ} (alone : s.under id = [k]) : s.find? id = some k := by
  rw [find?_eq_head?, alone]
  rfl

theorem find?_of_under_nil (lost : s.under id = []) : s.find? id = none := by
  rw [find?_eq_head?, lost]
  rfl

variable [LE τ] [DecidableLE τ]

theorem under_purge (s : Store σ τ ρ κ) (now : τ) (id : String) :
    (s.purge now).2.under id = (s.under id).filter fun k => !k.isDue now := by
  unfold under purge
  rw [List.filter_filter, List.filter_filter]
  exact List.filter_congr fun k _ => Bool.and_comm _ _

/-- The record of an entry is read as long as the entry is not due. -/
theorem get?_of_find? {e : Entry τ ρ κ} (found : s.find? id = some e) (now : τ) :
    (s.get? now id).1 = if e.isDue now then none else some e.record := by
  unfold get? live?
  rw [found]
  dsimp only
  split <;> rfl

theorem get?_of_missing (missing : s.find? id = none) (now : τ) : (s.get? now id).1 = none := by
  rw [get?, live?, missing]
  rfl

theorem log_of_missing (missing : s.find? id = none) (now : τ) : (s.log now id).1 = [] := by
  rw [log, live?, missing]
  rfl

/-- What is read under an id with one entry, or with none if that one is gone. -/
theorem read_of_under {k : Entry τ ρ κ} {isGone : Entry τ ρ κ → Bool}
    (left : s.under id = [k].filter fun k => !isGone k) (now : τ) :
    (s.get? now id).1 = (if isGone k || k.isDue now then none else some k.record) ∧
      (s.log now id).1 = if isGone k || k.isDue now then [] else k.log.reverse := by
  cases gone : isGone k with
  | true =>
      have missing : s.find? id = none := find?_of_under_nil (by rw [left]; simp [gone])
      exact ⟨get?_of_missing missing now, log_of_missing missing now⟩
  | false =>
      have found : s.find? id = some k := find?_of_under (by rw [left]; simp [gone])
      rw [Bool.false_or]
      exact ⟨get?_of_find? found now, log_of_find? found now⟩

end Store

/-- An engine reads a record in its store, and answers with a copy. -/
theorem Engine.get?_eq (e : Engine) (id : String) :
    (e.get? id).1 =
      match (e.store.get? e.clock.reading id).1 with
      | none => .ok none
      | some record => record.copy.map some := by
  unfold Engine.get?
  rcases e.store.get? e.clock.reading id with ⟨found, store⟩
  cases found <;> rfl

namespace Engine

variable {e : Engine} {id : String}

theorem get?_of_missing (missing : (e.store.get? e.clock.reading id).1 = none) : (e.get? id).1 = .ok none := by
  rw [get?_eq, missing]

theorem get?_of_found {record : Run} (found : (e.store.get? e.clock.reading id).1 = some record) :
    (e.get? id).1 = record.copy.map some := by
  rw [get?_eq, found]

/-- The entry of a run is the only one under its id. -/
theorem under_after (numbered : e.IsNumbered) (w : Workflow) (input : Data) (triggeredBy : String) :
    (e.after w input triggeredBy).store.under e.nextId = [e.entered w input triggeredBy] := by
  have others : (e.store.purge e.clock.reading).2.entries.filter (fun k => k.id == e.nextId) = [] :=
    List.filter_eq_nil_iff.mpr (List.find?_eq_none.mp numbered.fresh)
  change ((e.store.purge e.clock.reading).2.entries ++ [e.entered w input triggeredBy]).filter _ = _
  rw [List.filter_append, others]
  simp [entered]

/-- A run takes what is due from under an id that was given out before. -/
theorem under_after_of_given {n : Nat} (given : n ≤ e.issued) (w : Workflow) (input : Data) (triggeredBy : String) :
    (e.after w input triggeredBy).store.under ("exec-" ++ toString n) =
      (e.store.under ("exec-" ++ toString n)).filter fun k => !k.isDue e.clock.reading := by
  have other : ((e.entered w input triggeredBy).id == "exec-" ++ toString n) = false := by
    refine beq_false_of_ne fun same => ?_
    have counted : e.issued + 1 = n := id_inj same
    omega
  rw [← Store.under_purge]
  change ((e.store.purge e.clock.reading).2.entries ++ [e.entered w input triggeredBy]).filter _ = _
  rw [List.filter_append, List.filter_singleton, other]
  simp [Store.under]

end Engine

/-- A run that is asked for, and the time at which it is. -/
structure Call where
  clock : Clock
  workflow : Workflow
  input : Data
  triggeredBy : String

/-- An engine, and the store that was given to it. -/
structure Installed where
  engine : Engine
  given : RunStore
  /-- The engine works on the store that was given. -/
  isShared : Bool

namespace Installed

/-- An engine that is made with a store, on which it works unless it is empty. -/
def make (registry : Registry) (transport : Http.Transport) (clock : Clock) (retention : Number) (limit requestLimit : Int)
    (isPermissive : Bool) (s : RunStore) : Installed :=
  ⟨Engine.make registry transport clock retention limit requestLimit isPermissive (some s), s, s.size != 0⟩

/-- The engine when a run is asked for. -/
def asked (i : Installed) (c : Call) : Engine :=
  { i.engine with clock := c.clock }

/-- A run changes the store that was given if the engine works on it. -/
def run (i : Installed) (c : Call) : Installed :=
  let e := ((i.asked c).execute c.workflow c.input c.triggeredBy).2
  ⟨e, if i.isShared then e.store else i.given, i.isShared⟩

/-- Runs, one after the other. -/
def runAll (i : Installed) (calls : List Call) : Installed :=
  calls.foldl run i

/-- What a run leaves in the store on which the engine works. -/
def entry (i : Installed) (c : Call) : Entry Float Run LogLine :=
  (i.asked c).entered c.workflow c.input c.triggeredBy

/-- The engine works on the store that was given, whose ids of runs are those that it has given out. -/
structure Serves (s : RunStore) (i : Installed) : Prop where
  shared : i.isShared = true
  same : i.given = i.engine.store
  retention : i.engine.store.retention = s.retention
  numbered : ∀ k ∈ i.engine.store.entries, ∀ n, k.id = "exec-" ++ toString n → n ≤ i.engine.issued

variable {s : RunStore} {i : Installed}

theorem serves_make (registry : Registry) (transport : Http.Transport) (clock : Clock) (retention : Number)
    (limit requestLimit : Int) (isPermissive : Bool) (held : s.size ≠ 0)
    (foreign : ∀ k ∈ s.entries, ∀ n : Nat, k.id ≠ "exec-" ++ toString n) :
    (make registry transport clock retention limit requestLimit isPermissive s).Serves s := by
  have filled : (s.size != 0) = true := bne_iff_ne.mpr held
  have kept : (make registry transport clock retention limit requestLimit isPermissive s).engine.store = s := by
    change ((some s).filter fun s => s.size != 0).getD (.empty retention) = s
    rw [Option.filter_some, if_pos filled]
    rfl
  refine ⟨filled, kept.symm, congrArg Store.retention kept, ?_⟩
  rw [kept]
  intro k listed n same
  exact absurd same (foreign k listed n)

namespace Serves

/-- The id of the next run is not taken. -/
theorem fresh (serves : i.Serves s) (c : Call) :
    ((i.asked c).store.purge (i.asked c).clock.reading).2.find? (i.asked c).nextId = none :=
  Engine.IsNumbered.fresh (e := i.asked c) serves.numbered

/-- A run puts its entry behind those that are not due when it is asked for. -/
theorem engine_run (serves : i.Serves s) (c : Call) :
    (i.run c).engine = (i.asked c).after c.workflow c.input c.triggeredBy :=
  congrArg Prod.snd (Engine.execute_eq (serves.fresh c))

theorem run (serves : i.Serves s) (c : Call) : (i.run c).Serves s := by
  have ran := serves.engine_run c
  refine ⟨serves.shared, if_pos serves.shared, ?_, ?_⟩
  · rw [ran]
    exact serves.retention
  · rw [ran]
    exact Engine.IsNumbered.after (e := i.asked c) serves.numbered

theorem runAll (serves : i.Serves s) (calls : List Call) : (i.runAll calls).Serves s := by
  induction calls generalizing i with
  | nil => exact serves
  | cons c rest ih => exact ih (serves.run c)

/-- The entry of a run is the only one under its id. -/
theorem under_run (serves : i.Serves s) (c : Call) : (i.run c).given.under (i.asked c).nextId = [i.entry c] := by
  rw [(serves.run c).same, serves.engine_run c]
  exact Engine.under_after (e := i.asked c) serves.numbered _ _ _

/-- Later runs leave the entries under an id that was given out before, as long as they are not due. -/
theorem under_runAll (serves : i.Serves s) (later : List Call) {n : Nat} (given : n ≤ i.engine.issued) :
    (i.runAll later).given.under ("exec-" ++ toString n) =
      (i.given.under ("exec-" ++ toString n)).filter fun k => !later.any fun c => k.isDue c.clock.reading := by
  induction later generalizing i with
  | nil => simp [Installed.runAll]
  | cons c rest ih =>
      have issued : (i.run c).engine.issued = i.engine.issued + 1 := by rw [serves.engine_run c]; rfl
      have next : (i.run c).given.under ("exec-" ++ toString n) =
          (i.given.under ("exec-" ++ toString n)).filter fun k => !k.isDue c.clock.reading := by
        rw [(serves.run c).same, serves.engine_run c, serves.same]
        exact Engine.under_after_of_given (e := i.asked c) given _ _ _
      have further := ih (serves.run c) (by omega)
      rw [next, List.filter_filter] at further
      refine further.trans (List.filter_congr fun k _ => ?_)
      rw [List.any_cons, Bool.not_or, Bool.and_comm]

end Serves

/-- Runs of an engine that was given a store with some entry in it are registered in this store, logged there and
finished there: their records and logs are read in it as by the engine, until their deadlines, which are set by the
retention of this store, have passed when they are read or when a later run is asked for. -/
theorem given_keeps (registry : Registry) (transport : Http.Transport) (clock : Clock) (retention : Number)
    (limit requestLimit : Int) (isPermissive : Bool) (s : RunStore) (held : s.size ≠ 0)
    (foreign : ∀ k ∈ s.entries, ∀ n : Nat, k.id ≠ "exec-" ++ toString n) (earlier later : List Call) (c : Call)
    (reading : Clock) :
    let i := (make registry transport clock retention limit requestLimit isPermissive s).runAll earlier
    let id := (i.asked c).nextId
    let run := i.entry c
    let final := (i.run c).runAll later
    let isOver := (later.any fun c => run.isDue c.clock.reading) || run.isDue reading.reading
    let engine := { final.engine with clock := reading }
    (i.run c).given.find? id = some run ∧
      run.deadline = (s.retention.toFloat.map fun seconds => (i.run c).engine.clock.reading + seconds).toOption ∧
      (final.given.get? reading.reading id).1 = (if isOver then none else some run.record) ∧
      (final.given.log reading.reading id).1 = (if isOver then [] else run.log.reverse) ∧
      (engine.get? id).1 = (if isOver then .ok none else run.record.copy.map some) ∧
      (engine.log id).1 = (final.given.log reading.reading id).1 := by
  intro i id run final isOver engine
  have serves : i.Serves s :=
    (serves_make registry transport clock retention limit requestLimit isPermissive held foreign).runAll earlier
  have stored : (i.run c).given.find? id = some run := Store.find?_of_under (serves.under_run c)
  have left : final.given.under id = [run].filter fun k => !later.any fun c => k.isDue c.clock.reading := by
    have issued : (i.run c).engine.issued = i.engine.issued + 1 := by rw [serves.engine_run c]; rfl
    rw [← serves.under_run c]
    exact (serves.run c).under_runAll later (Nat.le_of_eq issued.symm)
  have same : final.given = final.engine.store := ((serves.run c).runAll later).same
  have limit : run.deadline =
      (s.retention.toFloat.map fun seconds => (i.run c).engine.clock.reading + seconds).toOption := by
    rw [← serves.retention, serves.engine_run c]
    rfl
  have read : (final.given.get? reading.reading id).1 = (if isOver then none else some run.record) ∧
      (final.given.log reading.reading id).1 = (if isOver then [] else run.log.reverse) :=
    Store.read_of_under left reading.reading
  refine ⟨stored, limit, read.1, read.2, ?_, ?_⟩
  · rw [Engine.get?_eq]
    change (match (final.engine.store.get? reading.reading id).1 with | none => _ | some record => _) = _
    rw [← same, read.1]
    cases isOver <;> rfl
  · exact congrArg (fun store : RunStore => (store.log reading.reading id).1) same.symm

/-- A store that keeps records for a second, with the record of some run under way. -/
def stocked : RunStore :=
  ⟨.float 1.0, [⟨"other", Run.pending "other" "w" 1 "" (.ofSeconds 0.0), [], none⟩]⟩

/-- The record of a run is read in such a store half a second later, and gone after two seconds. -/
theorem given_keeps_stocked :
    let i := make .empty ⟨[], []⟩ .start Engine.usualRetention Engine.usualLimit Engine.usualRequestLimit false stocked
    let c : Call := ⟨.start, Engine.pair .ending, .null, ""⟩
    stocked.size ≠ 0 ∧ (∀ k ∈ stocked.entries, ∀ n : Nat, k.id ≠ "exec-" ++ toString n) ∧
      ((i.run c).given.get? (Clock.start.advance 0.5).reading "exec-1").1 = some (i.entry c).record ∧
      ((i.run c).given.get? (Clock.start.advance 2.0).reading "exec-1").1 = none := by
  intro i c
  have held : stocked.size ≠ 0 := by decide
  have foreign : ∀ k ∈ stocked.entries, ∀ n : Nat, k.id ≠ "exec-" ++ toString n := by
    intro k listed n same
    rw [List.mem_singleton.mp listed] at same
    have first := congrArg (fun s : String => s.toList.head?) same
    simp at first
  have named : (i.asked c).nextId = "exec-1" := by decide +kernel
  have read (reading : Clock) : ((i.run c).given.get? reading.reading (i.asked c).nextId).1 =
      if false || (i.entry c).isDue reading.reading then none else some (i.entry c).record :=
    (given_keeps .empty ⟨[], []⟩ .start Engine.usualRetention Engine.usualLimit Engine.usualRequestLimit false stocked
      held foreign [] [] c reading).2.2.1
  rw [named] at read
  have waits : (i.entry c).isDue (Clock.start.advance 0.5).reading = false := by decide +kernel
  have due : (i.entry c).isDue (Clock.start.advance 2.0).reading = true := by decide +kernel
  refine ⟨held, foreign, ?_, ?_⟩
  · rw [read, waits]
    rfl
  · rw [read, due]
    rfl

/-- A store without entries stays as it is, whatever is run. -/
theorem given_of_empty {registry : Registry} {transport : Http.Transport} {clock : Clock} {retention : Number}
    {limit requestLimit : Int} {isPermissive : Bool} (empty : s.size = 0) (calls : List Call) :
    ((make registry transport clock retention limit requestLimit isPermissive s).runAll calls).given = s := by
  have apart (i : Installed) (lonely : i.isShared = false) : (i.runAll calls).given = i.given := by
    induction calls generalizing i with
    | nil => rfl
    | cons c rest ih =>
        refine (ih (i.run c) lonely).trans ?_
        exact if_neg (by simp [lonely])
  exact apart _ (by simp [make, empty])

/-- A run is not found in a store that was empty when the engine was made, and the engine reads its record when the
retention of that store is over. -/
theorem given_empty_unused :
    let s : RunStore := .empty (.float 1.0)
    let i := make .empty ⟨[], []⟩ .start Engine.usualRetention Engine.usualLimit Engine.usualRequestLimit false s
    let final := i.run ⟨.start, Engine.pair .ending, .null, ""⟩
    final.given = s ∧ (final.given.get? final.engine.clock.reading "exec-1").1.isNone = true ∧
      (match ({ final.engine with clock := final.engine.clock.advance 2.0 }.get? "exec-1").1 with
        | .ok (some record) => record.status == .completed
        | _ => false) = true := by
  intro s i final
  refine ⟨given_of_empty rfl [_], by decide +kernel, by decide +kernel⟩

end Installed

end WorkflowEngine
