import Mathlib
import WorkflowEngine.Proofs.Store.Lookup

/-!
# Stores that forget in time

A store removes a record some time after its deadline, when somebody asks for the record or stores another
one.  A prompt store removes it at the deadline.  Nobody who asks for records, for logs or for active ids, or
who stores records, can tell them apart, as long as the clock does not go back and no record is made final
twice.
-/

namespace WorkflowEngine

/-- What is asked of a store. -/
inductive StoreRequest (ρ κ : Type) where
  | create (id : String) (record : ρ)
  | append (id : String) (line : κ)
  /-- The record under an id is changed in place. -/
  | replace (id : String) (record : ρ)
  | finalize (id : String)
  | get (id : String)
  | log (id : String)
  | active
  | evict (id : String)
  | purge
deriving Repr, Inhabited

/-- What a store answers. -/
inductive StoreAnswer (ρ κ : Type) where
  | stored
  | refused (e : StoreError)
  | record (found : Option ρ)
  | lines (log : List κ)
  | ids (active : List String)
  | silence
deriving Repr, Inhabited, DecidableEq

/-- A request with its time and with the answer to it. -/
structure StoreEvent (τ ρ κ : Type) where
  time : τ
  request : StoreRequest ρ κ
  answer : StoreAnswer ρ κ
deriving Repr, Inhabited

/-- What an attempt to store a record is answered with. -/
def StoreAnswer.ofCreation {ρ κ : Type} : Except StoreError Unit → StoreAnswer ρ κ
  | .ok () => .stored
  | .error e => .refused e

/-- An entry that is due stays due. -/
theorem Entry.isDue_mono {τ ρ κ : Type} [LinearOrder τ] {now later : τ} (le : now ≤ later) {e : Entry τ ρ κ}
    (due : e.isDue now = true) : e.isDue later = true := by
  unfold Entry.isDue at due ⊢
  split at due
  · exact decide_eq_true (le_trans (of_decide_eq_true due) le)
  · cases due

namespace Store

variable {τ ρ κ : Type}

variable [LinearOrder τ]

/-- What is left of a store once everything that is due is gone. -/
def current (now : τ) (s : Store τ τ ρ κ) : Store τ τ ρ κ :=
  (s.purge now).2

section Requests

variable [Add τ]

/-- A store at work on a request. -/
def respond (now : τ) (q : StoreRequest ρ κ) (s : Store τ τ ρ κ) : StoreAnswer ρ κ × Store τ τ ρ κ :=
  match q with
  | .create id record => (.ofCreation (s.create now id record).1, (s.create now id record).2)
  | .append id line => (.silence, s.append id line)
  | .replace id record => (.silence, s.replace id record)
  | .finalize id => (.silence, s.finalize id (now + s.retention))
  | .get id => (.record (s.get? now id).1, (s.get? now id).2)
  | .log id => (.lines (s.log now id).1, (s.log now id).2)
  | .active => (.ids s.active, s)
  | .evict id => (.silence, (s.evict id).2)
  | .purge => (.silence, (s.purge now).2)

/-- A store without anything that is due at work on a request; it never looks at deadlines. -/
def act (now : τ) (q : StoreRequest ρ κ) (s : Store τ τ ρ κ) : StoreAnswer ρ κ × Store τ τ ρ κ :=
  match q with
  | .create id record =>
    if (s.find? id).isSome then (.refused (.taken id), s)
    else (.stored, { s with entries := s.entries ++ [⟨id, record, [], none⟩] })
  | .append id line => (.silence, s.append id line)
  | .replace id record => (.silence, s.replace id record)
  | .finalize id => (.silence, s.finalize id (now + s.retention))
  | .get id => (.record ((s.find? id).map Entry.record), s)
  | .log id => (.lines (((s.find? id).map fun e => e.log.reverse).getD []), s)
  | .active => (.ids s.active, s)
  | .evict id => (.silence, s.remove id)
  | .purge => (.silence, s)

/-- A prompt store at work on a request: whatever is due is gone before. -/
def respondPromptly (now : τ) (q : StoreRequest ρ κ) (s : Store τ τ ρ κ) : StoreAnswer ρ κ × Store τ τ ρ κ :=
  (s.current now).act now q

/-- The events of a sequence of requests, and the store that is left. -/
def work (step : τ → StoreRequest ρ κ → Store τ τ ρ κ → StoreAnswer ρ κ × Store τ τ ρ κ) (s : Store τ τ ρ κ) :
    List (τ × StoreRequest ρ κ) → List (StoreEvent τ ρ κ) × Store τ τ ρ κ
  | [] => ([], s)
  | (now, q) :: rest =>
    let done := work step (step now q s).2 rest
    (⟨now, q, (step now q s).1⟩ :: done.1, done.2)

/-- No record that is already final is made final again. -/
def FinalizesOnce (s : Store τ τ ρ κ) : List (τ × StoreRequest ρ κ) → Prop
  | [] => True
  | (now, q) :: rest =>
    (∀ id e, q = .finalize id → s.find? id = some e → e.deadline = none) ∧ FinalizesOnce (s.respond now q).2 rest

end Requests

/-! ## What is due -/

section Current

variable {s p : Store τ τ ρ κ} {id : String} {now later : τ} {f : Entry τ ρ κ → Entry τ ρ κ}

theorem entries_current (now : τ) (s : Store τ τ ρ κ) :
    (s.current now).entries = s.entries.filter fun e => !e.isDue now :=
  rfl

theorem retention_current (now : τ) (s : Store τ τ ρ κ) : (s.current now).retention = s.retention :=
  rfl

/-- What is gone is still gone later. -/
theorem current_current (le : now ≤ later) (s : Store τ τ ρ κ) : (s.current now).current later = s.current later := by
  refine ext_entries rfl ?_
  rw [entries_current, entries_current, entries_current, List.filter_filter]
  refine List.filter_congr fun e _ => ?_
  cases due : e.isDue now with
  | false => simp
  | true => simp [Entry.isDue_mono le due]

/-- Records that are not final are there for as long as nobody removes them. -/
theorem active_current (now : τ) (s : Store τ τ ρ κ) : (s.current now).active = s.active := by
  unfold active
  rw [entries_current, List.filter_filter]
  congr 1
  refine List.filter_congr fun e _ => ?_
  unfold Entry.isActive Entry.isDue
  cases e.deadline <;> simp

theorem current_remove (now : τ) (s : Store τ τ ρ κ) (id : String) :
    (s.remove id).current now = (s.current now).remove id := by
  refine ext_entries rfl ?_
  change List.filter _ (List.filter _ s.entries) = List.filter _ (List.filter _ s.entries)
  rw [List.filter_filter, List.filter_filter]
  exact List.filter_congr fun e _ => Bool.and_comm _ _

/-- It makes no difference whether an entry is changed before or after everything that is due is gone, unless
the change puts off a deadline that is reached. -/
theorem current_change (still : ∀ e ∈ s.entries, e.id = id → e.isDue now = true → (f e).isDue now = true) :
    ((s.current now).change id f).current now = (s.change id f).current now := by
  refine ext_entries rfl ?_
  rw [entries_current, entries_current, entries_change, entries_change, entries_current, List.filter_map,
    List.filter_map, List.filter_filter]
  congr 1
  refine List.filter_congr fun e listed => ?_
  cases due : e.isDue now with
  | false => simp
  | true =>
      by_cases hit : e.id = id
      · simp [hit, still e listed hit due]
      · simp [hit, due]

/-- What an entry under an id is, once everything that is due is gone. -/
theorem find?_current (distinct : s.Distinct) (now : τ) (id : String) :
    (s.current now).find? id = (s.find? id).filter fun e => !e.isDue now := by
  obtain ⟨retention, entries⟩ := s
  unfold find?
  rw [entries_current]
  dsimp only
  induction entries with
  | nil => rfl
  | cons e rest ih =>
      obtain ⟨fresh, distinct⟩ := List.nodup_cons.mp distinct
      by_cases hit : e.id = id
      · subst hit
        cases due : e.isDue now with
        | false => simp [due, Option.filter_some]
        | true =>
            have gone : (rest.filter fun e => !e.isDue now).find? (fun x => x.id == e.id) = none := by
              refine List.find?_eq_none.mpr fun x listed same => fresh ?_
              exact beq_iff_eq.mp same ▸ List.mem_map_of_mem (List.mem_of_mem_filter listed)
            rw [List.filter_cons_of_neg (by simp [due]), gone]
            simp [due, Option.filter_some]
      · cases due : e.isDue now with
        | false => simpa [due, hit] using ih distinct
        | true => simpa [due, hit] using ih distinct

theorem live?_fst (now : τ) (id : String) (s : Store τ τ ρ κ) :
    (s.live? now id).1 = (s.find? id).filter fun e => !e.isDue now := by
  unfold live?
  cases s.find? id with
  | none => rfl
  | some e => cases due : e.isDue now <;> simp [due, Option.filter_some]

/-- Looking for an entry removes nothing but what is due. -/
theorem current_live? (distinct : s.Distinct) (now : τ) (id : String) :
    (s.live? now id).2.current now = s.current now := by
  unfold live?
  cases found : s.find? id with
  | none => rfl
  | some e =>
      cases due : e.isDue now with
      | false => simp [due]
      | true =>
          simp only [due, if_true]
          refine ext_entries rfl ?_
          rw [entries_current, entries_current]
          change List.filter _ (List.filter _ s.entries) = _
          rw [List.filter_filter]
          refine List.filter_congr fun x listed => ?_
          by_cases hit : x.id = id
          · have same : some x = some e := by rw [← found, ← hit, find?_of_mem distinct listed]
            cases same
            simp [due]
          · simp [hit]

end Current

/-! ## Distinct ids -/

section Distinct

variable {s : Store τ τ ρ κ} {id : String} {f : Entry τ ρ κ → Entry τ ρ κ}

theorem Distinct.current (distinct : s.Distinct) (now : τ) : (s.current now).Distinct :=
  distinct.filter _

theorem Distinct.live? (distinct : s.Distinct) (now : τ) (id : String) : (s.live? now id).2.Distinct := by
  unfold Store.live?
  split
  · exact distinct
  · split
    · exact distinct.filter _
    · exact distinct

variable [Add τ]

omit [LinearOrder τ] in
theorem Distinct.act (distinct : s.Distinct) (now : τ) (q : StoreRequest ρ κ) : (s.act now q).2.Distinct := by
  cases q with
  | create id record =>
      unfold Store.act
      dsimp only
      split
      · exact distinct
      · exact distinct.snoc (Option.not_isSome_iff_eq_none.mp ‹_›)
  | append id line => exact distinct.change fun _ => rfl
  | replace id record => exact distinct.change fun _ => rfl
  | finalize id => exact distinct.change fun _ => rfl
  | evict id => exact distinct.filter _
  | get _ => exact distinct
  | log _ => exact distinct
  | active => exact distinct
  | purge => exact distinct

/-- Storing a record begins with the removal of what is due. -/
theorem respond_create (now : τ) (id : String) (record : ρ) (s : Store τ τ ρ κ) :
    s.respond now (.create id record) = s.respondPromptly now (.create id record) := by
  unfold respond respondPromptly Store.act create Store.current
  dsimp only
  cases ((s.purge now).2.find? id).isSome <;> rfl

theorem Distinct.respondPromptly (distinct : s.Distinct) (now : τ) (q : StoreRequest ρ κ) :
    (s.respondPromptly now q).2.Distinct :=
  (distinct.current now).act now q

theorem Distinct.respond (distinct : s.Distinct) (now : τ) (q : StoreRequest ρ κ) : (s.respond now q).2.Distinct := by
  cases q with
  | create id record =>
      rw [respond_create]
      exact distinct.respondPromptly now _
  | append id line => exact distinct.change fun _ => rfl
  | replace id record => exact distinct.change fun _ => rfl
  | finalize id => exact distinct.change fun _ => rfl
  | get id => exact distinct.live? now id
  | log id => exact distinct.live? now id
  | active => exact distinct
  | evict id => exact distinct.filter _
  | purge => exact distinct.filter _

end Distinct

/-! ## A store and a prompt store -/

variable [Add τ] {s p : Store τ τ ρ κ} {now : τ} {q : StoreRequest ρ κ}

/-- One request: the answers are the same, and so is what is left once everything that is due is gone. -/
theorem respond_step (distinct : s.Distinct) (now : τ)
    (once : ∀ id e, q = .finalize id → s.find? id = some e → e.deadline = none) :
    (s.respond now q).1 = (s.respondPromptly now q).1 ∧
      (s.respond now q).2.current now = (s.respondPromptly now q).2.current now := by
  have again : (s.current now).current now = s.current now := current_current le_rfl s
  cases q with
  | create id record => exact ⟨by rw [respond_create], by rw [respond_create]⟩
  | append id line =>
      refine ⟨rfl, (current_change fun _ _ _ due => ?_).symm⟩
      exact due
  | replace id record =>
      refine ⟨rfl, (current_change fun _ _ _ due => ?_).symm⟩
      exact due
  | finalize id =>
      refine ⟨rfl, (current_change fun e listed hit due => ?_).symm⟩
      have waits := once id e rfl (hit ▸ find?_of_mem distinct listed)
      simp [Entry.isDue, waits] at due
  | get id =>
      have seen : ((s.live? now id).1.map Entry.record) = ((s.current now).find? id).map Entry.record := by
        rw [live?_fst, find?_current distinct]
      exact ⟨congrArg StoreAnswer.record seen, (current_live? distinct now id).trans again.symm⟩
  | log id =>
      have seen : ((s.live? now id).1.map fun e => e.log.reverse).getD [] =
          (((s.current now).find? id).map fun e => e.log.reverse).getD [] := by
        rw [live?_fst, find?_current distinct]
      exact ⟨congrArg StoreAnswer.lines seen, (current_live? distinct now id).trans again.symm⟩
  | active => exact ⟨congrArg StoreAnswer.ids (active_current now s).symm, again.symm⟩
  | evict id =>
      refine ⟨rfl, ?_⟩
      change (s.remove id).current now = ((s.current now).remove id).current now
      rw [current_remove, current_remove, again]
  | purge => exact ⟨rfl, rfl⟩

/-- All requests: two stores of which the same is left at every time that may come give the same answers, and
the same is left of them at every later time. -/
theorem work_step (late : τ → Prop) {requests : List (τ × StoreRequest ρ κ)} (distinct : s.Distinct)
    (agree : ∀ now, late now → s.current now = p.current now) (coming : ∀ r ∈ requests, late r.1)
    (orderly : (requests.map Prod.fst).Pairwise (· ≤ ·)) (once : s.FinalizesOnce requests) :
    (work respond s requests).1 = (work respondPromptly p requests).1 ∧
      ∀ now, late now → (∀ r ∈ requests, r.1 ≤ now) →
        (work respond s requests).2.current now = (work respondPromptly p requests).2.current now := by
  induction requests generalizing s p late with
  | nil => exact ⟨rfl, fun now reached _ => agree now reached⟩
  | cons first rest ih =>
      obtain ⟨time, q⟩ := first
      obtain ⟨before, orderly⟩ := List.pairwise_cons.mp orderly
      obtain ⟨here, once⟩ := once
      obtain ⟨answer, left⟩ := respond_step distinct time here
      have prompt : s.respondPromptly time q = p.respondPromptly time q := by
        unfold respondPromptly
        rw [agree time (coming _ List.mem_cons_self)]
      rw [prompt] at answer left
      have next : ∀ now, time ≤ now →
          (s.respond time q).2.current now = (p.respondPromptly time q).2.current now := fun now le => by
        rw [← current_current le (s.respond time q).2, left, current_current le]
      obtain ⟨events, final⟩ := ih (time ≤ ·) (distinct.respond time q) next
        (fun r listed => before r.1 (List.mem_map_of_mem listed)) orderly once
      refine ⟨?_, fun now _ passed => ?_⟩
      · unfold work
        dsimp only
        rw [answer, events]
      · exact final now (passed _ List.mem_cons_self) fun r listed => passed r (List.mem_cons_of_mem _ listed)

end Store

end WorkflowEngine
