import Mathlib
import WorkflowEngine.Proofs.Store.History

/-!
# Records whose time is up

A record whose deadline is reached may still stand in a store until somebody looks at it.  Nothing that is asked of
the store brings it back, other than storing a record under its id, or making it final again while it still stands
there: that sets a new deadline.
-/

namespace WorkflowEngine.Store

variable {τ ρ κ : Type} [LinearOrder τ] {s : Store τ τ ρ κ} {id other : String} {time now : τ}

/-- If anything stands under an id, its deadline is reached. -/
def IsGone (s : Store τ τ ρ κ) (time : τ) (id : String) : Prop :=
  ∀ e, s.find? id = some e → e.isDue time = true

/-- Something is gone if and only if it is not read. -/
theorem isGone_iff : s.IsGone time id ↔ (s.get? time id).1 = none := by
  have read : (s.get? time id).1 = ((s.find? id).filter fun e => !e.isDue time).map Entry.record := by
    rw [← live?_fst]
    rfl
  rw [read, Option.map_eq_none_iff, Option.filter_eq_none_iff]
  simp [IsGone]

namespace IsGone

/-- What is gone stays gone as time goes by. -/
theorem mono (gone : s.IsGone time id) (le : time ≤ now) : s.IsGone now id :=
  fun e found => Entry.isDue_mono le (gone e found)

theorem of_missing (missing : s.find? id = none) : s.IsGone time id := by
  intro e found
  rw [missing] at found
  cases found

/-- A record that is gone is not read, and no line of its log is. -/
theorem unread (gone : s.IsGone now id) : (s.get? now id).1 = none ∧ (s.log now id).1 = [] := by
  refine ⟨isGone_iff.mp gone, ?_⟩
  have lost : (s.live? now id).1 = none := by
    rw [live?_fst, Option.filter_eq_none_iff]
    simpa [IsGone] using gone
  unfold log
  dsimp only
  rw [lost]
  rfl

/-- A change that leaves ids and deadlines as they are leaves gone what is gone. -/
theorem change {f : Entry τ ρ κ → Entry τ ρ κ} (gone : s.IsGone time id) (same : ∀ e, (f e).id = e.id)
    (still : ∀ e, (f e).deadline = e.deadline) : (s.change other f).IsGone time id := by
  intro e found
  rw [find?_change_eq same] at found
  obtain ⟨old, there, rfl⟩ := Option.map_eq_some_iff.mp found
  have same : (if old.id == other then f old else old).deadline = old.deadline := by
    split
    · exact still old
    · rfl
  have due := gone old there
  unfold Entry.isDue at due ⊢
  rw [same]
  exact due

theorem remove (gone : s.IsGone time id) : (s.remove other).IsGone time id := by
  by_cases hit : id = other
  · exact hit ▸ of_missing find?_remove_self
  · intro e found
    exact gone e (find?_remove_of_ne hit ▸ found)

theorem current (gone : s.IsGone time id) (distinct : s.Distinct) (now : τ) : (s.current now).IsGone time id := by
  intro e found
  rw [find?_current distinct] at found
  exact gone e (Option.mem_filter_iff.mp found).1

theorem live? (gone : s.IsGone time id) (now : τ) : (s.live? now other).2.IsGone time id := by
  unfold Store.live?
  split
  · exact gone
  · split
    · exact gone.remove
    · exact gone

variable [Add τ] {q : StoreRequest ρ κ}

/-- One request brings nothing back, unless it stores a record under the id, or makes final what still stands there. -/
theorem respond (gone : s.IsGone time id) (distinct : s.Distinct) (now : τ)
    (other : ∀ record, q ≠ .create id record) (settled : q = .finalize id → s.find? id = none) :
    (s.respond now q).2.IsGone time id := by
  cases q with
  | create name record =>
      have apart : name ≠ id := fun same => other record (same ▸ rfl)
      have cleared := gone.current distinct now
      rw [respond_create]
      unfold respondPromptly act
      dsimp only
      split
      · exact cleared
      · intro e found
        refine cleared e (Eq.trans ?_ found)
        unfold find?
        rw [List.find?_append]
        simp [apart]
  | append name line => exact gone.change (fun _ => rfl) fun _ => rfl
  | replace name record => exact gone.change (fun _ => rfl) fun _ => rfl
  | finalize name =>
      by_cases hit : name = id
      · subst hit
        refine of_missing ?_
        change (s.change name _).find? name = none
        rw [find?_change (by exact fun _ => rfl), settled rfl]
        rfl
      · intro e found
        refine gone e (Eq.trans ?_ found)
        exact (find?_change_of_ne (by exact fun _ => rfl) (Ne.symm hit)).symm
  | get name => exact gone.live? now
  | log name => exact gone.live? now
  | active => exact gone
  | evict name => exact gone.remove
  | purge => exact gone.current distinct now

end IsGone

variable [Add τ]

/-- Some request makes final what still stands under an id. -/
def Renews (s : Store τ τ ρ κ) (id : String) : List (τ × StoreRequest ρ κ) → Prop
  | [] => False
  | (now, q) :: rest => (q = .finalize id ∧ (s.find? id).isSome = true) ∨ Renews (s.respond now q).2 id rest

/-- Requests that store no record under an id, and make nothing final that still stands there, leave gone what is
gone. -/
theorem IsGone.work (gone : s.IsGone time id) (distinct : s.Distinct) {requests : List (τ × StoreRequest ρ κ)}
    (other : ∀ r ∈ requests, ∀ record, r.2 ≠ .create id record) (settled : ¬ s.Renews id requests) :
    (Store.work Store.respond s requests).2.IsGone time id := by
  induction requests generalizing s with
  | nil => exact gone
  | cons first rest ih =>
      obtain ⟨now, q⟩ := first
      obtain ⟨here, other⟩ := List.forall_mem_cons.mp other
      obtain ⟨calm, settled⟩ := not_or.mp settled
      have missing (same : q = .finalize id) : s.find? id = none :=
        Option.not_isSome_iff_eq_none.mp fun there => calm ⟨same, there⟩
      exact ih (gone.respond distinct now here missing) (distinct.respond now q) other settled

/-- No request changes how long records are kept. -/
theorem retention_respond (now : τ) (q : StoreRequest ρ κ) (s : Store τ τ ρ κ) :
    (s.respond now q).2.retention = s.retention := by
  have looked (name : String) : (s.live? now name).2.retention = s.retention := by
    unfold live?
    split
    · rfl
    · split <;> rfl
  cases q with
  | create name record => rw [respond_create, respondPromptly, retention_act, retention_current]
  | get name => exact looked name
  | log name => exact looked name
  | _ => rfl

theorem retention_work (s : Store τ τ ρ κ) (requests : List (τ × StoreRequest ρ κ)) :
    (work respond s requests).2.retention = s.retention := by
  induction requests generalizing s with
  | nil => rfl
  | cons first rest ih => exact (ih _).trans (retention_respond first.1 first.2 s)

/-- A record that is made final is read until the new deadline. -/
theorem get?_finalize (standing : (s.find? id).isSome = true) (lasting : now < now + s.retention) :
    ((s.respond now (.finalize id)).2.get? now id).1 ≠ none := by
  obtain ⟨e, found⟩ := Option.isSome_iff_exists.mp standing
  intro unread
  have renewed : (s.respond now (.finalize id)).2.find? id = some { e with deadline := some (now + s.retention) } := by
    change (s.change id _).find? id = _
    rw [find?_change (by exact fun _ => rfl), found]
    rfl
  exact not_le_of_gt lasting (of_decide_eq_true (isGone_iff.mpr unread _ renewed))

/-- Where what still stands under an id is made final, it is read again at once, for as long as records are kept at
all. -/
theorem Renews.read {requests : List (τ × StoreRequest ρ κ)} (renews : s.Renews id requests)
    (lasting : ∀ now, now < now + s.retention) :
    ∃ done now, done ++ [(now, .finalize id)] <+: requests ∧
      ((work respond s (done ++ [(now, .finalize id)])).2.get? now id).1 ≠ none := by
  induction requests generalizing s with
  | nil => exact renews.elim
  | cons first rest ih =>
      obtain ⟨now, q⟩ := first
      rcases renews with ⟨rfl, standing⟩ | later
      · exact ⟨[], now, ⟨rest, rfl⟩, get?_finalize standing (lasting now)⟩
      · have kept : (s.respond now q).2.retention = s.retention := retention_respond now q s
        obtain ⟨done, again, begun, read⟩ := ih later (kept ▸ lasting)
        exact ⟨(now, q) :: done, again, List.cons_prefix_cons.mpr ⟨rfl, begun⟩, read⟩

/-- What is not read under an id at some time, since nothing stands there or its deadline is reached, is never read
again, and neither is its log, whatever is asked of the store, unless a record is stored under the id or what still
stands there is made final.  That brings it back: it is read again from the very same moment on. -/
theorem unread_unless_renewed (retention : τ) (earlier later : List (τ × StoreRequest ρ κ)) (id : String) (time : τ)
    (unread : ((work respond (empty retention) earlier).2.get? time id).1 = none)
    (other : ∀ r ∈ later, ∀ record, r.2 ≠ .create id record) :
    let s := (work respond (empty retention) earlier).2
    (¬ s.Renews id later → ∀ now, time ≤ now →
      ((work respond s later).2.get? now id).1 = none ∧ ((work respond s later).2.log now id).1 = []) ∧
      (s.Renews id later → (∀ now, now < now + retention) →
        ∃ done now, done ++ [(now, .finalize id)] <+: later ∧
          ((work respond s (done ++ [(now, .finalize id)])).2.get? now id).1 ≠ none) := by
  intro s
  have bare : Distinct (empty retention : Store τ τ ρ κ) := List.nodup_nil
  have distinct : s.Distinct := Distinct.work Distinct.respond bare earlier
  have kept : s.retention = retention := retention_work (empty retention) earlier
  refine ⟨fun settled now le => ?_, fun renews lasting => renews.read (kept ▸ lasting)⟩
  exact (((isGone_iff.mpr unread).work distinct other settled).mono le).unread

/-- A record that is kept for five units of time from the start on. -/
def brief : List (Nat × StoreRequest String String) :=
  [(0, .create "r" "first"), (0, .append "r" "one"), (0, .finalize "r")]

/-- Nobody has looked at the record since its deadline, and it is not read any more. -/
theorem unread_unless_renewed_brief :
    let later : List (Nat × StoreRequest String String) := [(6, .append "r" "late"), (7, .active), (8, .get "other")]
    let s := (work respond (empty 5) brief).2
    (s.get? 5 "r").1 = none ∧ (∀ r ∈ later, ∀ record, r.2 ≠ .create "r" record) ∧ ¬ s.Renews "r" later ∧
      ((work respond s later).2.find? "r").isSome = true ∧
      ((work respond s later).2.get? 9 "r").1 = none ∧ ((work respond s later).2.log 9 "r").1 = [] := by
  intro later s
  have unread : (s.get? 5 "r").1 = none := by decide
  have other : ∀ r ∈ later, ∀ record, r.2 ≠ .create "r" record := by simp [later]
  have settled : ¬ s.Renews "r" later := by simp [Renews, later]
  exact ⟨unread, other, settled, by decide, (unread_unless_renewed 5 brief later "r" 5 unread other).1 settled 9 (by decide)⟩

/-- The record is not read any more when its deadline is reached, and read again once it is made final a second time. -/
theorem finalize_brings_back :
    let s := (work respond (empty 5) brief).2
    (s.get? 7 "r").1 = none ∧ ((s.respond 8 (.finalize "r")).2.get? 8 "r").1 = some "first" ∧
      ((s.respond 8 (.finalize "r")).2.log 8 "r").1 = ["one"] := by
  decide

end WorkflowEngine.Store
