import Mathlib
import WorkflowEngine.Proofs.Store.Prompt

/-!
# What a store answers

What stands under an id can be read off the events of a store: the record that was stored last, the lines that
were written since, until the deadline of the record is reached or the record is removed.  A store that forgets
in time answers with that.
-/

namespace WorkflowEngine

/-- What stands under an id: the record, the lines that were written since it was stored, and its deadline. -/
structure Standing (τ ρ κ : Type) where
  record : ρ
  lines : List κ
  deadline : Option τ
deriving Repr, Inhabited

namespace Standing

variable {τ ρ κ : Type}

/-- What an entry says about its id. -/
def ofEntry (e : Entry τ ρ κ) : Standing τ ρ κ :=
  ⟨e.record, e.log.reverse, e.deadline⟩

variable [LinearOrder τ]

/-- The deadline is not reached. -/
def isLive (now : τ) (r : Standing τ ρ κ) : Bool :=
  r.deadline.all (now < ·)

theorem isLive_ofEntry (now : τ) (e : Entry τ ρ κ) : (ofEntry e).isLive now = !e.isDue now := by
  unfold isLive ofEntry Entry.isDue
  cases e.deadline with
  | none => rfl
  | some limit => simp [← decide_not]

variable [Add τ]

/-- What an event leaves of what stands under an id, where records are kept for some time once they are final. -/
def follow (retention : τ) (id : String) (standing : Option (Standing τ ρ κ)) (e : StoreEvent τ ρ κ) :
    Option (Standing τ ρ κ) :=
  let standing := standing.filter (isLive e.time)
  match e.request, e.answer with
  | .create other record, .stored => if other == id then some ⟨record, [], none⟩ else standing
  | .append other line, _ =>
    if other == id then standing.map fun r => { r with lines := r.lines ++ [line] } else standing
  | .replace other record, _ => if other == id then standing.map fun r => { r with record := record } else standing
  | .finalize other, _ =>
    if other == id then standing.map fun r => { r with deadline := some (e.time + retention) } else standing
  | .evict other, _ => if other == id then none else standing
  | _, _ => standing

/-- What stands under an id at some time after the events of a history. -/
def after? (retention : τ) (id : String) (history : List (StoreEvent τ ρ κ)) (now : τ) :
    Option (Standing τ ρ κ) :=
  (history.foldl (follow retention id) none).filter (isLive now)

end Standing

namespace Store

variable {τ ρ κ : Type}

/-- What stands under an id of a store. -/
def registered? (s : Store τ τ ρ κ) (id : String) : Option (Standing τ ρ κ) :=
  (s.find? id).map .ofEntry

section Changes

variable {s : Store τ τ ρ κ} {id other : String} {f : Entry τ ρ κ → Entry τ ρ κ}

/-- A change of an entry is a change of what stands under its id. -/
theorem registered?_change (g : Standing τ ρ κ → Standing τ ρ κ) (same : ∀ e, (f e).id = e.id)
    (changes : ∀ e, .ofEntry (f e) = g (.ofEntry e)) :
    (s.change other f).registered? id = if other == id then (s.registered? id).map g else s.registered? id := by
  unfold registered?
  by_cases hit : other = id
  · subst hit
    rw [if_pos (beq_self_eq_true other), find?_change same, Option.map_map, Option.map_map]
    exact Option.map_congr fun e _ => changes e
  · rw [if_neg (by simpa using hit), find?_change_of_ne same (Ne.symm hit)]

theorem registered?_remove : (s.remove other).registered? id = if other == id then none else s.registered? id := by
  unfold registered?
  by_cases hit : other = id
  · subst hit
    rw [if_pos (beq_self_eq_true other), find?_remove_self, Option.map_none]
  · rw [if_neg (by simpa using hit), find?_remove_of_ne (Ne.symm hit)]

theorem registered?_snoc {record : ρ} (fresh : s.find? other = none) :
    registered? { s with entries := s.entries ++ [⟨other, record, [], none⟩] } id =
      if other == id then some ⟨record, [], none⟩ else s.registered? id := by
  unfold registered? find?
  rw [List.find?_append]
  by_cases hit : other = id
  · subst hit
    rw [if_pos (beq_self_eq_true other), show s.entries.find? (fun e => e.id == other) = none from fresh]
    simp [Standing.ofEntry]
  · rw [if_neg (by simpa using hit)]
    simp [hit]

variable [LinearOrder τ]

theorem registered?_current (distinct : s.Distinct) (now : τ) (id : String) :
    (s.current now).registered? id = (s.registered? id).filter (Standing.isLive now) := by
  unfold registered?
  rw [find?_current distinct, Option.filter_map]
  congr 2
  funext e
  exact (Standing.isLive_ofEntry now e).symm

end Changes

section Requests

variable [LinearOrder τ] [Add τ] {p : Store τ τ ρ κ}

omit [LinearOrder τ] in
/-- No request changes how long records are kept. -/
theorem retention_act (now : τ) (q : StoreRequest ρ κ) (s : Store τ τ ρ κ) : (s.act now q).2.retention = s.retention := by
  cases q with
  | create id record =>
      unfold act
      dsimp only
      split <;> rfl
  | _ => rfl

/-- One request to a prompt store is followed by what stands under every id. -/
theorem registered?_respondPromptly (distinct : p.Distinct) (now : τ) (q : StoreRequest ρ κ) (id : String) :
    (p.respondPromptly now q).2.registered? id =
      Standing.follow p.retention id (p.registered? id) ⟨now, q, (p.respondPromptly now q).1⟩ := by
  have still := registered?_current distinct now id
  unfold Standing.follow
  dsimp only
  rw [← still]
  cases q with
  | create other record =>
      unfold respondPromptly act
      dsimp only
      cases found : (p.current now).find? other with
      | some e => rfl
      | none => exact registered?_snoc found
  | append other line =>
      refine registered?_change (fun r => { r with lines := r.lines ++ [line] }) (fun _ => rfl) fun e => ?_
      simp [Standing.ofEntry]
  | replace other record =>
      exact registered?_change (fun r => { r with record := record }) (fun _ => rfl) fun e => rfl
  | finalize other =>
      exact registered?_change (fun r => { r with deadline := some (now + p.retention) }) (fun _ => rfl) fun e => rfl
  | evict other => exact registered?_remove
  | get _ => rfl
  | log _ => rfl
  | active => rfl
  | purge => rfl

/-- All requests to a prompt store are followed by what stands under every id. -/
theorem registered?_work (distinct : p.Distinct) (requests : List (τ × StoreRequest ρ κ)) (id : String) :
    (work respondPromptly p requests).2.registered? id =
      (work respondPromptly p requests).1.foldl (Standing.follow p.retention id) (p.registered? id) := by
  induction requests generalizing p with
  | nil => rfl
  | cons first rest ih =>
      obtain ⟨now, q⟩ := first
      have kept : (p.respondPromptly now q).2.retention = p.retention := retention_act now q _
      unfold work
      rw [List.foldl_cons, ← registered?_respondPromptly distinct, ← kept]
      exact ih (distinct.respondPromptly now q)

omit [LinearOrder τ] [Add τ] in
theorem Distinct.work {step : τ → StoreRequest ρ κ → Store τ τ ρ κ → StoreAnswer ρ κ × Store τ τ ρ κ}
    (keeps : ∀ {s : Store τ τ ρ κ}, s.Distinct → ∀ now q, (step now q s).2.Distinct) (distinct : p.Distinct)
    (requests : List (τ × StoreRequest ρ κ)) : (work step p requests).2.Distinct := by
  induction requests generalizing p with
  | nil => exact distinct
  | cons first rest ih => exact ih (keeps distinct first.1 first.2)

end Requests

section Answers

variable [LinearOrder τ] {s : Store τ τ ρ κ} {id : String} {now : τ}

theorem get?_fst (distinct : s.Distinct) :
    (s.get? now id).1 = ((s.current now).registered? id).map Standing.record := by
  unfold registered?
  rw [find?_current distinct, ← live?_fst, Option.map_map]
  rfl

theorem log_fst (distinct : s.Distinct) :
    (s.log now id).1 = (((s.current now).registered? id).map Standing.lines).getD [] := by
  unfold registered?
  rw [find?_current distinct, ← live?_fst, Option.map_map]
  rfl

theorem create_fst (record : ρ) : (s.create now id record).1 = .ok () ↔ (s.current now).registered? id = none := by
  unfold create registered? current
  dsimp only
  cases (s.purge now).2.find? id <;> simp

theorem mem_active (distinct : s.Distinct) :
    id ∈ s.active ↔ ∃ r, (s.current now).registered? id = some r ∧ r.deadline = none := by
  rw [← active_current now s]
  have current := distinct.current now
  constructor
  · intro listed
    obtain ⟨e, member, rfl⟩ := List.mem_map.mp listed
    obtain ⟨member, waits⟩ := List.mem_filter.mp member
    refine ⟨.ofEntry e, ?_, Option.isNone_iff_eq_none.mp waits⟩
    rw [registered?, find?_of_mem current member, Option.map_some]
  · rintro ⟨r, found, waits⟩
    unfold registered? at found
    obtain ⟨e, there, rfl⟩ := Option.map_eq_some_iff.mp found
    have hit := List.find?_some there
    have waits : e.isActive = true := Option.isNone_iff_eq_none.mpr waits
    exact List.mem_map.mpr ⟨e, List.mem_filter.mpr ⟨List.mem_of_find?_eq_some there, waits⟩, beq_iff_eq.mp hit⟩

end Answers

variable [LinearOrder τ] [Add τ]

/-- A store that was asked anything, at times that do not go back, has answered like a prompt store as long as no
record was made final twice, and answers from the lines that were written since a record was stored last, until
its deadline. -/
theorem respond_refines_respondPromptly (retention : τ) (requests : List (τ × StoreRequest ρ κ))
    (orderly : (requests.map Prod.fst).Pairwise (· ≤ ·)) (once : FinalizesOnce (empty retention) requests) :
    (work respond (empty retention) requests).1 = (work respondPromptly (empty retention) requests).1 ∧
      ∀ (id : String) (now : τ), (∀ r ∈ requests, r.1 ≤ now) →
        let s := (work respond (empty retention) requests).2
        let standing := Standing.after? retention id (work respond (empty retention) requests).1 now
        (s.get? now id).1 = standing.map Standing.record ∧
          (s.log now id).1 = (standing.map Standing.lines).getD [] ∧
          (∀ record, (s.create now id record).1 = .ok () ↔ standing = none) ∧
          (id ∈ s.active ↔ ∃ r, standing = some r ∧ r.deadline = none) := by
  have bare : Distinct (empty retention : Store τ τ ρ κ) := List.nodup_nil
  obtain ⟨events, final⟩ := work_step (p := empty retention) (fun _ => True) bare (fun _ _ => rfl) (fun _ _ => trivial)
    orderly once
  refine ⟨events, fun id now passed => ?_⟩
  have distinct := Distinct.work Distinct.respond bare requests
  have standing : Standing.after? retention id (work respond (empty retention) requests).1 now =
      ((work respond (empty retention) requests).2.current now).registered? id := by
    rw [final now trivial passed, registered?_current (Distinct.work Distinct.respondPromptly bare requests), registered?_work bare, events]
    rfl
  dsimp only
  rw [standing]
  exact ⟨get?_fst distinct, log_fst distinct, create_fst, mem_active distinct⟩

/-- A record that is asked for when its time is up, and another one under its id. -/
def renewal : List (Nat × StoreRequest String String) :=
  [(0, .create "r" "first"), (1, .append "r" "one"), (2, .finalize "r"), (6, .log "r"), (7, .get "r"),
    (8, .create "r" "second"), (8, .append "r" "two"), (9, .active)]

theorem respond_refines_renewal :
    (renewal.map Prod.fst).Pairwise (· ≤ ·) ∧ FinalizesOnce (empty 5) renewal ∧
      (work respond (empty 5) renewal).1 = (work respondPromptly (empty 5) renewal).1 ∧
        ((work respond (empty 5) renewal).2.log 100 "r").1 = ["two"] := by
  have orderly : (renewal.map Prod.fst).Pairwise (· ≤ ·) := by decide
  have once : FinalizesOnce (empty 5) renewal := by
    simp [FinalizesOnce, renewal, respond, create, purge, empty, find?, append, change]
  obtain ⟨same, answers⟩ := respond_refines_respondPromptly 5 renewal orderly once
  refine ⟨orderly, once, same, ?_⟩
  rw [(answers "r" 100 (by decide)).2.1]
  rfl

end Store

end WorkflowEngine
