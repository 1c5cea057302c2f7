import Mathlib.Data.List.Nodup
import WorkflowEngine.Store.Basic

/-!
# Looking up entries of a store

What becomes of the entry under an id where entries are changed, removed or added, as long as changes leave
the ids as they are.
-/

namespace WorkflowEngine.Store

variable {σ τ ρ κ : Type} {s : Store σ τ ρ κ} {id other : String} {f : Entry τ ρ κ → Entry τ ρ κ}

theorem entries_change (s : Store σ τ ρ κ) (id : String) (f : Entry τ ρ κ → Entry τ ρ κ) :
    (s.change id f).entries = s.entries.map fun e => if e.id == id then f e else e :=
  rfl

theorem ext_entries {t : Store σ τ ρ κ} (retention : s.retention = t.retention) (entries : s.entries = t.entries) :
    s = t := by
  cases s
  cases t
  cases retention
  cases entries
  rfl

/-- A change under one id is seen under this id only. -/
theorem find?_change_eq (same : ∀ e, (f e).id = e.id) :
    (s.change id f).find? other = (s.find? other).map fun e => if e.id == id then f e else e := by
  have keeps : ((fun e : Entry τ ρ κ => e.id == other) ∘ fun e => if e.id == id then f e else e) =
      fun e => e.id == other := by
    funext e
    simp only [Function.comp_apply]
    split <;> simp [same]
  simp only [change, find?, List.find?_map, keeps]

/-- Where changes leave the ids as they are, the entry under an id is the changed one that was there. -/
theorem find?_change (same : ∀ e, (f e).id = e.id) : (s.change id f).find? id = (s.find? id).map f := by
  rw [find?_change_eq same]
  refine Option.map_congr fun e found => ?_
  rw [if_pos (List.find?_some found)]

/-- The entry under another id stays as it is. -/
theorem find?_change_of_ne (same : ∀ e, (f e).id = e.id) (ne : other ≠ id) :
    (s.change id f).find? other = s.find? other := by
  rw [find?_change_eq same]
  cases found : s.find? other with
  | none => rfl
  | some e =>
      have hit : e.id = other := by simpa using List.find?_some found
      simp [hit, ne]

/-- Nothing is found under an id that is removed. -/
theorem find?_remove_self : (s.remove id).find? id = none := by
  simp [remove, find?]

/-- What is removed is seen under its own id only. -/
theorem find?_remove_of_ne (ne : other ≠ id) : (s.remove id).find? other = s.find? other := by
  unfold remove find?
  rw [List.find?_filter]
  congr 1
  funext e
  cases hit : e.id == other with
  | false => simp
  | true =>
      have same : e.id = other := by simpa using hit
      simp [same, ne]

/-- A record with a deadline is not active. -/
theorem not_mem_active_finalize (deadline : τ) : id ∉ (s.finalize id deadline).active := by
  intro active
  obtain ⟨e, listed, same⟩ := List.mem_map.mp active
  obtain ⟨changed, waits⟩ := List.mem_filter.mp listed
  obtain ⟨old, -, rfl⟩ := List.mem_map.mp changed
  cases hit : old.id == id with
  | true =>
      rw [hit] at waits
      cases waits
  | false =>
      rw [hit] at same
      rw [beq_eq_false_iff_ne] at hit
      exact hit same

/-- Writing lines puts them in front of the log under an id, the last one first, and leaves the record as it is. -/
theorem find?_append (lines : List κ) {e : Entry τ ρ κ} (found : s.find? id = some e) :
    (lines.foldl (fun kept l => kept.append id l) s).find? id = some { e with log := lines.reverse ++ e.log } := by
  induction lines generalizing s e with
  | nil => exact found
  | cons line rest ih =>
      rw [List.reverse_cons, List.append_assoc]
      refine ih (s := s.append id line) (e := { e with log := line :: e.log }) ?_
      rw [append, find?_change (by exact fun _ => rfl), found]
      rfl

theorem retention_append (s : Store σ τ ρ κ) (id : String) (lines : List κ) :
    (lines.foldl (fun kept l => kept.append id l) s).retention = s.retention := by
  induction lines generalizing s with
  | nil => rfl
  | cons line rest ih => exact ih _

/-! ## Distinct ids -/

/-- No id has two entries. -/
def Distinct (s : Store σ τ ρ κ) : Prop :=
  (s.entries.map Entry.id).Nodup

/-- The only entry under an id is the one that is found. -/
theorem find?_of_mem (distinct : s.Distinct) {e : Entry τ ρ κ} (listed : e ∈ s.entries) : s.find? e.id = some e := by
  obtain ⟨retention, entries⟩ := s
  unfold find?
  dsimp only at listed ⊢
  induction entries with
  | nil => cases listed
  | cons first rest ih =>
      obtain ⟨fresh, distinct⟩ := List.nodup_cons.mp distinct
      rcases List.mem_cons.mp listed with rfl | listed
      · simp
      · have other : first.id ≠ e.id := fun same => fresh (same ▸ List.mem_map_of_mem listed)
        simpa [other] using ih distinct listed

theorem Distinct.filter (distinct : s.Distinct) (keep : Entry τ ρ κ → Bool) :
    Distinct { s with entries := s.entries.filter keep } :=
  List.Nodup.sublist (List.filter_sublist.map Entry.id) distinct

theorem Distinct.change (distinct : s.Distinct) (same : ∀ e, (f e).id = e.id) : (s.change id f).Distinct := by
  have ids : (s.change id f).entries.map Entry.id = s.entries.map Entry.id := by
    rw [entries_change, List.map_map]
    refine List.map_congr_left fun e _ => ?_
    simp only [Function.comp_apply]
    split
    · exact same e
    · rfl
  unfold Distinct
  rw [ids]
  exact distinct

/-- A record is stored only under an id that is not taken. -/
theorem Distinct.snoc (distinct : s.Distinct) {record : ρ} (fresh : s.find? id = none) :
    Distinct { s with entries := s.entries ++ [⟨id, record, [], none⟩] } := by
  unfold Distinct
  rw [List.map_append]
  refine List.Nodup.append distinct (List.nodup_singleton id) (List.disjoint_singleton.mpr fun listed => ?_)
  obtain ⟨e, member, same⟩ := List.mem_map.mp listed
  exact List.find?_eq_none.mp fresh e member (by simp [same])

variable [LE τ] [DecidableLE τ]

/-- A record under an id that is not taken is stored under it. -/
theorem create_of_fresh {now : τ} (record : ρ) (fresh : (s.purge now).2.find? id = none) :
    ∃ t, s.create now id record = (.ok (), t) ∧ t.find? id = some ⟨id, record, [], none⟩ ∧
      t.retention = s.retention := by
  refine ⟨{ (s.purge now).2 with entries := (s.purge now).2.entries ++ [⟨id, record, [], none⟩] }, ?_, ?_, rfl⟩
  · unfold create
    dsimp only
    rw [fresh]
    rfl
  · unfold find? at fresh ⊢
    rw [List.find?_append, fresh]
    simp

end WorkflowEngine.Store
